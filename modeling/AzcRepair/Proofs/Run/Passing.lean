import AzcRepair.Proofs.Run.Passes

/-!
# Runs as lists of passes

A run that gets as far as its first pass is a list of passes: each but the last one mends the
sources, and the last one says how the run ends. The passes are those that `sections` cuts a history
into, so what is to be shown of every pass of a run is shown by induction on `Passing`.

* `Mending`, `Ending` — a pass after which the run goes on, and a pass that ends it.
* `Passing` — the passes of a run with the result that they lead to.
* `passes_passing`, `start_passing` — every history of a run is such a list.
* `inspect_surveyed` — the calls of an inspection that gives a finding.
-/

namespace AzcRepair

open Procedure (Event History Yields)

namespace Run

variable {run : Run} {progress : Progress} {left : Nat} {history pass : History Call Answer}
  {result : Except Failure Outcome}

/-! ## Passes

A pass is a history together with what it means for the run. There is one way for a run to go on
and there are seven for it to end, each with its result. The number of iterations that are left is
part of the relation because only the last two endings depend on it. -/

/-- A pass after which the run goes on: the build reported violations, and the iteration for them
ended with sources that compile. -/
inductive Mending (run : Run) (progress : Progress) : History Call Answer → Prop
  | mk {inspected iterated : History Call Answer} {violation : Violation} {more : List Violation}
    (inspects : Yields run.inspect.run inspected (.ok (.built (violation :: more))))
    (iterates : Yields (run.iterate progress.number (violation :: more)).run iterated (.ok none)) :
    Mending run progress (⟨.cancelled, false⟩ :: (inspected ++ iterated))

/-- A pass that ends the run, when `left` more iterations may be made, and the result. -/
inductive Ending (run : Run) (progress : Progress) :
    Nat → History Call Answer → Except Failure Outcome → Prop
  /-- The run was told to stop. -/
  | stopped {left : Nat} :
    Ending run progress left [⟨.cancelled, true⟩] (.ok (.cancelled progress.index))
  /-- Broken off before the inspection, since 32 bits do not hold the number of the pass. -/
  | uncounted {left : Nat} (beyond : progress.index.toNat + 1 = UInt32.size) :
    Ending run progress left [⟨.cancelled, false⟩] (.error (.panic .addOverflow))
  | failed {left : Nat} {inspected : History Call Answer} {failure : Failure}
    (inspects : Yields run.inspect.run inspected (.error failure)) :
    Ending run progress left (⟨.cancelled, false⟩ :: inspected) (.error failure)
  | broken {left : Nat} {inspected : History Call Answer} {diagnostics : String}
    (inspects : Yields run.inspect.run inspected (.ok (.broken diagnostics))) :
    Ending run progress left (⟨.cancelled, false⟩ :: inspected) (.ok (.compileFailed diagnostics))
  | converged {left : Nat} {inspected : History Call Answer}
    (inspects : Yields run.inspect.run inspected (.ok (.built []))) :
    Ending run progress left (⟨.cancelled, false⟩ :: inspected) (.ok (.converged progress.index))
  /-- There are violations, and no iteration is left. -/
  | spent {inspected : History Call Answer} {violation : Violation} {more : List Violation}
    (inspects : Yields run.inspect.run inspected (.ok (.built (violation :: more)))) :
    Ending run progress 0 (⟨.cancelled, false⟩ :: inspected)
      (.ok (.maxIterationsReached (violation :: more)))
  /-- The iteration failed, or the fix could not be made to compile. -/
  | iterated {left : Nat} {inspected iterated : History Call Answer} {violation : Violation}
    {more : List Violation} {outcome : Except Failure (Option Outcome)}
    {result : Except Failure Outcome}
    (inspects : Yields run.inspect.run inspected (.ok (.built (violation :: more))))
    (iterates : Yields (run.iterate progress.number (violation :: more)).run iterated outcome)
    (ends : EndsRun outcome result) :
    Ending run progress (left + 1) (⟨.cancelled, false⟩ :: (inspected ++ iterated)) result

/-- The passes that a run goes on with, when `left` more iterations may be made, and its result:
passes that mend the sources, and at the end one that ends the run. Progress advances and the
iterations that are left get fewer with each pass in between. -/
inductive Passing (run : Run) :
    Progress → Nat → List (History Call Answer) → Except Failure Outcome → Prop
  | last {progress : Progress} {left : Nat} {pass : History Call Answer}
    {result : Except Failure Outcome} (ends : Ending run progress left pass result) :
    Passing run progress left [pass] result
  | further {progress : Progress} {left : Nat} {pass : History Call Answer}
    {passes : List (History Call Answer)} {result : Except Failure Outcome}
    (mends : Mending run progress pass) (later : Passing run progress.advance left passes result) :
    Passing run progress (left + 1) (pass :: passes) result

/-! ## Histories as lists of passes

The relation is tied to the histories by `sections`: no call within a pass asks the switch, so a
history that is a pass in front of other passes is cut exactly there. -/

/-- In the history of an inspection the switch is not asked. -/
theorem ne_cancelled_of_inspected {found : Except Failure Finding}
    (inspects : Yields run.inspect.run history found) :
    ∀ event ∈ history, event.1 ≠ .cancelled :=
  fun event mem => ne_cancelled_of_inspects ((only_inspect run).of_mem inspects event mem)

/-- In the history of an iteration the switch is not asked. -/
theorem ne_cancelled_of_iterated {iteration : UInt32} {violations : List Violation}
    {outcome : Except Failure (Option Outcome)}
    (iterates : Yields (run.iterate iteration violations).run history outcome) :
    ∀ event ∈ history, event.1 ≠ .cancelled :=
  fun event mem => ne_cancelled_of_iterates ((only_iterate run _ _).of_mem iterates event mem)

theorem cut_last (stop : Bool) (same : ∀ event ∈ pass, event.1 ≠ .cancelled) :
    prelude (⟨.cancelled, stop⟩ :: pass) = [] ∧
      sections (⟨.cancelled, stop⟩ :: pass) = [⟨.cancelled, stop⟩ :: pass] := by
  have further : prelude [] = [] := rfl
  obtain ⟨begins, passes⟩ := cut_pass stop same further
  rw [List.append_nil] at begins passes
  exact ⟨begins, passes⟩

/-- A pass that ends the run is its only section. -/
theorem passing_last (ends : Ending run progress left pass result) :
    prelude pass = [] ∧ Passing run progress left (sections pass) result := by
  have alone : prelude pass = [] ∧ sections pass = [pass] := by
    cases ends with
    | stopped => exact ⟨rfl, rfl⟩
    | uncounted => exact ⟨rfl, rfl⟩
    | failed inspects => exact cut_last false (ne_cancelled_of_inspected inspects)
    | broken inspects => exact cut_last false (ne_cancelled_of_inspected inspects)
    | converged inspects => exact cut_last false (ne_cancelled_of_inspected inspects)
    | spent inspects => exact cut_last false (ne_cancelled_of_inspected inspects)
    | iterated inspects iterates =>
      exact cut_last false (List.forall_mem_append.mpr
        ⟨ne_cancelled_of_inspected inspects, ne_cancelled_of_iterated iterates⟩)
  rw [alone.2]
  exact ⟨alone.1, .last ends⟩

/-- A pass after which the run goes on is a section in front of the others. -/
theorem passing_further {later : History Call Answer} (mends : Mending run progress pass)
    (further : prelude later = [] ∧ Passing run progress.advance left (sections later) result) :
    prelude (pass ++ later) = [] ∧
      Passing run progress (left + 1) (sections (pass ++ later)) result := by
  obtain ⟨inspects, iterates⟩ := mends
  have same := List.forall_mem_append.mpr
    ⟨ne_cancelled_of_inspected inspects, ne_cancelled_of_iterated iterates⟩
  obtain ⟨begins, passes⟩ := cut_pass false same further.1
  rw [List.cons_append, begins, passes]
  exact ⟨rfl, .further ⟨inspects, iterates⟩ further.2⟩

/-- The history of the passes of a run is a list of passes. -/
theorem passes_passing (yields : Yields (run.passes progress left).run history result) :
    prelude history = [] ∧ Passing run progress left (sections history) result := by
  -- the induction is on the iterations that are left; each takes the history of one pass away
  induction left generalizing progress history result with
  | zero =>
    refine Monitor.of_recording yields (ensures_passes trivial (passing_last .stopped)
      (fun beyond => passing_last (.uncounted beyond)) ?_)
    refine Monitor.ensures_recording.mpr fun inspected found inspects => ?_
    rcases found with failure | diagnostics | _ | ⟨violation, more⟩
    · exact passing_last (.failed inspects)
    · exact passing_last (.broken inspects)
    · exact passing_last (.converged inspects)
    · exact passing_last (.spent inspects)
  | succ left ih =>
    refine Monitor.of_recording yields (ensures_passes trivial (passing_last .stopped)
      (fun beyond => passing_last (.uncounted beyond)) ?_)
    refine Monitor.ensures_recording.mpr fun inspected found inspects => ?_
    rcases found with failure | diagnostics | _ | ⟨violation, more⟩
    · exact passing_last (.failed inspects)
    · exact passing_last (.broken inspects)
    · exact passing_last (.converged inspects)
    refine Monitor.ensures_recording.mpr fun iterated outcome iterates => ?_
    -- only an iteration without an outcome leads to another pass
    rcases outcome with failure | _ | outcome
    · exact passing_last (.iterated inspects iterates rfl)
    · refine Monitor.ensures_recording.mpr fun later result further => ?_
      have mends : Mending run progress (⟨.cancelled, false⟩ :: (inspected ++ iterated)) :=
        ⟨inspects, iterates⟩
      have passing := passing_further mends (ih further)
      rw [List.cons_append, List.append_assoc] at passing
      simpa [Monitor.recording] using passing
    · exact passing_last (.iterated inspects iterates rfl)

/-- A run fails before its first pass, or it is a list of passes. -/
theorem start_passing (yields : Yields run.start.run history result) :
    (∀ event ∈ prelude history, Checks run.workspace event.1) ∧
      (sections history = [] ∧ (∃ failure, result = .error failure) ∨
        Passing run (.start run.maxIterations) run.maxIterations.toNat (sections history) result) := by
  obtain ⟨checks, rest, rfl, checked, ended⟩ := start_checked yields
  have stays : ∀ event ∈ checks, event.1 ≠ .cancelled := by
    intro event mem
    rcases checked event mem with h | h | h | h <;> simp [h]
  obtain ⟨begins, cuts⟩ := cut_append stays rest
  rw [begins, cuts]
  -- a check failed and there is no pass, or the passes are all of the rest
  rcases ended with ⟨rfl, fails⟩ | passes
  · rw [show prelude [] = [] from rfl, List.append_nil]
    exact ⟨checked, .inl ⟨rfl, fails⟩⟩
  · obtain ⟨first, passing⟩ := passes_passing passes
    rw [first, List.append_nil]
    exact ⟨checked, .inr passing⟩

/-! ## Inspections

What an inspection did can be read off its finding: sources that do not compile were only
compiled, and a finding of the build comes with every call that leads to it, in their order. -/

/-- What an inspection calls that finds these violations in the output of the build. -/
def inspection (run : Run) (clean : String) (output : Toolchain.BuildOutput) (now : Instant) :
    History Call Answer :=
  let log := Violation.log (Violation.extract run.repeats output.rawLog)
  [⟨.compile, .ok clean⟩, ⟨.prepareArtifacts, .ok ()⟩, ⟨.build, .ok output⟩,
    ⟨.disk (.makeDirectories run.workspace.logDir), .ok ()⟩,
    ⟨.disk (.write run.workspace.buildLog output.rawLog), .ok ()⟩, ⟨.clock, now⟩,
    ⟨.disk (.makeDirectories run.workspace.logDir), .ok ()⟩,
    ⟨.disk (.write run.workspace.violationLog log), .ok ()⟩,
    ⟨.disk (.write (run.workspace.violationSnapshot now) log), .ok ()⟩]

/-- What is known of an inspection that gives a finding. -/
def Surveyed (run : Run) (history : History Call Answer) : Finding → Prop
  | .broken diagnostics => history = [⟨.compile, .ok diagnostics⟩]
  | .built violations => ∃ clean output now, Text.isBlankText clean = true ∧
      violations = Violation.extract run.repeats output.rawLog ∧
      history = inspection run clean output now

/-- An inspection that gives a finding made the calls that belong to it and no others. -/
theorem inspect_surveyed {found : Finding} (yields : Yields run.inspect.run history (.ok found)) :
    Surveyed run history found := by
  let Clean (past : History Call Answer) : Prop :=
    ∃ clean, Text.isBlankText clean = true ∧ past = [⟨.compile, .ok clean⟩]
  let Prepared (past : History Call Answer) : Prop :=
    ∃ clean, Text.isBlankText clean = true ∧
      past = [⟨.compile, .ok clean⟩, ⟨.prepareArtifacts, .ok ()⟩]
  let Found (result : Except Failure Finding) (past : History Call Answer) : Prop :=
    ∀ found, result = .ok found → Surveyed run past found
  have walk : Monitor.recording.Ensures run.inspect.run [] Found := by
    -- what was recorded is carried along: the compilation, then the preparation, then the build
    refine ensures_inspect Clean Prepared trivial (fun _ => nofun) ?_ ?_ ?_ ?_
    · rintro diagnostics - _ ⟨⟩
      rfl
    · exact fun clean blank => ⟨clean, blank, rfl⟩
    · rintro _ ⟨clean, blank, rfl⟩
      exact ⟨trivial, fun _ => nofun, clean, blank, rfl⟩
    · rintro _ ⟨clean, blank, rfl⟩
      refine ⟨trivial, fun _ => nofun, fun output => ?_⟩
      -- the logs are kept file by file, and every refusal is the end
      refine ensures_onDisk_bind.mpr (ensures_blame.mpr ⟨trivial, fun made => ?_⟩)
      rcases made with error | _
      · exact nofun
      refine ensures_onDisk_bind.mpr (ensures_blame.mpr ⟨trivial, fun written => ?_⟩)
      rcases written with error | _
      · exact nofun
      refine ⟨trivial, fun now => ?_⟩
      refine ensures_onDisk_bind.mpr (ensures_blame.mpr ⟨trivial, fun made => ?_⟩)
      rcases made with error | _
      · exact nofun
      refine ensures_onDisk_bind.mpr (ensures_blame.mpr ⟨trivial, fun written => ?_⟩)
      rcases written with error | _
      · exact nofun
      refine ensures_onDisk_bind.mpr (ensures_blame.mpr ⟨trivial, fun copied => ?_⟩)
      rcases copied with error | _
      · exact nofun
      rintro _ ⟨⟩
      exact ⟨clean, output, now, blank, rfl, rfl⟩
  exact Monitor.ensures_recording.mp walk history _ yields found rfl

end Run

end AzcRepair
