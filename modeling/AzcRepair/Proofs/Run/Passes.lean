import AzcRepair.Proofs.Run.Calls

/-!
# Histories of runs, pass by pass

What the histories of the parts of a run look like: a run begins with its checks and goes on in
passes, a pass asks the switch and inspects the sources, and an iteration archives the sources
before it does anything else.

* `cut` — a history in its parts: what comes before the first pass, and the passes.
* `iterate_parts`, `passes_parts`, `start_parts` — the history of each part of a run, split along
  what the part does.
* `cut_pass` — a pass in front of further passes is the first of the parts.
-/

namespace AzcRepair

open Monitor (Only)
open Procedure (Event History Yields)

namespace Run

open Worker (Session)

/-! ## The parts of a history

Every pass asks the switch first, and nothing else in a run does. So a history can be cut into its
passes without knowing the run, and the cuts say where a pass begins. -/

/-- A history cut where the switch is asked: what comes before the first pass, and the passes. -/
def cut : History Call Answer → History Call Answer × List (History Call Answer)
  | [] => ([], [])
  | event :: rest =>
    if event.1 = .cancelled then ([], (event :: (cut rest).1) :: (cut rest).2)
    else (event :: (cut rest).1, (cut rest).2)

/-- What comes before the first pass. -/
def prelude (history : History Call Answer) : History Call Answer :=
  (cut history).1

/-- The histories of the passes, in their order. -/
def sections (history : History Call Answer) : List (History Call Answer) :=
  (cut history).2

theorem prelude_append_sections (history : History Call Answer) :
    prelude history ++ (sections history).flatten = history := by
  -- one event after the other goes to the front or begins a pass
  induction history with
  | nil => rfl
  | cons event rest ih =>
    simp only [prelude, sections, cut] at ih ⊢
    split <;> simp [ih]

/-- Events that do not ask the switch belong to the part that they are in. -/
theorem cut_append {first : History Call Answer} (same : ∀ event ∈ first, event.1 ≠ .cancelled)
    (rest : History Call Answer) :
    prelude (first ++ rest) = first ++ prelude rest ∧ sections (first ++ rest) = sections rest := by
  induction first with
  | nil => exact ⟨rfl, rfl⟩
  | cons event first ih =>
    obtain ⟨begins, passes⟩ := ih fun event mem => same event (List.mem_cons_of_mem _ mem)
    -- the first event does not ask the switch, so it stays in the part in front
    have stays : event.1 ≠ .cancelled := same event List.mem_cons_self
    simp only [prelude, sections, List.cons_append, cut, if_neg stays] at begins passes ⊢
    exact ⟨by rw [begins], passes⟩

/-- A pass in front of further passes is the first of the parts. -/
theorem cut_pass (stop : Bool) {pass rest : History Call Answer}
    (same : ∀ event ∈ pass, event.1 ≠ .cancelled) (further : prelude rest = []) :
    prelude (⟨.cancelled, stop⟩ :: (pass ++ rest)) = [] ∧
      sections (⟨.cancelled, stop⟩ :: (pass ++ rest)) =
        (⟨.cancelled, stop⟩ :: pass) :: sections rest := by
  obtain ⟨begins, passes⟩ := cut_append same rest
  rw [further, List.append_nil] at begins
  simp only [prelude, sections, cut, if_true] at begins passes ⊢
  exact ⟨trivial, by rw [begins, passes]⟩

/-! ## The parts of a run

The walk through a part is done here once with the monitor that records everything. What comes out
is its history, cut where the part itself is cut, and the histories of the pieces. Later proofs
take the pieces and need no walk. -/

/-- How the history of an iteration goes on once the sources were to be archived: a refusal is the
end of it, and so is a number of setups that 32 bits do not hold; else a session is asked for. -/
def AfterArchiving (run : Run) (iteration : UInt32) (violations : List Violation)
    (work : History Call Answer) (result : Except Failure (Option Outcome)) :
    Except Failure Workspace.Backup → Prop
  | .error failure => work = [] ∧ result = .error failure
  | .ok _ => (work = [] ∧ result = .error (.panic .addOverflow)) ∨
      ∃ opening rest opened, work = opening ++ rest ∧
        Yields (run.conversation.openWithin run.instructions run.workspace.artifacts
          run.conversation.sessionRetries.toNat) opening opened ∧
        match opened with
        | .error failure => rest = [] ∧ result = .error (.worker .sessionSetup failure)
        | .ok session => ∃ within closing, rest = within ++ closing ∧
            Yields (run.remediate session iteration violations).run within result ∧
            Yields (Conversation.closeSession session) closing ()

/-- An iteration reads the clock and archives the sources, and all its other work comes after. -/
theorem iterate_parts {run : Run} {iteration : UInt32} {violations : List Violation}
    {history : History Call Answer} {result : Except Failure (Option Outcome)}
    (yields : Yields (run.iterate iteration violations).run history result) :
    ∃ now archiving archived work, history = ⟨.clock, now⟩ :: (archiving ++ work) ∧
      Yields (onDisk (run.workspace.createBackup iteration now)).run archiving archived ∧
      AfterArchiving run iteration violations work result archived := by
  refine Monitor.of_recording yields (ensures_iterate trivial fun now => ?_)
  refine Monitor.ensures_recording.mpr fun archiving archived archives => ?_
  -- a refused archive ends the iteration, and nothing of its work is done
  rcases archived with failure | backup
  · exact ⟨now, archiving, .error failure, [], by simp [Monitor.recording], archives, rfl, rfl⟩
  constructor
  · exact fun _ => ⟨now, archiving, .ok backup, [], by simp [Monitor.recording], archives,
      .inl ⟨rfl, rfl⟩⟩
  refine Monitor.ensures_recording.mpr fun opening opened opens => ?_
  rcases opened with failure | session
  · exact ⟨now, archiving, .ok backup, opening, by simp [Monitor.recording], archives,
      .inr ⟨opening, [], .error failure, by simp, opens, rfl, rfl⟩⟩
  -- the session is open: what is done in it and the closing of it are the last two pieces
  refine Monitor.ensures_recording.mpr fun within worked works => ?_
  refine Monitor.ensures_recording.mpr fun closing _ closes => ?_
  exact ⟨now, archiving, .ok backup, opening ++ (within ++ closing), by simp [Monitor.recording],
    archives, .inr ⟨opening, within ++ closing, .ok session, rfl, opens, within, closing, rfl,
    works, closes⟩⟩

/-- An iteration ends a run with its failure or with its outcome. -/
def EndsRun : Except Failure (Option Outcome) → Except Failure Outcome → Prop
  | .error failure, result => result = .error failure
  | .ok (some outcome), result => result = .ok outcome
  | .ok none, _ => False

/-- How the history of a run goes on once a pass inspected the sources: without violations or
without budget this is the end, else an iteration and perhaps further passes follow. The last two
rules differ in whether the iteration ends the run. -/
inductive AfterInspecting (run : Run) (progress : Progress) :
    Nat → Except Failure Finding → History Call Answer → Except Failure Outcome → Prop
  | ends {left : Nat} {found : Except Failure Finding} {result : Except Failure Outcome}
    (enough : ∀ violation more, found = .ok (.built (violation :: more)) → left = 0) :
    AfterInspecting run progress left found [] result
  | lastIteration {left : Nat} {violation : Violation} {more : List Violation}
    {iterated : History Call Answer} {outcome : Except Failure (Option Outcome)}
    {result : Except Failure Outcome}
    (iterates : Yields (run.iterate progress.number (violation :: more)).run iterated outcome)
    (last : EndsRun outcome result) :
    AfterInspecting run progress (left + 1) (.ok (.built (violation :: more))) iterated result
  | iteration {left : Nat} {violation : Violation} {more : List Violation}
    {iterated later : History Call Answer} {result : Except Failure Outcome}
    (iterates : Yields (run.iterate progress.number (violation :: more)).run iterated (.ok none))
    (further : Yields (run.passes progress.advance left).run later result) :
    AfterInspecting run progress (left + 1) (.ok (.built (violation :: more))) (iterated ++ later)
      result

/-- A pass asks the switch, and it inspects the sources unless it is told to stop or its number is
one that 32 bits do not hold. -/
theorem passes_parts {run : Run} {progress : Progress} {left : Nat} {history : History Call Answer}
    {result : Except Failure Outcome}
    (yields : Yields (run.passes progress left).run history result) :
    history = [⟨.cancelled, true⟩] ∨
      (progress.index.toNat + 1 = UInt32.size ∧ history = [⟨.cancelled, false⟩] ∧
        result = .error (.panic .addOverflow)) ∨
      ∃ inspected found rest, history = ⟨.cancelled, false⟩ :: (inspected ++ rest) ∧
        Yields run.inspect.run inspected found ∧
        AfterInspecting run progress left found rest result := by
  refine Monitor.of_recording yields (ensures_passes trivial (.inl rfl)
    (fun beyond => .inr (.inl ⟨beyond, rfl, rfl⟩)) ?_)
  refine Monitor.ensures_recording.mpr fun inspected found inspects => ?_
  -- every way to end the pass here leaves no further history
  have ended {result : Except Failure Outcome}
      (enough : ∀ violation more, found = .ok (.built (violation :: more)) → left = 0) :
      ∃ inspected' found' rest,
        [⟨.cancelled, false⟩] ++ inspected = ⟨.cancelled, false⟩ :: (inspected' ++ rest) ∧
          Yields run.inspect.run inspected' found' ∧
          AfterInspecting run progress left found' rest result :=
    ⟨inspected, found, [], by simp, inspects, .ends enough⟩
  rcases found with failure | diagnostics | _ | ⟨violation, more⟩
  · exact .inr (.inr (ended nofun))
  · exact .inr (.inr (ended nofun))
  · exact .inr (.inr (ended nofun))
  cases left with
  | zero => exact .inr (.inr (ended fun _ _ _ => rfl))
  | succ left =>
    -- there are violations and an iteration is left, so it is made
    refine Monitor.ensures_recording.mpr fun iterated outcome iterates => ?_
    rcases outcome with failure | _ | outcome
    · exact .inr (.inr ⟨inspected, _, iterated, by simp [Monitor.recording], inspects,
        .lastIteration iterates rfl⟩)
    · refine Monitor.ensures_recording.mpr fun later result further => ?_
      exact .inr (.inr ⟨inspected, _, iterated ++ later, by simp [Monitor.recording], inspects,
        .iteration iterates further⟩)
    · exact .inr (.inr ⟨inspected, _, iterated, by simp [Monitor.recording], inspects,
        .lastIteration iterates rfl⟩)

/-- An inspection does not ask the switch, so it stays within its pass. -/
theorem ne_cancelled_of_inspects {workspace : Workspace} {call : Call}
    (h : Inspects workspace call) : call ≠ .cancelled := by
  rcases h with rfl | rfl | rfl | rfl | ⟨text, rfl | rfl⟩ | ⟨text, now, rfl | rfl | rfl⟩ <;> nofun

theorem ne_cancelled_of_iterates {workspace : Workspace} {iteration : UInt32} {call : Call}
    (h : Iterates workspace iteration call) : call ≠ .cancelled := by
  rintro rfl
  rcases h with clock | ⟨now, made | made | filled⟩ | setsUp | ⟨session, works⟩
  · cases clock
  · cases made
  · cases made
  · cases filled
  · exact setsUp
  · rcases works with (main | target | ⟨text, writes⟩) | compile | ⟨ms, pause⟩ | ⟨request, asks, -⟩
    · cases main
    · cases target
    · cases writes
    · cases compile
    · cases pause
    · cases asks

/-- The call belongs to what a run does before its first pass. -/
def Checks (workspace : Workspace) (call : Call) : Prop :=
  call = .disk (.present workspace.sourceDir) ∨ call = .disk (.present workspace.targetFile) ∨
    call = .worker .checkConnection ∨ call = .worker .purgeAll

theorem only_ensureSources (workspace : Workspace) :
    Only (Checks workspace) (onDisk workspace.ensureSources).run := by
  refine ensures_onDisk_bind.mpr ((ensures_present _).mpr ⟨.inl rfl, fun there => ?_⟩)
  cases there with
  | false => trivial
  | true =>
    refine ensures_onDisk_bind.mpr ((ensures_present _).mpr ⟨.inr (.inl rfl), fun there => ?_⟩)
    cases there <;> trivial

/-- A run makes its checks, and its passes follow unless one of the checks fails the run. -/
theorem start_checked {run : Run} {history : History Call Answer} {result : Except Failure Outcome}
    (yields : Yields run.start.run history result) :
    ∃ checks rest, history = checks ++ rest ∧
      (∀ event ∈ checks, Checks run.workspace event.1) ∧
      (rest = [] ∧ (∃ failure, result = .error failure) ∨
        Yields (run.passes (.start run.maxIterations) run.maxIterations.toNat).run rest result) := by
  let Begun (past : History Call Answer) : Prop := ∀ event ∈ past, Checks run.workspace event.1
  -- a failure of a check is the end: the passes have no history
  have failed {past : History Call Answer} (failure : Failure) (begun : Begun past) :
      ∃ checks rest, past = checks ++ rest ∧ (∀ event ∈ checks, Checks run.workspace event.1) ∧
        (rest = [] ∧ (∃ failure', (.error failure : Except Failure Outcome) = .error failure') ∨
          Yields (run.passes (.start run.maxIterations) run.maxIterations.toNat).run rest
            (.error failure)) :=
    ⟨past, [], by simp, begun, .inl ⟨rfl, failure, rfl⟩⟩
  have next {past : History Call Answer} {event : Event Call Answer} (begun : Begun past)
      (checks : Checks run.workspace event.1) : Begun (past ++ [event]) :=
    List.forall_mem_append.mpr ⟨begun, List.forall_mem_singleton.mpr checks⟩
  refine Monitor.of_recording yields
    (ensures_start Begun Begun ?_ (fun _ _ => trivial) ?_ ?_ ?_ ?_)
  · refine Monitor.ensures_recording.mpr fun checked outcome checks => ?_
    have begun : Begun ([] ++ checked) := (only_ensureSources run.workspace).of_mem checks
    rcases outcome with failure | _
    · exact failed failure begun
    · exact begun
  · exact fun past failure begun => failed _ (next begun (.inr (.inr (.inl rfl))))
  · exact fun past begun => next begun (.inr (.inr (.inl rfl)))
  · exact fun past begun => ⟨trivial, fun _ => next begun (.inr (.inr (.inr rfl)))⟩
  · -- the checks are recorded in front, and the passes begin behind them
    intro past begun
    exact Monitor.ensures_recording.mpr fun rest result further =>
      ⟨past, rest, rfl, begun, .inr further⟩

/-- A run makes its checks, and unless one of them fails its passes follow. -/
theorem start_parts {run : Run} {history : History Call Answer} {result : Except Failure Outcome}
    (yields : Yields run.start.run history result) :
    ∃ checks rest, history = checks ++ rest ∧
      (∀ event ∈ checks, Checks run.workspace event.1) ∧
      (rest = [] ∨
        Yields (run.passes (.start run.maxIterations) run.maxIterations.toNat).run rest result) := by
  obtain ⟨checks, rest, parts, checked, ended⟩ := start_checked yields
  exact ⟨checks, rest, parts, checked, ended.imp_left And.left⟩

end Run

end AzcRepair
