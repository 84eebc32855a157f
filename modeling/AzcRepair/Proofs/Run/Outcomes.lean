import AzcRepair.Proofs.Run.Calls

/-!
# What the outcome of a run says about its history

A pass of a run begins where the run asks whether it should stop. What is answered to a pass decides
whether it is the last one and with which outcome the run ends then: every field of an outcome is read
off the history, and no history fits two outcomes.

* `Pass`, `passes` — what a history says about each pass.
* `Outcome.Fits` — the outcome that the passes of a history stand for.
* `Last` — the shape of the pass that ends a run.
* `start_closed`, `outcome_exact` — the walk through a run, and what holds of every run.
-/

namespace AzcRepair

open Monitor (Only)
open Procedure (Event History Yields)

namespace Run

open Worker (Session)

variable {α : Type}

/-! ## What a history says about its passes

A history is read event by event into a course: the passes that are over and the one that the run is
in. Nothing about the run goes into it but how repeated findings are treated. -/

/-- The call makes a backup, a session or a message. -/
def Call.remedies : Call → Bool
  | disk (.createNew _) | disk (.archive ..) => true
  | worker (.createSession _) | worker (.sendMessage ..) => true
  | _ => false

/-- What a history says about a pass. -/
structure Pass where
  /-- The run was told to stop. -/
  stopped : Bool
  /-- The answer to the compilation before the build. -/
  compiled : Option String
  /-- The violations that the build reported. -/
  found : Option (List Violation)
  /-- The answers to the compilations after the build. -/
  recompiled : List String
  /-- A backup, a session or a message was made. -/
  remedied : Bool
  deriving DecidableEq, Repr

/-- A pass of which only the answer of the switch is known. -/
def Pass.begin (stopped : Bool) : Pass :=
  ⟨stopped, none, none, [], false⟩

/-- The iteration of the pass ended with sources that compile. -/
def Pass.mended (pass : Pass) : Bool :=
  pass.recompiled.getLast?.any Text.isBlankText

/-- Takes note of an event within a pass. -/
def Pass.note (repeats : Violation.Repeats) (pass : Pass) : (call : Call) → Answer call → Pass
  | .compile, .ok diagnostics =>
    match pass.found with
    | none => { pass with compiled := some diagnostics }
    | some _ => { pass with recompiled := pass.recompiled ++ [diagnostics] }
  | .build, .ok output => { pass with found := some (Violation.extract repeats output.rawLog) }
  | call, _ => { pass with remedied := pass.remedied || call.remedies }

/-- The passes of a run, and the one that it is in. -/
structure Course where
  earlier : List Pass
  current : Option Pass

/-- Takes note of an event: asking whether to stop begins a pass. -/
def Course.note (repeats : Violation.Repeats) (course : Course) :
    (call : Call) → Answer call → Course
  | .cancelled, stop => ⟨course.earlier ++ course.current.toList, some (.begin stop)⟩
  | call, answer => { course with current := course.current.map (·.note repeats call answer) }

/-- All passes, the present one included. -/
def Course.passes (course : Course) : List Pass :=
  course.earlier ++ course.current.toList

/-- The course of a history, event by event. -/
def course (repeats : Violation.Repeats) (history : History Call Answer) : Course :=
  history.foldl (fun course event => course.note repeats event.1 event.2) ⟨[], none⟩

/-- The passes of a history in their order. -/
def passesOf (repeats : Violation.Repeats) (history : History Call Answer) : List Pass :=
  (course repeats history).passes

/-! ## What an outcome stands for

The statement to be proved is `Fits`: it speaks about the history alone. The proof goes through
`Last`, which lists the shapes that the last pass can have, each with its outcome. A shape fixes
its outcome (`Last.unique`), so that no history fits two. -/

/-- The number of iterations that ended with sources that compile. -/
def completed (passes : List Pass) : Nat :=
  passes.countP Pass.mended

/-- What an outcome says about the pass that follows on `done` completed iterations. -/
def Pass.Ends (run : Run) (done : Nat) (pass : Pass) : Outcome → Prop
  | .converged iterations => iterations.toNat = done ∧ pass.found = some []
  | .maxIterationsReached remaining =>
    done = run.maxIterations.toNat ∧ remaining ≠ [] ∧ pass.found = some remaining
  | .compileFailed diagnostics =>
    Text.isBlankText diagnostics = false ∧ pass.compiled = some diagnostics
  | .recoveryExhausted iteration attempts diagnostics =>
    iteration.toNat = done + 1 ∧ attempts = run.maxRecoveryAttempts ∧
      pass.recompiled.length = attempts.toNat + 1 ∧
      (∀ text ∈ pass.recompiled, Text.isBlankText text = false) ∧
      pass.recompiled.getLast? = some diagnostics
  | .cancelled iterations => iterations.toNat = done ∧ pass.stopped = true

/-- The outcome is what the passes of a run say: the pass after the completed iterations is there,
and the outcome describes it. -/
def Fits (run : Run) (passes : List Pass) (outcome : Outcome) : Prop :=
  ∃ pass, passes[completed passes]? = some pass ∧ pass.Ends run (completed passes) outcome

/-- The pass that ends a run after `done` iterations, and the outcome that it ends it with. -/
inductive Last (run : Run) (done : Nat) : Outcome → Pass → Prop
  | cancelled {iterations : UInt32} (count : iterations.toNat = done) :
    Last run done (.cancelled iterations) (.begin true)
  | compileFailed {diagnostics : String} (unclean : Text.isBlankText diagnostics = false) :
    Last run done (.compileFailed diagnostics) ⟨false, some diagnostics, none, [], false⟩
  | converged {iterations : UInt32} {clean : String} (count : iterations.toNat = done)
    (blank : Text.isBlankText clean = true) :
    Last run done (.converged iterations) ⟨false, some clean, some [], [], false⟩
  | maxIterationsReached {clean : String} {remaining : List Violation}
    (blank : Text.isBlankText clean = true) (left : remaining ≠ [])
    (spent : done = run.maxIterations.toNat) :
    Last run done (.maxIterationsReached remaining) ⟨false, some clean, some remaining, [], false⟩
  | recoveryExhausted {iteration : UInt32} {clean diagnostics : String}
    {violations : List Violation} {recompiled : List String} {remedied : Bool}
    (blank : Text.isBlankText clean = true) (left : violations ≠ [])
    (budget : done < run.maxIterations.toNat) (count : iteration.toNat = done + 1)
    (attempts : recompiled.length = run.maxRecoveryAttempts.toNat + 1)
    (unclean : ∀ text ∈ recompiled, Text.isBlankText text = false)
    (last : recompiled.getLast? = some diagnostics) :
    Last run done (.recoveryExhausted iteration run.maxRecoveryAttempts diagnostics)
      ⟨false, some clean, some violations, recompiled, remedied⟩

variable {run : Run} {done : Nat} {outcome : Outcome} {pass : Pass}

/-- The last iteration of a run, if it made one, did not end with sources that compile. -/
theorem Last.not_mended (last : Last run done outcome pass) : pass.mended = false := by
  cases last with
  -- only this pass was compiled again, and none of its answers was blank
  | recoveryExhausted _ _ _ _ _ unclean last =>
    simp [Pass.mended, last, unclean _ (List.mem_of_getLast? last)]
  | _ => rfl

/-- Only a run that gives up on an iteration works on the sources in its last pass. -/
theorem Last.idle (last : Last run done outcome pass) :
    pass.remedied = false ∨
      ∃ iteration attempts diagnostics,
        outcome = .recoveryExhausted iteration attempts diagnostics := by
  cases last with
  | recoveryExhausted => exact .inr ⟨_, _, _, rfl⟩
  | _ => exact .inl rfl

/-- With the completed iterations in front, the last pass is the one in question. -/
theorem Last.question {earlier : List Pass} (mended : ∀ pass ∈ earlier, pass.mended = true)
    (last : Last run earlier.length outcome pass) :
    completed (earlier ++ [pass]) = earlier.length ∧
      (earlier ++ [pass])[earlier.length]? = some pass := by
  constructor
  · -- all passes in front are mended and the last one is not
    rw [completed, List.countP_append, List.countP_eq_length.mpr mended]
    simp [last.not_mended]
  · simp

/-- The outcome of the last pass is one that the pass stands for. -/
theorem Last.ends (last : Last run done outcome pass) : pass.Ends run done outcome := by
  cases last with
  | cancelled counted => exact ⟨counted, rfl⟩
  | compileFailed unclean => exact ⟨unclean, rfl⟩
  | converged counted => exact ⟨counted, rfl⟩
  | maxIterationsReached _ left spent => exact ⟨spent, left, rfl⟩
  | recoveryExhausted _ _ _ counted attempts unclean final =>
    exact ⟨counted, rfl, attempts, unclean, final⟩

theorem Last.unique {other : Outcome} (last : Last run done outcome pass)
    (ends : pass.Ends run done other) : outcome = other := by
  -- the shape of the pass leaves one kind of outcome, and its fields are those of the pass
  cases last with
  -- both count the same iterations, and a number of 32 bits is known by its value
  | cancelled counted =>
    cases other with
    | cancelled iterations => rw [UInt32.toNat_inj.mp (counted.trans ends.1.symm)]
    | converged | maxIterationsReached | compileFailed => simp [Pass.Ends, Pass.begin] at ends
    | recoveryExhausted => simp [Pass.Ends, Pass.begin] at ends
  | compileFailed unclean =>
    cases other with
    | compileFailed diagnostics => rw [Option.some.inj ends.2]
    | cancelled | converged | maxIterationsReached | recoveryExhausted => simp [Pass.Ends] at ends
  | converged counted blank =>
    cases other with
    | converged iterations => rw [UInt32.toNat_inj.mp (counted.trans ends.1.symm)]
    | compileFailed diagnostics =>
      obtain ⟨unclean, compiled⟩ := ends
      rw [← Option.some.inj compiled, blank] at unclean
      cases unclean
    | maxIterationsReached remaining => exact absurd (Option.some.inj ends.2.2).symm ends.2.1
    | cancelled | recoveryExhausted => simp [Pass.Ends] at ends
  | maxIterationsReached blank left spent =>
    cases other with
    | maxIterationsReached remaining => rw [Option.some.inj ends.2.2]
    | compileFailed diagnostics =>
      obtain ⟨unclean, compiled⟩ := ends
      rw [← Option.some.inj compiled, blank] at unclean
      cases unclean
    | converged iterations => exact absurd (Option.some.inj ends.2) left
    | cancelled | recoveryExhausted => simp [Pass.Ends] at ends
  | recoveryExhausted blank left budget counted attempts unclean final =>
    cases other with
    | recoveryExhausted iteration tried diagnostics =>
      obtain ⟨count, rfl, -, -, last⟩ := ends
      rw [UInt32.toNat_inj.mp (counted.trans count.symm), Option.some.inj (final.symm.trans last)]
    | compileFailed diagnostics =>
      obtain ⟨unclean, compiled⟩ := ends
      rw [← Option.some.inj compiled, blank] at unclean
      cases unclean
    -- a pass of this shape was built with violations, but the budget was not used up
    | maxIterationsReached remaining => exact absurd ends.1 (Nat.ne_of_lt budget)
    | converged iterations => exact absurd (Option.some.inj ends.2) left
    | cancelled => simp [Pass.Ends] at ends

/-- With the completed iterations in front, the last pass tells its outcome from all others. -/
theorem Last.fits_iff {earlier : List Pass} (mended : ∀ pass ∈ earlier, pass.mended = true)
    (last : Last run earlier.length outcome pass) (other : Outcome) :
    Fits run (earlier ++ [pass]) other ↔ outcome = other := by
  obtain ⟨count, place⟩ := last.question mended
  unfold Fits
  rw [count, place]
  constructor
  · rintro ⟨_, found, ends⟩
    cases found
    exact last.unique ends
  · rintro rfl
    exact ⟨pass, rfl, last.ends⟩

/-! ## The walk

Within a pass only compilations and builds tell anything; everything else at most marks the pass
as one that worked on the sources. So `InPass` is kept by all other parts, and the walk stops at
the recompilations, which it counts. -/

/-- The monitor that follows the course of a run and permits everything. -/
def recorder (run : Run) : Monitor Call Answer Course where
  note := Course.note run.repeats
  permits _ _ := True

/-- The run is in this pass, after these; the pass may have worked on the sources meanwhile. -/
def InPass (earlier : List Pass) (pass : Pass) (course : Course) : Prop :=
  ∃ remedied, course = ⟨earlier, some { pass with remedied := remedied }⟩

/-- The call neither begins a pass nor compiles or builds. -/
def Aside (call : Call) : Prop :=
  call ≠ .cancelled ∧ call ≠ .compile ∧ call ≠ .build

/-- The call does not work on the sources either. -/
def Quiet (call : Call) : Prop :=
  Aside call ∧ call.remedies = false

variable {earlier : List Pass} {course : Course}

/-- A call that neither begins a pass nor compiles or builds can only mark the present one. -/
theorem note_aside {call : Call} (aside : Aside call) (answer : Answer call) :
    course.note run.repeats call answer =
      { course with current := course.current.map fun pass =>
        { pass with remedied := pass.remedied || call.remedies } } := by
  obtain ⟨asks, compiles, builds⟩ := aside
  cases call with
  | cancelled => exact absurd rfl asks
  | compile => exact absurd rfl compiles
  | build => exact absurd rfl builds
  | _ => rfl

/-- A call that does not even work on the sources leaves the course as it is. -/
theorem idle_quiet (call : Call) (quiet : Quiet call) : (recorder run).Idle course call := by
  refine ⟨trivial, fun answer => ?_⟩
  show course.note run.repeats call answer = course
  rw [note_aside quiet.1, quiet.2]
  obtain ⟨earlier, current⟩ := course
  cases current <;> simp

theorem InPass.note (inPass : InPass earlier pass course) {call : Call} (aside : Aside call)
    (answer : Answer call) : InPass earlier pass (course.note run.repeats call answer) := by
  obtain ⟨remedied, rfl⟩ := inPass
  exact ⟨remedied || call.remedies, note_aside aside answer⟩

/-- Calls that stay in the pass leave everything but its work on the sources as it is. -/
theorem ensures_aside {kind : Call → Prop} {p : Act α} (calls : Only kind p)
    (aside : ∀ call, kind call → Aside call) (inPass : InPass earlier pass course) :
    (recorder run).Ensures p course fun _ => InPass earlier pass := by
  refine Monitor.ensures_of_kept (InPass earlier pass) calls inPass ?_ fun _ _ => id
  exact fun course call ofKind inPass => ⟨trivial, inPass.note (aside call ofKind)⟩

theorem aside_disk (call : Call) (disk : IsDisk call) : Aside call := by
  obtain ⟨request, rfl⟩ := disk
  exact ⟨nofun, nofun, nofun⟩

theorem aside_setsUp (call : Call) (h : SetsUp call) : Aside call := by
  cases call with
  | cancelled | compile | build => exact h.elim
  | _ => exact ⟨nofun, nofun, nofun⟩

theorem aside_speaks {session : Session} (call : Call) (h : Speaks session call) : Aside call := by
  obtain ⟨ms, rfl⟩ | ⟨request, rfl, -⟩ := h <;> exact ⟨nofun, nofun, nofun⟩

/-- What a part of an iteration leaves as it is when it does not compile. -/
theorem ensures_aside_run {kind : Call → Prop} {part : Attempt α} (calls : Only kind part.run)
    (aside : ∀ call, kind call → Aside call) (inPass : InPass earlier pass course) :
    (recorder run).Ensures part.run course
      (Onward (fun _ => InPass earlier pass) fun _ _ => True) := by
  refine (ensures_aside calls aside inPass).mono ?_
  rintro (failure | value) after inPass
  · trivial
  · exact inPass

theorem apply_aside (phase : Phase) (reply : String) (inPass : InPass earlier pass course) :
    (recorder run).Ensures (run.apply phase reply).run course
      (Onward (fun _ => InPass earlier pass) fun _ _ => True) := by
  unfold Run.apply
  cases Contract.ofReply reply with
  | error refusal => trivial
  | ok contract => exact ensures_aside_run (only_onDisk _) aside_disk inPass

theorem exchange_aside (session : Session) (phase : Phase) (request : Request)
    (inPass : InPass earlier pass course) :
    (recorder run).Ensures (run.exchange session phase request).run course
      (Onward (fun _ => InPass earlier pass) fun _ _ => True) := by
  refine ensures_run_bind.mpr (ensures_run_orFail.mpr ((ensures_aside
    (only_dispatch run.conversation session request) aside_speaks inPass).mono ?_))
  rintro (failure | reply) after inPass
  · trivial
  · exact apply_aside phase reply inPass

/-- A pass that was built and recompiled with these answers. -/
def tried (clean : String) (violations : List Violation) (recompiled : List String) : Pass :=
  ⟨false, some clean, some violations, recompiled, false⟩

/-- A compilation after the build is one more answer of the pass. -/
theorem note_recompile {clean : String} {violations : List Violation} {recompiled : List String}
    (inPass : InPass earlier (tried clean violations recompiled) course) (diagnostics : String) :
    InPass earlier (tried clean violations (recompiled ++ [diagnostics]))
      (course.note run.repeats .compile (.ok diagnostics)) := by
  obtain ⟨remedied, rfl⟩ := inPass
  exact ⟨remedied, rfl⟩

/-- What came of the attempts of an iteration. -/
def Recovered (run : Run) (iteration : UInt32) (earlier : List Pass) (clean : String)
    (violations : List Violation) (attempts : Nat) :
    Except Failure (Option Outcome) → Course → Prop
  | .error _, _ => True
  | .ok none, course => ∃ recompiled,
    InPass earlier (tried clean violations recompiled) course ∧
      recompiled.getLast?.any Text.isBlankText = true
  | .ok (some outcome), course => ∃ recompiled diagnostics,
    InPass earlier (tried clean violations recompiled) course ∧
      recompiled.length = attempts ∧ (∀ text ∈ recompiled, Text.isBlankText text = false) ∧
      recompiled.getLast? = some diagnostics ∧
      outcome = .recoveryExhausted iteration run.maxRecoveryAttempts diagnostics

/-- Repairs end with sources that compile, or every answer so far named errors and all attempts
are used up. -/
theorem recover_recovered (session : Session) (iteration : UInt32) {clean : String}
    {violations : List Violation} {recompiled : List String} {left attempts : Nat}
    (count : recompiled.length + left + 1 = attempts)
    (unclean : ∀ text ∈ recompiled, Text.isBlankText text = false)
    (inPass : InPass earlier (tried clean violations recompiled) course) :
    (recorder run).Ensures (run.recover session iteration left).run course
      (Recovered run iteration earlier clean violations attempts) := by
  -- the induction is on the repairs that are left; `recompiled` holds the answers so far
  induction left generalizing course recompiled with
  | zero =>
    refine ensures_run_bind.mpr (ensures_run_orFail.mpr ⟨trivial, fun compiled => ?_⟩)
    cases compiled with
    | error failure => trivial
    | ok diagnostics =>
      have noted : InPass earlier (tried clean violations (recompiled ++ [diagnostics]))
        (course.note run.repeats .compile (.ok diagnostics)) := note_recompile inPass diagnostics
      change (recorder run).Ensures (ite _ _ _ : Attempt (Option Outcome)).run _ _
      split
      · next blank => exact ⟨_, noted, by simp [blank]⟩
      · -- no repair is left: the answers are as many as the attempts, and none is blank
        next broken =>
        refine ⟨_, diagnostics, noted, by simpa using count, ?_, by simp, rfl⟩
        exact List.forall_mem_append.mpr ⟨unclean, by simpa using broken⟩
  | succ left ih =>
    refine ensures_run_bind.mpr (ensures_run_orFail.mpr ⟨trivial, fun compiled => ?_⟩)
    cases compiled with
    | error failure => trivial
    | ok diagnostics =>
      have noted : InPass earlier (tried clean violations (recompiled ++ [diagnostics]))
        (course.note run.repeats .compile (.ok diagnostics)) := note_recompile inPass diagnostics
      change (recorder run).Ensures (ite _ _ _ : Attempt (Option Outcome)).run _ _
      split
      · next blank => exact ⟨_, noted, by simp [blank]⟩
      · next broken =>
        refine ensures_run_bind.mpr ((exchange_aside session _ _ noted).mono ?_)
        rintro (failure | _) after noted
        · trivial
        · refine ih ?_ (List.forall_mem_append.mpr ⟨unclean, by simpa using broken⟩) noted
          rw [List.length_append, List.length_singleton]
          omega

/-- The work of an iteration compiles again only in its repairs. -/
theorem remediate_recovered (session : Session) (iteration : UInt32) {clean : String}
    {found violations : List Violation}
    (inPass : InPass earlier (tried clean found []) course) :
    (recorder run).Ensures (run.remediate session iteration violations).run course
      (Recovered run iteration earlier clean found (run.maxRecoveryAttempts.toNat + 1)) := by
  -- up to the first recompilation the pass stays as the build left it
  have reads : (recorder run).Ensures (run.contextRequest violations).run course
      (Onward (fun _ => InPass earlier (tried clean found [])) fun _ _ => True) := by
    refine ensures_run_bind.mpr ((ensures_aside_run (only_onDisk _) aside_disk inPass).mono ?_)
    rintro (failure | main) after inPass
    · trivial
    refine ensures_run_bind.mpr ((ensures_aside_run (only_onDisk _) aside_disk inPass).mono ?_)
    rintro (failure | target) after inPass
    · trivial
    · exact inPass
  refine ensures_run_bind.mpr (reads.mono ?_)
  rintro (failure | context) after inPass
  · trivial
  refine ensures_run_bind.mpr ((ensures_aside_run (only_run_discard (only_run_orFail
    (only_post session context))) aside_speaks inPass).mono ?_)
  rintro (failure | _) after inPass
  · trivial
  refine ensures_run_bind.mpr ((exchange_aside session _ _ inPass).mono ?_)
  rintro (failure | _) after inPass
  · trivial
  · exact recover_recovered session iteration (by simp) (List.forall_mem_nil _) inPass

theorem closeSession_recovered (session : Session) {iteration : UInt32} {clean : String}
    {found : List Violation} {attempts : Nat} {result : Except Failure (Option Outcome)}
    (recovered : Recovered run iteration earlier clean found attempts result course) :
    (recorder run).Ensures (Conversation.closeSession session) course
      fun _ => Recovered run iteration earlier clean found attempts result := by
  have closing {pass : Pass} (inPass : InPass earlier pass course) :
      (recorder run).Ensures (Conversation.closeSession session) course
        fun _ => InPass earlier pass :=
    ensures_aside (only_closeSession session) aside_setsUp inPass
  rcases result with failure | _ | outcome
  -- nothing is known about the pass of a run that fails
  · exact Monitor.ensures_of_kept (fun _ => True) (only_closeSession session) trivial
      (fun _ _ _ _ => ⟨trivial, fun _ => trivial⟩) fun _ _ _ => trivial
  · obtain ⟨recompiled, inPass, blank⟩ := recovered
    exact (closing inPass).mono fun _ _ inPass => ⟨recompiled, inPass, blank⟩
  · obtain ⟨recompiled, diagnostics, inPass, facts⟩ := recovered
    exact (closing inPass).mono fun _ _ inPass => ⟨recompiled, diagnostics, inPass, facts⟩

/-- What an iteration leaves of its pass: mended, given up, or unknown when the iteration fails.
-/
theorem iterate_recovered (iteration : UInt32) {clean : String} {found violations : List Violation}
    (inPass : InPass earlier (tried clean found []) course) :
    (recorder run).Ensures (run.iterate iteration violations).run course
      (Recovered run iteration earlier clean found (run.maxRecoveryAttempts.toNat + 1)) := by
  refine ensures_iterate trivial fun now => ?_
  have clock : Aside .clock := ⟨nofun, nofun, nofun⟩
  have asked : InPass earlier (tried clean found []) (course.note run.repeats .clock now) :=
    inPass.note clock now
  refine (ensures_aside_run (only_onDisk _) aside_disk asked).mono ?_
  rintro (failure | backup) after inPass
  · trivial
  refine ⟨fun _ => trivial, ?_⟩
  refine (ensures_aside (only_openWithin run.conversation _ _ _) aside_setsUp inPass).mono ?_
  rintro (failure | session) after inPass
  · trivial
  refine (remediate_recovered session iteration inPass).mono ?_
  exact fun result after recovered => closeSession_recovered session recovered

/-! ## Passes

Before each pass all earlier ones are mended and the iterations add up to the budget (`Underway`);
that is what the induction on the iterations that are left carries. A pass that ends the run gets
the shape that belongs to its outcome. -/

/-- A run that ends with an outcome ends in a pass of the right shape. -/
def Closed (run : Run) : Except Failure Outcome → Course → Prop
  | .error _, _ => True
  | .ok outcome, course => ∃ earlier last, course = ⟨earlier, some last⟩ ∧
      (∀ pass ∈ earlier, pass.mended = true) ∧ Last run earlier.length outcome last

/-- What an inspection leaves the pass as. -/
def Examined (earlier : List Pass) : Except Failure Finding → Course → Prop
  | .error _, _ => True
  | .ok (.broken diagnostics), course => Text.isBlankText diagnostics = false ∧
      course = ⟨earlier, some ⟨false, some diagnostics, none, [], false⟩⟩
  | .ok (.built violations), course => ∃ clean, Text.isBlankText clean = true ∧
      course = ⟨earlier, some (tried clean violations [])⟩

/-- Keeping the log of a build tells nothing about the pass. -/
theorem quiet_keepsBuildLog {workspace : Workspace} {text : String} (call : Call)
    (h : KeepsBuildLog workspace text call) : Quiet call := by
  rcases h with rfl | rfl <;> exact ⟨⟨nofun, nofun, nofun⟩, rfl⟩

theorem quiet_keepsViolations {workspace : Workspace} {text : String} {now : Instant} (call : Call)
    (h : KeepsViolations workspace text now call) : Quiet call := by
  rcases h with rfl | rfl | rfl <;> exact ⟨⟨nofun, nofun, nofun⟩, rfl⟩

/-- What is found is in the pass before it is kept. -/
theorem examined_of_built {clean : String} (blank : Text.isBlankText clean = true)
    (output : Toolchain.BuildOutput) :
    AfterBuild (recorder run) run (Examined earlier) output
      ⟨earlier, some (tried clean (Violation.extract run.repeats output.rawLog) [])⟩ := by
  refine Monitor.ensures_of_only (only_persistBuildLog run.workspace output.rawLog)
    (fun call h => idle_quiet call (quiet_keepsBuildLog call h)) fun logged => ?_
  cases logged with
  | error failure => trivial
  | ok _ =>
    refine ⟨trivial, fun now => ?_⟩
    refine Monitor.ensures_of_only (only_persistViolations run.workspace _ now)
      (fun call h => idle_quiet call (quiet_keepsViolations call h)) fun logged => ?_
    cases logged with
    | error failure => trivial
    | ok _ => exact ⟨clean, blank, rfl⟩

/-- After an inspection the pass shows what was found, and nothing else. -/
theorem inspect_examined (run : Run) (earlier : List Pass) :
    (recorder run).Ensures run.inspect.run ⟨earlier, some (.begin false)⟩ (Examined earlier) := by
  -- the preparation between the compilation and the build leaves no mark
  let Clean (course : Course) : Prop := ∃ clean, Text.isBlankText clean = true ∧
    course = ⟨earlier, some ⟨false, some clean, none, [], false⟩⟩
  refine ensures_inspect Clean Clean trivial (fun _ => trivial)
    (fun diagnostics unclean => ⟨unclean, rfl⟩) (fun clean blank => ⟨clean, blank, rfl⟩) ?_ ?_
  · rintro _ ⟨clean, blank, rfl⟩
    exact ⟨trivial, fun _ => trivial, clean, blank, rfl⟩
  · rintro _ ⟨clean, blank, rfl⟩
    exact ⟨trivial, fun _ => trivial, examined_of_built blank⟩

/-- Before a pass every iteration so far was completed, and the budget is what is left of it. -/
structure Underway (run : Run) (progress : Progress) (left : Nat) (course : Course) : Prop where
  mended : ∀ pass ∈ course.passes, pass.mended = true
  count : progress.index.toNat = course.passes.length
  budget : course.passes.length + left = run.maxIterations.toNat

/-- An inspection ends the run with the outcome that fits it, or finds violations. -/
theorem closed_of_examined {progress : Progress} {onward : List Violation → Course → Prop}
    {result : Except Failure Finding} (mended : ∀ pass ∈ earlier, pass.mended = true)
    (count : progress.index.toNat = earlier.length) (examined : Examined earlier result course)
    (violated : ∀ clean violations, Text.isBlankText clean = true → violations ≠ [] →
      onward violations ⟨earlier, some (tried clean violations [])⟩) :
    AfterInspection progress (Closed run) onward result course := by
  rcases result with failure | diagnostics | _ | ⟨violation, more⟩
  · trivial
  · obtain ⟨unclean, rfl⟩ := examined
    exact ⟨_, _, rfl, mended, .compileFailed unclean⟩
  · obtain ⟨clean, blank, rfl⟩ := examined
    exact ⟨_, _, rfl, mended, .converged count blank⟩
  · obtain ⟨clean, blank, rfl⟩ := examined
    exact violated clean _ blank (List.cons_ne_nil _ _)

/-- An iteration that mends the sources is one of the completed ones and takes one from the
budget. -/
theorem Underway.advance {progress : Progress} {left : Nat} {recompiled : List String}
    {clean : String} {violations : List Violation} {remedied : Bool}
    (underway : Underway run progress (left + 1) course)
    (blank : recompiled.getLast?.any Text.isBlankText = true) :
    Underway run progress.advance left
      ⟨course.passes, some { tried clean violations recompiled with remedied := remedied }⟩ := by
  obtain ⟨mended, count, budget⟩ := underway
  -- the count stays below the budget, so that the 32 bits of the index do not overflow
  have small : run.maxIterations.toNat < 2 ^ 32 := run.maxIterations.toNat_lt
  refine ⟨List.forall_mem_append.mpr ⟨mended, by simpa [Pass.mended, tried] using blank⟩, ?_, ?_⟩
  · simp only [Course.passes, Progress.advance, UInt32.toNat_add, UInt32.toNat_one,
      Option.toList_some, List.length_append, List.length_singleton] at *
    omega
  · simp only [Course.passes, Option.toList_some, List.length_append, List.length_singleton] at *
    omega

/-- The passes end a run with the outcome that its last pass stands for. -/
theorem passes_closed (run : Run) {progress : Progress} {left : Nat}
    (underway : Underway run progress left course) :
    (recorder run).Ensures (run.passes progress left).run course (Closed run) := by
  -- the induction is on the iterations that are left, and `Underway` holds before every pass
  induction left generalizing course progress with
  | zero =>
    obtain ⟨mended, count, budget⟩ := underway
    refine ensures_passes trivial ⟨course.passes, _, rfl, mended, .cancelled count⟩
      (fun _ => trivial) ((inspect_examined run course.passes).mono fun result after examined => ?_)
    -- no iteration is left, so the completed ones are the whole budget
    refine closed_of_examined mended count examined fun clean violations blank left => ?_
    exact ⟨_, _, rfl, mended, .maxIterationsReached blank left budget⟩
  | succ left ih =>
    obtain ⟨mended, count, budget⟩ := underway
    refine ensures_passes trivial ⟨course.passes, _, rfl, mended, .cancelled count⟩
      (fun _ => trivial) ((inspect_examined run course.passes).mono fun result after examined => ?_)
    refine closed_of_examined mended count examined fun clean violations blank found => ?_
    have inPass : InPass course.passes (tried clean violations [])
      ⟨course.passes, some (tried clean violations [])⟩ := ⟨false, rfl⟩
    refine (iterate_recovered progress.number inPass).mono ?_
    rintro (failure | _ | outcome) after recovered
    · trivial
    · -- the iteration mended the sources, so the next pass is under way again
      obtain ⟨recompiled, ⟨remedied, rfl⟩, last⟩ := recovered
      exact ih (Underway.advance ⟨mended, count, budget⟩ last)
    · obtain ⟨recompiled, diagnostics, ⟨remedied, rfl⟩, attempts, unclean, last, rfl⟩ := recovered
      have number : progress.number.toNat = course.passes.length + 1 := by
        -- an iteration was left, so its number is within the budget and fits 32 bits
        have small : run.maxIterations.toNat < 2 ^ 32 := run.maxIterations.toNat_lt
        rw [Progress.number, UInt32.toNat_add, UInt32.toNat_one, count]
        omega
      exact ⟨_, _, rfl, mended,
        .recoveryExhausted blank found (by omega) number attempts unclean last⟩

/-- The checks before the first pass leave no mark; the rest is passes. -/
theorem start_closed (run : Run) :
    (recorder run).Ensures run.start.run ⟨[], none⟩ (Closed run) := by
  let Fresh (course : Course) : Prop := course = ⟨[], none⟩
  refine ensures_start Fresh Fresh ?_ (fun _ _ => trivial) (fun _ _ _ => trivial) ?_ ?_ ?_
  · refine (Monitor.ensures_of_kept Fresh (only_onDisk run.workspace.ensureSources) rfl ?_
      fun _ _ => id).mono ?_
    · rintro _ call disk rfl
      exact ⟨trivial, fun answer => note_aside (aside_disk call disk) answer⟩
    · rintro (failure | _) after fresh
      · trivial
      · exact fresh
  · rintro _ rfl
    rfl
  · rintro _ rfl
    exact ⟨trivial, fun _ => rfl⟩
  · rintro _ rfl
    exact passes_closed run ⟨List.forall_mem_nil _, rfl, Nat.zero_add _⟩

/-! ## Whole runs

The walk gives the shape of the last pass, and the shape gives the outcome. -/

/-- **Outcome exactness.** A run that does not fail ends in the pass after its completed iterations,
with the one outcome that its history fits. Unless it gives up on an iteration, that pass makes no
backup, no session and no message. -/
theorem outcome_exact (run : Run) {history : History Call Answer} {outcome : Outcome}
    (yields : Yields run.start.run history (.ok outcome)) :
    (∀ other, Fits run (passesOf run.repeats history) other ↔ outcome = other) ∧
      (passesOf run.repeats history).length =
        completed (passesOf run.repeats history) + 1 ∧
      ∀ pass, (passesOf run.repeats history)[completed (passesOf run.repeats history)]? = some pass →
        pass.remedied = false ∨ ∃ iteration attempts diagnostics,
          outcome = .recoveryExhausted iteration attempts diagnostics := by
  obtain ⟨-, earlier, last, ended, mended, shape⟩ := (start_closed run).sound yields
  have passes : passesOf run.repeats history = earlier ++ [last] := by
    show Course.passes ((recorder run).after ⟨[], none⟩ history) = _
    rw [ended]
    rfl
  obtain ⟨count, place⟩ := shape.question mended
  rw [passes, count, place]
  refine ⟨shape.fits_iff mended, by simp, fun pass found => ?_⟩
  cases found
  exact shape.idle

/-! ## A violation that stays

In this world every fix is accepted, compiles and changes nothing, so the budget is used up. -/

/-- A world in which fixes compile and change nothing. -/
def unmoved : (call : Call) → Answer call
  | .build => .ok ⟨"AZC0012: Model", false⟩
  | .worker (.readTranscript _) =>
    .ok [⟨"message", .user, ""⟩, ⟨"reply", .assistant,
      "\x7b\"analysis\":\x7b\x7d,\"updatedContent\":\"model\"\x7d"⟩]
  | call => obliging call

/-- The second pass of that run is left with the violation of the first. -/
theorem outcome_exact_unmoved :
    ∃ history, Yields plainRun.start.run history
        (.ok (.maxIterationsReached [⟨"AZC0012", "Model"⟩])) ∧
      Fits plainRun (passesOf .firstOccurrence history)
        (.maxIterationsReached [⟨"AZC0012", "Model"⟩]) := by
  have ended : ((plainRun.start.run.replay fun _ => unmoved) []).2.toOption =
      some (.maxIterationsReached [⟨"AZC0012", "Model"⟩]) := by decide +kernel
  have yields := Procedure.yields_replay (fun _ => unmoved) plainRun.start.run
  cases result : ((plainRun.start.run.replay fun _ => unmoved) []).2 with
  | error failure =>
    rw [result] at ended
    cases ended
  | ok outcome =>
    rw [result] at ended yields
    cases ended
    exact ⟨_, yields, ((outcome_exact plainRun yields).1 _).mpr rfl⟩

end Run

end AzcRepair
