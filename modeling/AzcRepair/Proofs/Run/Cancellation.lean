import AzcRepair.Proofs.Procedure.Lockstep
import AzcRepair.Proofs.Run.Outcomes
import AzcRepair.Proofs.Run.Passing
import AzcRepair.Proofs.Run.Rounds

/-!
# Cancellation

A request to stop only shortens a run, and only at the end of an iteration. Two runs are compared
whose collaborators answer the same when they were dealt with in the same way; the instants, the
fresh names and the switch may differ. One of the runs is never told to stop. Then the other one
does the same as that run as long as it is not told to stop either, and when it is, all that it did
is complete iterations.

* `Timing` — what the clocks of two runs have in common.
* `Alike`, `Similar` — calls and events that are the same, the time aside.
* `Collaborate` — worlds with the same collaborators.
* `start_lockstep` — a run is in lockstep with itself, whatever the time is, until it is stopped.
* `Completed` — an iteration that applied a fix, compiled it cleanly and released its session.
* `Truncates`, `cancellation_truncates` — what holds of every two such runs.
-/

namespace AzcRepair

open Monitor (Only)
open Procedure (Event History Yields Likeness Lockstep)

namespace Run

open Worker (Session Artifact Message)

/-! ## The time aside

Two runs of the same procedure differ in what the clock showed and in the names that are made from
it. So calls are compared up to such names (`Alike`) and events up to that and the answers of the
clock (`Similar`). What a pair of instants has in common is left open: equality gives the usual
sense of the same, and anything at all says that the claim does not depend on the time. -/

/-- What the instants that two runs read, and the fresh characters that they get, have in common: they
may be equal, and they may have nothing in common. -/
structure Timing where
  instants : Instant → Instant → Prop
  suffixes : String → String → Prop

/-- The calls are the same but for the instants and the fresh characters in the names of files and
indexes. -/
inductive Alike (workspace : Workspace) (timing : Timing) : Call → Call → Prop
  | same (call : Call) : Alike workspace timing call call
  | snapshot {now later : Instant} (time : timing.instants now later) (text : String) :
    Alike workspace timing (.disk (.write (workspace.violationSnapshot now) text))
      (.disk (.write (workspace.violationSnapshot later) text))
  | backup (iteration : UInt32) {now later : Instant} (time : timing.instants now later) :
    Alike workspace timing (.disk (.createNew (workspace.backupFile iteration now)))
      (.disk (.createNew (workspace.backupFile iteration later)))
  | archive (iteration : UInt32) {now later : Instant} (time : timing.instants now later) :
    Alike workspace timing (.disk (.archive (workspace.backupFile iteration now) workspace.sourceDir))
      (.disk (.archive (workspace.backupFile iteration later) workspace.sourceDir))
  | index {now later : Instant} {suffix other : String} (time : timing.instants now later)
    (fresh : timing.suffixes suffix other) (files : List String) :
    Alike workspace timing (.worker (.createIndex (Conversation.indexName now suffix) files))
      (.worker (.createIndex (Conversation.indexName later other) files))

/-- The call asks for the time, for a fresh name or for the switch, and not a collaborator. -/
def Call.isTimely : Call → Bool
  | clock | freshSuffix | cancelled => true
  | _ => false

/-- The events are the same, the time aside: collaborators answer the same, and the switch may be
answered in any way. -/
structure Similar (workspace : Workspace) (timing : Timing) (event other : Event Call Answer) :
    Prop where
  calls : Alike workspace timing event.1 other.1
  answers : event.1.isTimely = false → HEq event.2 other.2
  instants : ∀ now later, event = ⟨.clock, now⟩ → other = ⟨.clock, later⟩ →
    timing.instants now later
  suffixes : ∀ suffix fresh, event = ⟨.freshSuffix, suffix⟩ → other = ⟨.freshSuffix, fresh⟩ →
    timing.suffixes suffix fresh

/-- The worlds have the same collaborators, and these are deterministic: after the same dealings they
answer the same call in the same way, the time aside. -/
structure Collaborate (workspace : Workspace) (timing : Timing)
    (one other : History Call Answer → (call : Call) → Answer call) : Prop where
  answers : ∀ past before call counterpart, List.Forall₂ (Similar workspace timing) past before →
    Alike workspace timing call counterpart → call.isTimely = false →
      HEq (one past call) (other before counterpart)
  instants : ∀ past before, List.Forall₂ (Similar workspace timing) past before →
    timing.instants (one past .clock) (other before .clock)
  suffixes : ∀ past before, List.Forall₂ (Similar workspace timing) past before →
    timing.suffixes (one past .freshSuffix) (other before .freshSuffix)

/-- Failures are the same but for the instants in the names of files. -/
inductive SameFailure (workspace : Workspace) (timing : Timing) : Failure → Failure → Prop
  | same (failure : Failure) : SameFailure workspace timing failure failure
  | snapshot {now later : Instant} (time : timing.instants now later) (error : OsError) :
    SameFailure workspace timing (.workspace ⟨workspace.violationSnapshot now, error⟩)
      (.workspace ⟨workspace.violationSnapshot later, error⟩)
  | backup (iteration : UInt32) {now later : Instant} (time : timing.instants now later)
    (error : OsError) :
    SameFailure workspace timing (.workspace ⟨workspace.backupFile iteration now, error⟩)
      (.workspace ⟨workspace.backupFile iteration later, error⟩)

/-- Both parts of a run went well, with values that are related, or both failed in the same way. -/
def Agree (workspace : Workspace) (timing : Timing) {α : Type} (meets : α → α → Prop) :
    Except Failure α → Except Failure α → Prop
  | .ok value, .ok other => meets value other
  | .error failure, .error other => SameFailure workspace timing failure other
  | _, _ => False

/-- What counts as the same while the second run is not told to stop. -/
def likeness (workspace : Workspace) (timing : Timing) : Likeness Call Answer where
  calls := Alike workspace timing
  events event other := Similar workspace timing event other ∧ other ≠ ⟨.cancelled, true⟩

/-- The parts of a run that do not ask the switch never stop early. -/
def never {α : Type} (_ : α) : Prop := False

/-! ## Walking in lockstep

Two procedures are in lockstep if they make the same calls as long as they get the same answers.
One of them may stop early, which is what `stops` is for; in all parts of a run but the passes it
is `never`. Each rule is the rule for putting parts together, for two parts at a time. -/

section Walk

variable {workspace : Workspace} {timing : Timing} {α β : Type} {ends meets : α → α → Prop} {stops : α → Prop}

/-- The same question to a collaborator: both runs get the same answer. -/
theorem lockstep_ask {call : Call} {next later : Answer call → Act α}
    (timeless : call.isTimely = false)
    (rest : ∀ answer, Lockstep (likeness workspace timing) ends stops (next answer) (later answer)) :
    Lockstep (likeness workspace timing) ends stops (Procedure.ask call >>= next)
      (Procedure.ask call >>= later) := by
  refine .call (.same call) fun answer reply events => ?_
  obtain rfl := eq_of_heq (events.1.answers timeless)
  exact rest answer

/-- The time may differ within what the timing allows. -/
theorem lockstep_clock :
    Lockstep (likeness workspace timing) timing.instants never (ask .clock) (ask .clock) :=
  .call (.same .clock) fun now later events => .done (events.1.instants now later rfl rfl)

theorem lockstep_freshSuffix :
    Lockstep (likeness workspace timing) timing.suffixes never (ask .freshSuffix) (ask .freshSuffix) :=
  .call (.same .freshSuffix) fun suffix fresh events =>
    .done (events.1.suffixes suffix fresh rfl rfl)

variable (workspace timing) in
/-- A part that asks only collaborators is in lockstep with itself. -/
theorem lockstep_of_only {kind : Call → Prop} {p : Act α} (calls : Only kind p)
    (timeless : ∀ call, kind call → call.isTimely = false) :
    Lockstep (likeness workspace timing) Eq never p p := by
  refine .refl_of_only calls (fun call _ => .same call) fun call answer reply ofKind events => ?_
  exact eq_of_heq (events.1.answers (timeless call ofKind))

theorem lockstep_single (call : Call) (timeless : call.isTimely = false) :
    Lockstep (likeness workspace timing) Eq never (ask call) (ask call) :=
  lockstep_ask timeless fun _ => .done rfl

theorem agree_of_eq {value other : Except Failure α} (same : value = other) :
    Agree workspace timing Eq value other := by
  subst same
  cases value with
  | error failure => exact .same failure
  | ok value => exact rfl

variable (workspace timing) in
theorem lockstep_run_of_only {kind : Call → Prop} {part : Attempt α} (calls : Only kind part.run)
    (timeless : ∀ call, kind call → call.isTimely = false) :
    Lockstep (likeness workspace timing) (Agree workspace timing Eq) never part.run part.run :=
  (lockstep_of_only workspace timing calls timeless).mono fun _ _ => agree_of_eq

/-- Parts in lockstep are put together: where one fails, the other fails in the same way. -/
theorem lockstep_run_bind {finds : β → β → Prop} {halts : Except Failure β → Prop}
    {first second : Attempt α} {next later : α → Attempt β}
    (h : Lockstep (likeness workspace timing) (Agree workspace timing meets) never first.run second.run)
    (rest : ∀ value other, meets value other →
      Lockstep (likeness workspace timing) (Agree workspace timing finds) halts (next value).run
        (later other).run) :
    Lockstep (likeness workspace timing) (Agree workspace timing finds) halts (first >>= next).run
      (second >>= later).run := by
  rw [ExceptT.run_bind, ExceptT.run_bind]
  refine h.bind ?_
  rintro (failure | value) (other | other) agree
  · exact .done agree
  · -- one went well and the other failed, which lockstep excludes
    exact agree.elim
  · exact agree.elim
  · exact rest value other agree

theorem lockstep_run_always {halts : Except Failure α → Prop} {first second : Act α}
    (h : Lockstep (likeness workspace timing) meets never first second) :
    Lockstep (likeness workspace timing) (Agree workspace timing meets) halts (always first).run
      (always second).run :=
  h.bind fun _ _ meet => .done meet

theorem lockstep_run_orFail {ε : Type} {halts : Except Failure α → Prop} {wrap : ε → Failure}
    {first second : Act (Except ε α)}
    (h : Lockstep (likeness workspace timing) Eq never first second) :
    Lockstep (likeness workspace timing) (Agree workspace timing Eq) halts (orFail wrap first).run
      (orFail wrap second).run := by
  refine h.bind ?_
  rintro (failure | value) _ rfl
  · exact .done (.same _)
  · exact .done rfl

/-! ## Work on files

Only the names with an instant in them differ, those of the snapshot and of the archive. The two
runs then write to different paths and are refused for different paths, and both count as the
same. -/

theorem timeless_disk (call : Call) (disk : IsDisk call) : call.isTimely = false := by
  obtain ⟨request, rfl⟩ := disk
  rfl

/-- Asking for the same thing under two names is the same when the refusals are. -/
theorem lockstep_blame {path place : Path}
    {request other : Procedure Disk.Call Disk.Answer (Except OsError α)}
    (h : Lockstep (likeness workspace timing) Eq never (request.embed Call.disk fun _ answer => answer)
      (other.embed Call.disk fun _ answer => answer))
    (blames : ∀ error, SameFailure workspace timing (.workspace ⟨path, error⟩) (.workspace ⟨place, error⟩)) :
    Lockstep (likeness workspace timing) (Agree workspace timing Eq) never
      (onDisk (Workspace.blame path request)).run (onDisk (Workspace.blame place other)).run := by
  simp only [onDisk, Workspace.blame, orFail, ExceptT.run_mk, embed_bind, Procedure.bind_assoc]
  refine h.bind ?_
  rintro (error | value) _ rfl
  · exact .done (blames error)
  · exact .done rfl

/-- Two writes of one text, under names that are alike. -/
theorem lockstep_write {path place : Path} {text : String}
    (alike : Alike workspace timing (.disk (.write path text)) (.disk (.write place text)))
    (blames : ∀ error, SameFailure workspace timing (.workspace ⟨path, error⟩) (.workspace ⟨place, error⟩)) :
    Lockstep (likeness workspace timing) (Agree workspace timing Eq) never (onDisk (Workspace.write path text)).run
      (onDisk (Workspace.write place text)).run :=
  lockstep_blame (.call alike fun _ _ events => .done (eq_of_heq (events.1.answers rfl))) blames

theorem lockstep_createNew {path place : Path}
    (alike : Alike workspace timing (.disk (.createNew path)) (.disk (.createNew place)))
    (blames : ∀ error, SameFailure workspace timing (.workspace ⟨path, error⟩) (.workspace ⟨place, error⟩)) :
    Lockstep (likeness workspace timing) (Agree workspace timing Eq) never
      (onDisk (Workspace.blame path (Disk.ask (.createNew path)))).run
      (onDisk (Workspace.blame place (Disk.ask (.createNew place)))).run :=
  lockstep_blame (.call alike fun _ _ events => .done (eq_of_heq (events.1.answers rfl))) blames

/-- Two archives of one directory, under names that are alike. -/
theorem lockstep_archive {path place directory : Path}
    (alike : Alike workspace timing (.disk (.archive path directory)) (.disk (.archive place directory)))
    (blames : ∀ error, SameFailure workspace timing (.workspace ⟨path, error⟩) (.workspace ⟨place, error⟩)) :
    Lockstep (likeness workspace timing) (Agree workspace timing Eq) never
      (onDisk (Workspace.blame path (Disk.ask (.archive path directory)))).run
      (onDisk (Workspace.blame place (Disk.ask (.archive place directory)))).run :=
  lockstep_blame (.call alike fun _ _ events => .done (eq_of_heq (events.1.answers rfl))) blames

/-- The log is written under one name and the copy of it under two. -/
theorem lockstep_persistViolations (text : String) {now later : Instant}
    (time : timing.instants now later) :
    Lockstep (likeness workspace timing) (Agree workspace timing fun _ _ => True) never
      (onDisk (workspace.persistViolations text now)).run
      (onDisk (workspace.persistViolations text later)).run := by
  unfold Workspace.persistViolations
  simp only [onDisk_bind]
  have made := lockstep_run_of_only workspace timing
    (only_onDisk (Workspace.makeDirectories workspace.logDir)) timeless_disk
  refine lockstep_run_bind made fun _ _ _ => ?_
  refine lockstep_run_bind (lockstep_write (.same _) fun _ => .same _) fun _ _ _ => ?_
  refine lockstep_run_bind (lockstep_write (.snapshot time text) fun error => ?_)
    fun _ _ _ => .done trivial
  exact .snapshot time error

theorem lockstep_createBackup (iteration : UInt32) {now later : Instant}
    (time : timing.instants now later) :
    Lockstep (likeness workspace timing) (Agree workspace timing fun _ _ => True) never
      (onDisk (workspace.createBackup iteration now)).run
      (onDisk (workspace.createBackup iteration later)).run := by
  unfold Workspace.createBackup
  simp only [onDisk_bind]
  have made := lockstep_run_of_only workspace timing
    (only_onDisk (Workspace.makeDirectories workspace.backupDir)) timeless_disk
  refine lockstep_run_bind made fun _ _ _ => ?_
  have blames (error : OsError) : SameFailure workspace timing
      (.workspace ⟨workspace.backupFile iteration now, error⟩)
      (.workspace ⟨workspace.backupFile iteration later, error⟩) := .backup iteration time error
  refine lockstep_run_bind (lockstep_createNew (.backup iteration time) blames) fun _ _ _ => ?_
  refine lockstep_run_bind (lockstep_archive (.archive iteration time) blames) fun _ _ _ => ?_
  exact .done trivial

/-- To drop the value keeps two parts in lockstep. -/
theorem lockstep_discard {x y : Attempt α}
    (h : Lockstep (likeness workspace timing) (Agree workspace timing meets) never x.run y.run) :
    Lockstep (likeness workspace timing) (Agree workspace timing fun _ _ => True) never (discard x).run
      (discard y).run := by
  -- a value is dropped by going on without it
  have mapped (part : Attempt α) : discard part = part >>= fun _ => pure () := by
    change (fun _ => ()) <$> part = _
    rw [map_eq_pure_bind]
  rw [mapped, mapped]
  exact lockstep_run_bind h fun _ _ _ => .done trivial

/-! ## Opening and closing a session

Here the name of the index differs, and what comes back for it is the same, so from then on the
two sessions are one. -/

/-- What is said on a session is said to a collaborator. -/
theorem timeless_speaks {session : Session} (call : Call) (h : Speaks session call) :
    call.isTimely = false := by
  obtain ⟨ms, rfl⟩ | ⟨request, rfl, -⟩ := h <;> rfl

/-- Everything that an iteration does within its session is asked of a collaborator. -/
theorem timeless_worksOn {session : Session} (call : Call) (h : WorksOn workspace session call) :
    call.isTimely = false := by
  obtain (rfl | rfl | ⟨text, rfl⟩) | rfl | speaks := h
  · rfl
  · rfl
  · rfl
  · rfl
  · exact timeless_speaks call speaks

/-- Two questions for an index, under names that are alike. -/
theorem lockstep_createIndex {name other : String} {files : List String}
    (alike : Alike workspace timing (.worker (.createIndex name files))
      (.worker (.createIndex other files))) :
    Lockstep (likeness workspace timing) Eq never (askWorker (.createIndex name files))
      (askWorker (.createIndex other files)) :=
  .call alike fun _ _ events => .done (eq_of_heq (events.1.answers rfl))

/-- Two setups make the same calls but for the name of the index, and come to the same session. -/
theorem lockstep_setUp (conversation : Conversation) (instructions : String)
    (artifacts : List Artifact) :
    Lockstep (likeness workspace timing) Eq never (conversation.setUp instructions artifacts)
      (conversation.setUp instructions artifacts) := by
  refine lockstep_ask rfl fun created => ?_
  rcases created with failure | session
  · exact .done rfl
  have uploads := lockstep_of_only workspace timing (only_uploadAll session artifacts)
    (by rintro _ ⟨artifact, rfl⟩; rfl)
  refine uploads.bind ?_
  rintro ⟨session, failure | _⟩ _ rfl
  · exact .done rfl
  refine lockstep_clock.bind fun now later time => ?_
  refine lockstep_freshSuffix.bind fun suffix other fresh => ?_
  -- the names of the index may differ, and the service calls it the same
  have alike : Alike workspace timing
      (.worker (.createIndex (Conversation.indexName now suffix) session.files))
      (.worker (.createIndex (Conversation.indexName later other) session.files)) :=
    .index time fresh session.files
  generalize Conversation.indexName now suffix = name at alike ⊢
  generalize Conversation.indexName later other = counterpart at alike ⊢
  refine (lockstep_createIndex alike).bind fun made _ same => ?_
  subst same
  rcases made with failure | index
  · exact .done rfl
  refine lockstep_ask rfl fun _ => ?_
  have waits := lockstep_of_only workspace timing
    (only_waitForIndex conversation index conversation.maxPolls.toNat)
    (by rintro _ (⟨ms, rfl⟩ | rfl) <;> rfl)
  refine waits.bind ?_
  rintro (failure | _) _ rfl
  · exact .done rfl
  · exact lockstep_ask rfl fun attached => .done rfl

theorem lockstep_closeSession (session : Session) :
    Lockstep (likeness workspace timing) Eq never (Conversation.closeSession session)
      (Conversation.closeSession session) := by
  unfold Conversation.closeSession
  split
  · exact .done rfl
  · exact lockstep_ask rfl fun _ => .done rfl

theorem lockstep_openWithin (conversation : Conversation) (instructions : String)
    (artifacts : List Artifact) (left : Nat) :
    Lockstep (likeness workspace timing) Eq never (conversation.openWithin instructions artifacts left)
      (conversation.openWithin instructions artifacts left) := by
  -- the induction is on the attempts that are left, which are the same on both sides
  induction left with
  | zero =>
    refine (lockstep_setUp conversation instructions artifacts).bind ?_
    rintro ⟨session, failure | _⟩ _ rfl
    · exact (lockstep_closeSession session).bind fun _ _ _ => .done rfl
    · exact .done rfl
  | succ left ih =>
    refine (lockstep_setUp conversation instructions artifacts).bind ?_
    rintro ⟨session, failure | _⟩ _ rfl
    · exact (lockstep_closeSession session).bind fun _ _ _ => ih
    · exact .done rfl

theorem lockstep_openSession (conversation : Conversation) (instructions : String)
    (artifacts : List Artifact) :
    Lockstep (likeness workspace timing) Eq never (conversation.openSession instructions artifacts)
      (conversation.openSession instructions artifacts) := by
  rcases conversation.openSession_cases instructions artifacts with ⟨-, same⟩ | ⟨-, same⟩
  · rw [same]
    refine (lockstep_openWithin conversation instructions artifacts _).bind ?_
    rintro opened _ rfl
    exact .done rfl
  · rw [same]
    exact .done rfl

end Walk

/-! ## Runs in lockstep

A pass begins with the question to the switch, and there the two runs may part: one of them is
told to stop, and the other never is. Everything else they do alike. -/

section Runs

variable (run : Run) {timing : Timing}

theorem lockstep_compile :
    Lockstep (likeness run.workspace timing) (Agree run.workspace timing Eq) never compile.run compile.run :=
  lockstep_run_orFail (lockstep_single .compile rfl)

theorem lockstep_inspect :
    Lockstep (likeness run.workspace timing) (Agree run.workspace timing Eq) never run.inspect.run
      run.inspect.run := by
  refine lockstep_run_bind (lockstep_compile run) ?_
  rintro diagnostics _ rfl
  split
  · exact .done rfl
  refine lockstep_run_bind (lockstep_run_orFail (lockstep_single .prepareArtifacts rfl))
    fun _ _ _ => ?_
  refine lockstep_run_bind (lockstep_run_orFail (lockstep_single .build rfl)) ?_
  rintro output _ rfl
  have logs := lockstep_run_of_only run.workspace timing
    (only_onDisk (run.workspace.persistBuildLog output.rawLog)) timeless_disk
  refine lockstep_run_bind (lockstep_discard logs) fun _ _ _ => ?_
  refine lockstep_run_bind (lockstep_run_always lockstep_clock) fun now later time => ?_
  refine lockstep_run_bind (lockstep_discard (lockstep_persistViolations _ time)) fun _ _ _ => ?_
  exact .done rfl

/-- Two iterations come to the same outcome, or fail in the same way. -/
theorem lockstep_iterate (iteration : UInt32) (violations : List Violation) :
    Lockstep (likeness run.workspace timing) (Agree run.workspace timing Eq) never
      (run.iterate iteration violations).run (run.iterate iteration violations).run := by
  refine lockstep_run_bind (lockstep_run_always lockstep_clock) fun now later time => ?_
  refine lockstep_run_bind (lockstep_discard (lockstep_createBackup iteration time))
    fun _ _ _ => ?_
  refine lockstep_run_bind (lockstep_run_orFail (lockstep_openSession run.conversation
    run.instructions run.workspace.artifacts)) ?_
  rintro opened _ rfl
  have looked : Lockstep (likeness run.workspace timing) Eq never (return opened) (return opened) :=
    .done rfl
  refine lockstep_run_bind (lockstep_run_orFail looked) ?_
  rintro session _ rfl
  -- within the session nothing depends on the time
  have works := lockstep_of_only run.workspace timing
    (only_remediate run session iteration violations) timeless_worksOn
  refine lockstep_run_bind (lockstep_run_always works) ?_
  rintro result _ rfl
  refine lockstep_run_bind (lockstep_run_always (lockstep_closeSession session)) fun _ _ _ => ?_
  rcases result with failure | outcome
  · exact .done (.same failure)
  · exact .done rfl

theorem lockstep_count (progress : Progress) :
    Lockstep (likeness run.workspace timing) (Agree run.workspace timing Eq) never
      (count progress).run (count progress).run :=
  lockstep_run_orFail (.done rfl)

/-- The run was told to stop. -/
def Stopped (result : Except Failure Outcome) : Prop :=
  ∃ iterations, result = .ok (.cancelled iterations)

/-- While the second run is not told to stop, it is answered that it should go on. -/
theorem switched {answer reply : Bool}
    (events : (likeness run.workspace timing).events ⟨.cancelled, answer⟩ ⟨.cancelled, reply⟩) :
    reply = false := by
  cases reply with
  | false => rfl
  | true => exact absurd rfl events.2

/-- The passes of two runs, up to the first question at which one of them is told to stop. -/
theorem lockstep_passes (progress : Progress) (left : Nat) :
    Lockstep (likeness run.workspace timing) (Agree run.workspace timing Eq) Stopped (run.passes progress left).run
      (run.passes progress left).run := by
  -- the induction is on the iterations that are left; only the switch can part the two runs
  induction left generalizing progress with
  | zero =>
    refine .call (.same .cancelled) fun answer reply events => ?_
    obtain rfl := switched run events
    cases answer with
    -- this run stops here, and the other goes on alone
    | true => exact .stopped ⟨progress.index, rfl⟩
    | false =>
      refine lockstep_run_bind (lockstep_discard (lockstep_count run progress)) fun _ _ _ => ?_
      refine lockstep_run_bind (lockstep_inspect run) ?_
      rintro found _ rfl
      rcases found with diagnostics | _ | ⟨violation, more⟩
      · exact .done rfl
      · exact .done rfl
      · exact .done rfl
  | succ left ih =>
    refine .call (.same .cancelled) fun answer reply events => ?_
    obtain rfl := switched run events
    cases answer with
    | true => exact .stopped ⟨progress.index, rfl⟩
    | false =>
      refine lockstep_run_bind (lockstep_count run progress) ?_
      rintro number _ rfl
      refine lockstep_run_bind (lockstep_inspect run) ?_
      rintro found _ rfl
      rcases found with diagnostics | _ | ⟨violation, more⟩
      · exact .done rfl
      · exact .done rfl
      refine lockstep_run_bind (lockstep_iterate run _ _) ?_
      rintro (_ | outcome) _ rfl
      · exact ih progress.advance
      · exact .done rfl

/-- A run is in lockstep with itself, whatever the time is, until it is told to stop. -/
theorem start_lockstep :
    Lockstep (likeness run.workspace timing) (Agree run.workspace timing Eq) Stopped run.start.run
      run.start.run := by
  have sources := lockstep_run_of_only run.workspace timing
    (only_onDisk run.workspace.ensureSources) timeless_disk
  refine lockstep_run_bind sources fun _ _ _ => ?_
  refine lockstep_run_bind (lockstep_run_orFail (lockstep_single (.worker .checkConnection) rfl))
    fun _ _ _ => ?_
  change Lockstep _ _ _ (ite _ _ _ : Attempt Outcome).run (ite _ _ _ : Attempt Outcome).run
  split
  · have purges : Lockstep (likeness run.workspace timing) Eq never Conversation.purgeStale
        Conversation.purgeStale := lockstep_ask rfl fun _ => .done rfl
    exact lockstep_run_bind (lockstep_run_always purges) fun _ _ _ => lockstep_passes run _ _
  · exact lockstep_passes run _ _

end Runs

/-! ## Complete iterations

What a cancelled run did before it was told to stop is a list of passes that mend. That each of
them is a complete iteration is read off its talk: the rounds of repair end well only behind an
answer that was applied and compiled. -/

variable {run : Run} {session : Session} {history : History Call Answer}

/-- A pass with a complete iteration: on the session that it opened the worker answered a last
request, the contract in the answer replaced the target file, the compiler did not complain about
it, and the session was torn down. -/
inductive Completed (run : Run) : History Call Answer → Prop
  | mk {before work exchange : History Call Answer} {session : Session} {index text : String}
    {diagnostics : String} {answer : Except Worker.Failure Unit}
    (exchanges : Exchanged run session text exchange)
    (clean : Text.isBlankText diagnostics = true) :
    Completed run (before ++ ⟨.worker (.attachIndex session index), .ok ()⟩ :: (work ++ (exchange ++
      [⟨.compile, .ok diagnostics⟩, ⟨.worker (.teardownSession session), answer⟩])))

/-- Rounds that end well end with an answer that was applied and compiled cleanly. -/
theorem rounds_mended {iteration : UInt32} {left : Nat} {text : String}
    {result : Except Failure (Option Outcome)}
    (rounds : Rounds run session iteration left text history result) (ends : result = .ok none) :
    ∃ work exchange asked diagnostics, history = work ++ (exchange ++ [⟨.compile, .ok diagnostics⟩]) ∧
      Exchanged run session asked exchange ∧ Text.isBlankText diagnostics = true := by
  -- the last round decides; those before it are work that led to it
  induction rounds with
  | thwarted | uncompiled | exhausted => cases ends
  | @mended left text diagnostics history exchanges blank =>
    exact ⟨[], history, text, diagnostics, rfl, exchanges, blank⟩
  | @again left text diagnostics history later result exchanges broken _ ih =>
    obtain ⟨work, exchange, asked, clean, rfl, exchanged, blank⟩ := ih ends
    refine ⟨history ++ ⟨.compile, .ok diagnostics⟩ :: work, exchange, asked, clean, ?_, exchanged,
      blank⟩
    rw [List.append_assoc, List.cons_append]

/-- A talk that ends well ends the same way. -/
theorem talk_mended {iteration : UInt32} {violations : List Violation} {talk : History Call Answer}
    {result : Except Failure (Option Outcome)}
    (talks : Talk run session iteration violations talk result) (ends : result = .ok none) :
    ∃ work exchange asked diagnostics, talk = work ++ (exchange ++ [⟨.compile, .ok diagnostics⟩]) ∧
      Exchanged run session asked exchange ∧ Text.isBlankText diagnostics = true := by
  cases talks with
  | unread | unposted => cases ends
  | held rounds =>
    obtain ⟨work, exchange, asked, clean, rfl, exchanged, blank⟩ := rounds_mended rounds ends
    exact ⟨_ :: _ :: _ :: work, exchange, asked, clean, rfl, exchanged, blank⟩

/-- A pass after which the run goes on is a complete iteration. -/
theorem completed_of_mending {progress : Progress} {pass : History Call Answer}
    (mends : Mending run progress pass) : Completed run pass := by
  obtain @⟨inspected, iterated, violation, more, inspects, iterates⟩ := mends
  -- the iteration ended without an outcome, which leaves one rule for it
  generalize same : (.ok none : Except Failure (Option Outcome)) = result at iterates
  cases iterate_iterated iterates with
  | unsaved | unopened => cases same
  | @held time archiving opening talk session _ answer archives opens talks =>
    obtain @⟨setups, index, -, -⟩ := opens
    obtain ⟨work, exchange, text, diagnostics, rfl, exchanged, blank⟩ := talk_mended talks same.symm
    have completed : Completed run ((⟨.cancelled, false⟩ :: inspected ++
        ⟨.clock, time⟩ :: (archiving ++ setups)) ++
        ⟨.worker (.attachIndex session index), .ok ()⟩ :: (work ++ (exchange ++
          [⟨.compile, .ok diagnostics⟩, ⟨.worker (.teardownSession session), answer⟩]))) :=
      .mk exchanged blank
    simpa using completed

/-- A run that is told to stop has made complete iterations until then, as many as it says. -/
theorem passing_stopped {progress : Progress} {left : Nat} {passes : List (History Call Answer)}
    {iterations : UInt32} {result : Except Failure Outcome}
    (passing : Passing run progress left passes result) (ends : result = .ok (.cancelled iterations))
    (small : progress.index.toNat + left < UInt32.size) :
    ∃ complete, passes = complete ++ [[⟨.cancelled, true⟩]] ∧
      (∀ pass ∈ complete, Completed run pass) ∧
        progress.index.toNat + complete.length = iterations.toNat := by
  induction passing with
  | last last =>
    cases last with
    | stopped =>
      cases ends
      exact ⟨[], rfl, List.forall_mem_nil _, rfl⟩
    | uncounted | failed | broken | converged | spent => cases ends
    | iterated inspects iterates last =>
      obtain ⟨failure, rfl⟩ | ⟨diagnostics, rfl⟩ := ends_of_iterated iterates last
      · cases ends
      · cases ends
  | @further progress left pass passes result mends _ ih =>
    -- the count stays within 32 bits, so it goes up by one with each pass
    have advanced : progress.advance.index.toNat = progress.index.toNat + 1 := by
      have size : UInt32.size = 4294967296 := rfl
      rw [Progress.advance, UInt32.toNat_add, UInt32.toNat_one]
      omega
    obtain ⟨complete, rfl, completed, count⟩ := ih ends (by omega)
    refine ⟨pass :: complete, rfl, List.forall_mem_cons.mpr ⟨completed_of_mending mends, completed⟩,
      ?_⟩
    rw [List.length_cons]
    omega

/-! ## Two runs

The simulation is applied once, to a run and itself. It ends with the two runs having done the
same all along, or with one of them stopped; in the second case what is known of a cancelled run
says that it stopped between two iterations. -/

/-- How a run is related to the same run that is never told to stop, by their histories and their
results. -/
inductive Truncates (run : Run) (timing : Timing) (stopped : History Call Answer) (result : Except Failure Outcome)
    (whole : History Call Answer) (other : Except Failure Outcome) : Prop
  /-- They do the same and end in the same way, the time aside. -/
  | complete (same : List.Forall₂ (Similar run.workspace timing) stopped whole)
    (ends : Agree run.workspace timing Eq result other)
  /-- The run is told to stop, and up to then it does the same: it makes complete iterations, as many
  as it says. -/
  | cut {before shared rest : History Call Answer} {complete : List (History Call Answer)}
    {iterations : UInt32} (stops : stopped = before ++ [⟨.cancelled, true⟩])
    (ends : result = .ok (.cancelled iterations)) (goes : whole = shared ++ rest)
    (same : List.Forall₂ (Similar run.workspace timing) before shared)
    (boundary : sections stopped = complete ++ [[⟨.cancelled, true⟩]])
    (completed : ∀ pass ∈ complete, Completed run pass)
    (count : complete.length = iterations.toNat)

/-- The end of a run that is told to stop. -/
theorem start_stopped {history : History Call Answer} {iterations : UInt32}
    (yields : Yields run.start.run history (.ok (.cancelled iterations))) :
    ∃ complete, sections history = complete ++ [[⟨.cancelled, true⟩]] ∧
      (∀ pass ∈ complete, Completed run pass) ∧ complete.length = iterations.toNat := by
  obtain ⟨-, ⟨-, failure, failed⟩ | passing⟩ := start_passing yields
  · cases failed
  have start : (Progress.start run.maxIterations).index.toNat = 0 := rfl
  have small : run.maxIterations.toNat < UInt32.size := run.maxIterations.toNat_lt_size
  obtain ⟨complete, parts, completed, count⟩ := passing_stopped passing rfl (by omega)
  exact ⟨complete, parts, completed, by omega⟩

/-- What is the same while the second run goes on is the same, the time aside. -/
theorem similar_of_events {timing : Timing} {past before : History Call Answer}
    (same : List.Forall₂ (likeness run.workspace timing).events past before) :
    List.Forall₂ (Similar run.workspace timing) past before :=
  same.imp fun _ _ events => events.1

/-- Worlds with the same collaborators answer alike while the second one does not tell its run to
stop. -/
theorem events_of_collaborate {timing : Timing}
    {one other : History Call Answer → (call : Call) → Answer call}
    (collaborate : Collaborate run.workspace timing one other)
    (uncancelled : ∀ past, other past .cancelled = false) (past before : History Call Answer)
    (call counterpart : Call)
    (same : List.Forall₂ (likeness run.workspace timing).events past before)
    (alike : Alike run.workspace timing call counterpart) :
    (likeness run.workspace timing).events ⟨call, one past call⟩
      ⟨counterpart, other before counterpart⟩ := by
  have similar := similar_of_events same
  refine ⟨⟨alike, collaborate.answers past before call counterpart similar alike, ?_, ?_⟩, ?_⟩
  · rintro _ _ ⟨⟩ ⟨⟩
    exact collaborate.instants past before similar
  · rintro _ _ ⟨⟩ ⟨⟩
    exact collaborate.suffixes past before similar
  · intro told
    obtain ⟨rfl, answered⟩ := Sigma.mk.inj told
    cases (eq_of_heq answered).symm.trans (uncancelled before)

/-- A run that was told to stop, and up to then did the same as the other one. -/
theorem truncates_of_stopped {timing : Timing} {stopped whole shared rest : History Call Answer}
    {result other : Except Failure Outcome} (yields : Yields run.start.run stopped result)
    (stops : Stopped result) (goes : whole = shared ++ rest)
    (same : List.Forall₂ (Similar run.workspace timing) stopped shared) :
    Truncates run timing stopped result whole other := by
  obtain ⟨iterations, rfl⟩ := stops
  obtain ⟨complete, boundary, completed, count⟩ := start_stopped yields
  -- everything before the last call, which is the question that stops the run
  let before : History Call Answer := prelude stopped ++ complete.flatten
  let last : Event Call Answer := ⟨.cancelled, true⟩
  have ends : stopped = before ++ [last] := by
    calc stopped = prelude stopped ++ (sections stopped).flatten :=
          (prelude_append_sections stopped).symm
      _ = prelude stopped ++ (complete ++ [[last]]).flatten := by rw [boundary]
      _ = before ++ [last] := by
          rw [List.flatten_append, List.flatten_singleton, ← List.append_assoc]
  have shortened : List.Forall₂ (Similar run.workspace timing) before (shared.take before.length) := by
    have taken := List.forall₂_take before.length same
    rwa [ends, List.take_left] at taken
  have parts : whole = shared.take before.length ++ (shared.drop before.length ++ rest) := by
    rw [goes, ← List.append_assoc, List.take_append_drop]
  exact .cut ends rfl parts shortened boundary completed count

/-- **Cancellation only truncates.** Take two runs whose collaborators are deterministic and the
same, and let the second one never be told to stop. Whenever and however often the first one asks
whether it should stop, it does the same as the second one and ends in the same way, or it is
cancelled: then all that it did the second one does too, and it was complete iterations, as many as
the outcome says, each with its fix applied, compiled cleanly, and its session torn down. -/
theorem cancellation_truncates (run : Run) (timing : Timing)
    (one other : History Call Answer → (call : Call) → Answer call)
    (collaborate : Collaborate run.workspace timing one other)
    (uncancelled : ∀ past, other past .cancelled = false) :
    Truncates run timing (run.start.run.replay one []).1 (run.start.run.replay one []).2
      (run.start.run.replay other []).1 (run.start.run.replay other []).2 := by
  have respects := events_of_collaborate collaborate uncancelled
  have yields := Procedure.yields_replay one run.start.run
  -- both went to their ends, or the first one was told to stop
  rcases (start_lockstep run).replay respects .nil with both | stopped
  · exact .complete (similar_of_events both.1) both.2
  · obtain ⟨shared, rest, goes, same⟩ := stopped.2
    exact truncates_of_stopped yields stopped.1 goes (similar_of_events same)

/-! ## A run that is told to stop in its first iteration

Two worlds with the same collaborators and different clocks: one tells its run to stop at the
second question. -/

/-- A world in which fixes compile and change nothing, and where the run is told to stop when it asks
for the second time; the clock shows another time. -/
def halting (past : History Call Answer) : (call : Call) → Answer call
  | .cancelled => past.any (·.1 = .cancelled)
  | .clock => ⟨86400, 0⟩
  | call => unmoved call

/-- The instants and the fresh characters need have nothing in common. -/
def anyTiming : Timing :=
  ⟨fun _ _ => True, fun _ _ => True⟩

/-- The collaborators of the two worlds are the same. -/
theorem halting_of_timeless (past : History Call Answer) {call : Call}
    (timeless : call.isTimely = false) : halting past call = unmoved call := by
  cases call with
  | clock | cancelled | freshSuffix => cases timeless
  | _ => rfl

/-- The world does not look at the names that hold an instant. -/
theorem unmoved_of_alike {workspace : Workspace} {timing : Timing} {call counterpart : Call}
    (alike : Alike workspace timing call counterpart) :
    HEq (unmoved call) (unmoved counterpart) := by
  have write (path place : Path) (text : String) :
      HEq (unmoved (.disk (.write path text))) (unmoved (.disk (.write place text))) := HEq.rfl
  have create (path place : Path) :
      HEq (unmoved (.disk (.createNew path))) (unmoved (.disk (.createNew place))) := HEq.rfl
  have archive (path place directory : Path) :
      HEq (unmoved (.disk (.archive path directory))) (unmoved (.disk (.archive place directory))) :=
    HEq.rfl
  have index (name other : String) (files : List String) :
      HEq (unmoved (.worker (.createIndex name files))) (unmoved (.worker (.createIndex other files))) :=
    HEq.rfl
  cases alike with
  | same => exact HEq.rfl
  | snapshot => exact write _ _ _
  | backup => exact create _ _
  | archive => exact archive _ _ _
  | index => exact index _ _ _

theorem collaborate_halting (workspace : Workspace) :
    Collaborate workspace anyTiming halting fun _ => unmoved := by
  refine ⟨?_, fun _ _ _ => trivial, fun _ _ _ => trivial⟩
  intro past before call counterpart _ alike timeless
  rw [halting_of_timeless past timeless]
  exact unmoved_of_alike alike

/-- That run makes one iteration and says so, and without the request it would make two. -/
theorem cancellation_truncates_halting :
    let run := { plainRun with maxIterations := 2 }
    let stopped := run.start.run.replay halting []
    let whole := run.start.run.replay (fun _ => unmoved) []
    Truncates run anyTiming stopped.1 stopped.2 whole.1 whole.2 ∧
      stopped.2.toOption = some (.cancelled 1) ∧
      whole.2.toOption = some (.maxIterationsReached [⟨"AZC0012", "Model"⟩]) := by
  intro run stopped whole
  have truncates := cancellation_truncates run anyTiming halting (fun _ => unmoved)
    (collaborate_halting run.workspace) fun _ => rfl
  exact ⟨truncates, by decide +kernel, by decide +kernel⟩

end Run

end AzcRepair
