import AzcRepair.Proofs.Procedure.Count
import AzcRepair.Proofs.Run.Calls
import Mathlib.Tactic.Ring

/-!
# What a run costs

The calls of a run fall into kinds. For every choice of kinds each part of a run has a cost: the
most calls of these kinds that it makes, whatever the world answers. Costs add up as the parts
follow on each other, and a loop costs its body once for every round that its counter allows.

* `Kind` — the kinds of calls.
* `Costs` — a part of a run makes at most that many calls of the chosen kinds.
* `costs_recover`, `costs_openWithin`, `atMost_passes` — the loops, each by induction on its counter.
* `costs_start` — the cost of a whole run.
* `handouts_start` — sessions are handed out at most once in each iteration.
-/

namespace AzcRepair

open Monitor (AtMost)
open Procedure (Event History Yields)

namespace Run

open Worker (Session Job)

/-! ## Kinds of calls

Costs are computed for a choice of kinds, given as a test; the cost of a run in builds, say, is
the instance that chooses builds. So there is one theorem for each part of a run, and not one for
each part and each kind. The rules for putting parts together are those of `Monitor.AtMost`. -/

/-- What is counted about the calls of a run. -/
inductive Kind where
  /-- A pass begins: the switch is asked. -/
  | pass
  | build
  | compile
  | backup
  | attach
  | message
  | job
  | poll
  | other
  deriving DecidableEq

/-- Of all kinds just this one. -/
def Kind.is (one kind : Kind) : Bool :=
  kind = one

/-- The kind of a call. Those that no bound is about are of one kind. -/
def Call.kind : Call → Kind
  | cancelled => .pass
  | build => .build
  | compile => .compile
  | disk (.createNew _) => .backup
  | worker (.attachIndex ..) => .attach
  | worker (.sendMessage ..) => .message
  | worker (.startJob _) => .job
  | worker (.pollJob ..) => .poll
  | _ => .other

/-- The event is a call of a chosen kind. -/
def Chosen (of : Kind → Bool) (event : Event Call Answer) : Bool :=
  of event.1.kind

/-- Whatever is answered, the part of a run makes at most that many calls of the chosen kinds. -/
abbrev Costs {α : Type} (of : Kind → Bool) (p : Act α) (most : Nat) : Prop :=
  AtMost (Chosen of) most p

/-- The cost of one call of a kind. -/
def price (of : Kind → Bool) (kind : Kind) : Nat :=
  (of kind).toNat

variable {α β : Type}

section Parts

variable {counted : Event Call Answer → Bool} {first rest : Nat}

/-- The costs of two parts add up, whether the first one fails or not. -/
theorem atMost_run_bind {x : Attempt α} {next : α → Attempt β} (hx : AtMost counted first x.run)
    (hn : ∀ value, AtMost counted rest (next value).run) :
    AtMost counted (first + rest) (x >>= next).run := by
  rw [ExceptT.run_bind]
  refine hx.bind fun outcome => ?_
  cases outcome with
  | error failure => exact Monitor.atMost_done rest _
  | ok value => exact hn value

theorem atMost_run_always {act : Act α} (h : AtMost counted first act) :
    AtMost counted first (always act).run :=
  fun sum => ensures_run_always.mpr (h sum)

theorem atMost_run_orFail {ε : Type} {wrap : ε → Failure} {act : Act (Except ε α)}
    (h : AtMost counted first act) : AtMost counted first (orFail wrap act).run :=
  fun sum => ensures_run_orFail.mpr (h sum)

theorem atMost_run_discard {x : Attempt α} (h : AtMost counted first x.run) :
    AtMost counted first (discard x).run :=
  fun sum => ensures_run_discard.mpr (h sum)

theorem atMost_discard {act : Act α} (h : AtMost counted first act) :
    AtMost counted first (discard act) :=
  fun sum => ensures_discard.mpr (h sum)

theorem atMost_onDisk_bind {action : Workspace.Action α} {next : α → Workspace.Action β}
    (ha : AtMost counted first (onDisk action).run)
    (hn : ∀ value, AtMost counted rest (onDisk (next value)).run) :
    AtMost counted (first + rest) (onDisk (action >>= next)).run := by
  intro sum
  refine ensures_onDisk_bind.mpr ((ha sum).mono fun outcome middle before => ?_)
  cases outcome with
  | error failure => exact Nat.le_trans before (by omega)
  | ok value => exact (hn value middle).mono fun _ after bound => by omega

theorem atMost_onDisk_pure (value : α) :
    AtMost counted 0 (onDisk (pure value : Workspace.Action α)).run :=
  Monitor.atMost_done 0 _

end Parts

variable {of : Kind → Bool}

/-- A call costs its price, and then what follows on any answer. -/
theorem costs_call {most : Nat} {call : Call} {next : Answer call → Act α}
    (later : ∀ answer, Costs of (next answer) most) :
    Costs of (.call call next) (price of call.kind + most) :=
  Monitor.atMost_call (fun _ => Nat.le_refl _) later

theorem costs_ask (call : Call) : Costs of (ask call) (price of call.kind) :=
  Monitor.atMost_ask fun _ => Nat.le_refl _

/-- The end costs nothing, so any bound will do. -/
theorem costs_done (most : Nat) (value : α) : Costs of (pure value) most :=
  Monitor.atMost_done most value

/-! ## Work on files

All of it is of the other kind but the making of an archive, which is counted by the file that is
created for it. -/

theorem costs_blame {path : Path} {request : Procedure Disk.Call Disk.Answer (Except OsError α)}
    {most : Nat}
    (h : Costs of (request.embed Call.disk fun _ answer => answer : Act (Except OsError α)) most) :
    Costs of (onDisk (Workspace.blame path request)).run most :=
  fun sum => ensures_blame.mpr (h sum)

theorem costs_readText (path : Path) :
    Costs of (onDisk (Workspace.readText path)).run (price of .other) :=
  costs_blame (costs_ask _)

theorem costs_write (path : Path) (text : String) :
    Costs of (onDisk (Workspace.write path text)).run (price of .other) :=
  costs_blame (costs_ask _)

theorem costs_makeDirectories (path : Path) :
    Costs of (onDisk (Workspace.makeDirectories path)).run (price of .other) :=
  costs_blame (costs_ask _)

theorem costs_persistBuildLog (workspace : Workspace) (text : String) :
    Costs of (onDisk (workspace.persistBuildLog text)).run (2 * price of .other) := by
  have all : Costs of (onDisk (workspace.persistBuildLog text)).run _ :=
    atMost_onDisk_bind (costs_makeDirectories _) fun _ =>
      atMost_onDisk_bind (costs_write _ _) fun _ => atMost_onDisk_pure _
  exact all.mono (by omega)

/-- The directory of the logs, the log and its copy. -/
theorem costs_persistViolations (workspace : Workspace) (text : String) (now : Instant) :
    Costs of (onDisk (workspace.persistViolations text now)).run (3 * price of .other) := by
  have all : Costs of (onDisk (workspace.persistViolations text now)).run _ :=
    atMost_onDisk_bind (costs_makeDirectories _) fun _ =>
      atMost_onDisk_bind (costs_write _ _) fun _ =>
        atMost_onDisk_bind (costs_write _ _) fun _ => atMost_onDisk_pure _
  exact all.mono (by omega)

/-- The directory, the new file, and what is put into it. -/
theorem costs_createBackup (workspace : Workspace) (iteration : UInt32) (now : Instant) :
    Costs of (onDisk (workspace.createBackup iteration now)).run
      (price of .backup + 2 * price of .other) := by
  have all : Costs of (onDisk (workspace.createBackup iteration now)).run _ :=
    atMost_onDisk_bind (costs_makeDirectories _) fun _ =>
      atMost_onDisk_bind (costs_blame (costs_ask _)) fun _ =>
        atMost_onDisk_bind (costs_blame (costs_ask _)) fun _ => atMost_onDisk_pure _
  refine all.mono ?_
  simp only [Call.kind]
  omega

/-! ## Opening a session

The costs of the loops are products, one factor for the rounds. In each induction the cost of one
more round is first brought into the form in which the calls of the round come up; `ring` does
that. -/

theorem costs_uploadAll (session : Session) (artifacts : List Worker.Artifact) :
    Costs of (Conversation.uploadAll session artifacts) (artifacts.length * price of .other) := by
  induction artifacts generalizing session with
  | nil => exact costs_done _ _
  | cons artifact rest ih =>
    rw [List.length_cons, Nat.succ_mul, Nat.add_comm]
    refine costs_call fun answer => ?_
    cases answer with
    | error failure => exact costs_done _ _
    | ok file => exact ih _

/-- Every poll of an index is a question and a wait. -/
theorem costs_waitForIndex (conversation : Conversation) (index : String) (left : Nat) :
    Costs of (conversation.waitForIndex index left) (left * (2 * price of .other)) := by
  induction left with
  | zero => exact costs_done _ _
  | succ left ih =>
    have round : (left + 1) * (2 * price of .other) =
        price of .other + (price of .other + left * (2 * price of .other)) := by ring
    rw [round]
    refine costs_call fun answer => ?_
    cases answer with
    | error failure => exact costs_done _ _
    | ok snapshot =>
      obtain ⟨status, reason⟩ := snapshot
      cases status with
      | queued | running => exact costs_call fun _ => ih
      | completed | failed | timedOut => exact costs_done _ _

/-- The cost of one setup of a session: an agent, the artifacts, an index, its polls and its
attachment. -/
def setupCost (of : Kind → Bool) (artifacts polls : Nat) : Nat :=
  (5 + artifacts + 2 * polls) * price of .other + price of .attach

/-- An attempt costs a setup, also if it stops early. -/
theorem costs_setUp (conversation : Conversation) (instructions : String)
    (artifacts : List Worker.Artifact) :
    Costs of (conversation.setUp instructions artifacts)
      (setupCost of artifacts.length conversation.maxPolls.toNat) := by
  -- the cost in the order in which the calls are made
  have calls : setupCost of artifacts.length conversation.maxPolls.toNat =
      price of .other + (artifacts.length * price of .other + (price of .other + (price of .other +
        (price of .other + (price of .other + (conversation.maxPolls.toNat * (2 * price of .other) +
          price of .attach)))))) := by
    unfold setupCost
    ring
  rw [calls]
  refine costs_call fun created => ?_
  cases created with
  | error failure => exact costs_done _ _
  | ok session =>
    refine (costs_uploadAll session artifacts).bind ?_
    rintro ⟨session, failure | _⟩
    · exact costs_done _ _
    refine costs_call fun now => costs_call fun suffix => costs_call fun made => ?_
    cases made with
    | error failure => exact costs_done _ _
    | ok index =>
      refine costs_call fun _ => (costs_waitForIndex conversation index _).bind fun waited => ?_
      cases waited with
      | error failure => exact costs_done _ _
      | ok _ =>
        exact (costs_ask (.worker (.attachIndex _ index))).bind fun _ => costs_done 0 _

theorem costs_closeSession (session : Session) :
    Costs of (Conversation.closeSession session) (price of .other) := by
  unfold Conversation.closeSession
  split
  · exact costs_done _ _
  · exact atMost_discard (costs_ask _)

/-- The cost of opening a session: each attempt is a setup, and a failed one gives back. -/
def openingCost (of : Kind → Bool) (setups artifacts polls : Nat) : Nat :=
  setups * (setupCost of artifacts polls + price of .other)

theorem costs_openWithin (conversation : Conversation) (instructions : String)
    (artifacts : List Worker.Artifact) (left : Nat) :
    Costs of (conversation.openWithin instructions artifacts left)
      (openingCost of (left + 1) artifacts.length conversation.maxPolls.toNat) := by
  -- the induction is on the attempts that are left
  induction left with
  | zero =>
    unfold openingCost
    rw [Nat.zero_add, Nat.one_mul]
    refine (costs_setUp conversation instructions artifacts).bind ?_
    rintro ⟨session, failure | _⟩
    · exact (costs_closeSession session).bind fun _ => costs_done 0 _
    · exact costs_done _ _
  | succ left ih =>
    have round : openingCost of (left + 1 + 1) artifacts.length conversation.maxPolls.toNat =
        setupCost of artifacts.length conversation.maxPolls.toNat + (price of .other +
          openingCost of (left + 1) artifacts.length conversation.maxPolls.toNat) := by
      unfold openingCost
      ring
    rw [round]
    refine (costs_setUp conversation instructions artifacts).bind ?_
    rintro ⟨session, failure | _⟩
    · exact (costs_closeSession session).bind fun _ => ih
    · exact costs_done _ _

/-! ## The work of an iteration

An exchange is the unit here: the request for a fix and each request for a repair cost one. -/

/-- Every poll of a job is a wait and a question. -/
theorem costs_waitForJob (conversation : Conversation) (session : Session) (job : Job)
    (left : Nat) :
    Costs of (conversation.waitForJob session job left)
      (left * (price of .other + price of .poll)) := by
  induction left generalizing job with
  | zero => exact costs_done _ _
  | succ left ih =>
    have round : (left + 1) * (price of .other + price of .poll) =
        price of .other + (price of .poll + left * (price of .other + price of .poll)) := by ring
    rw [round]
    refine (costs_ask (.pause conversation.pollIntervalMs)).bind fun _ => ?_
    refine (costs_ask (.worker (.pollJob session job.id))).bind fun answer => ?_
    cases answer with
    | error failure => exact costs_done _ _
    | ok snapshot =>
      dsimp only
      cases job.observe snapshot with
      | error failure => exact costs_done _ _
      | ok seen =>
        dsimp only
        cases seen.status with
        | queued | running | timedOut => exact ih seen
        | completed | failed => exact costs_done _ _

/-- The cost of a request, of its answer and of the file that the answer is applied to. -/
def exchangeCost (of : Kind → Bool) (polls : Nat) : Nat :=
  price of .message + price of .job + polls * (price of .other + price of .poll) +
    2 * price of .other

theorem costs_exchange (run : Run) (session : Session) (phase : Phase) (request : Request) :
    Costs of (run.exchange session phase request).run
      (exchangeCost of run.conversation.maxPolls.toNat) := by
  -- the message, the job, its polls and the transcript
  have asks : Costs of (run.conversation.dispatch session request)
      (price of .message + (price of .job + (run.conversation.maxPolls.toNat *
        (price of .other + price of .poll) + price of .other))) := by
    refine costs_call fun posted => ?_
    cases posted with
    | error failure => exact costs_done _ _
    | ok message =>
      refine costs_call fun started => ?_
      cases started with
      | error failure => exact costs_done _ _
      | ok job =>
        refine (costs_waitForJob _ session _ _).bind fun finished => ?_
        cases finished with
        | error failure => exact costs_done _ _
        | ok job =>
          rw [← Nat.add_zero (price of .other)]
          refine Monitor.AtMost.bind (costs_ask (.worker (.readTranscript session))) fun read => ?_
          cases read <;> exact costs_done 0 _
  have applies (answer : String) : Costs of (run.apply phase answer).run (price of .other) := by
    unfold Run.apply
    cases Contract.ofReply answer with
    | error refusal => exact costs_done _ _
    | ok contract => exact costs_write _ _
  refine (atMost_run_bind (atMost_run_orFail asks) applies).mono ?_
  unfold exchangeCost
  omega

theorem costs_compile : Costs of compile.run (price of .compile) :=
  atMost_run_orFail (costs_ask _)

/-- The cost of compiling a fix and having it repaired at most so many times. -/
def recoveryCost (of : Kind → Bool) (polls repairs : Nat) : Nat :=
  repairs * (price of .compile + exchangeCost of polls) + price of .compile

/-- Repairs cost a compilation and an exchange each, and one compilation at the end. -/
theorem costs_recover (run : Run) (session : Session) (iteration : UInt32) (left : Nat) :
    Costs of (run.recover session iteration left).run
      (recoveryCost of run.conversation.maxPolls.toNat left) := by
  -- the induction is on the repairs that are left
  induction left with
  | zero =>
    have last : recoveryCost of run.conversation.maxPolls.toNat 0 = price of .compile + 0 := by
      unfold recoveryCost
      ring
    rw [last]
    refine atMost_run_bind costs_compile fun diagnostics => ?_
    split <;> exact costs_done 0 _
  | succ left ih =>
    have round : recoveryCost of run.conversation.maxPolls.toNat (left + 1) =
        price of .compile + (exchangeCost of run.conversation.maxPolls.toNat +
          recoveryCost of run.conversation.maxPolls.toNat left) := by
      unfold recoveryCost
      ring
    rw [round]
    refine atMost_run_bind costs_compile fun diagnostics => ?_
    split
    · exact costs_done _ _
    · exact atMost_run_bind (costs_exchange run session _ _) fun _ => ih

/-- The cost of what is done within a session: two files are read, the context is posted, a fix is
asked for, and it is repaired. -/
def remediationCost (of : Kind → Bool) (polls repairs : Nat) : Nat :=
  2 * price of .other + price of .message + exchangeCost of polls + recoveryCost of polls repairs

theorem costs_remediate (run : Run) (session : Session) (iteration : UInt32)
    (violations : List Violation) :
    Costs of (run.remediate session iteration violations).run
      (remediationCost of run.conversation.maxPolls.toNat run.maxRecoveryAttempts.toNat) := by
  have context : Costs of (run.contextRequest violations).run _ :=
    atMost_run_bind (costs_readText _) fun _ =>
      atMost_run_bind (costs_readText _) fun _ => costs_done 0 _
  have posts (request : Request) : Costs of (Conversation.post session request)
      (price of .message) := costs_ask (.worker (.sendMessage session request.body))
  have all : Costs of (run.remediate session iteration violations).run _ :=
    atMost_run_bind context fun request =>
      atMost_run_bind (atMost_run_discard (atMost_run_orFail (posts request))) fun _ =>
        atMost_run_bind (costs_exchange run session _ _) fun _ => costs_recover run session _ _
  refine all.mono ?_
  unfold remediationCost
  omega

/-! ## Inspections, iterations and passes

Within this section the counted events are arbitrary: the costs of the parts are hypotheses, and
the rules put them together. They serve the kinds of calls, and again further below the sessions
that are handed out, which no kind of calls describes. -/

/-- The cost of a pass without an iteration, but for the question at its beginning. -/
def inspectionCost (of : Kind → Bool) : Nat :=
  price of .compile + price of .build + 7 * price of .other

theorem costs_inspect (run : Run) : Costs of run.inspect.run (inspectionCost of) := by
  have prepares : Costs of (ask .prepareArtifacts) (price of .other) := costs_ask _
  have builds : Costs of (ask .build) (price of .build) := costs_ask _
  have reads : Costs of (ask .clock) (price of .other) := costs_ask _
  -- sources that do not compile are not built, which costs less
  have all : Costs of run.inspect.run (price of .compile + (price of .other + (price of .build +
      (2 * price of .other + (price of .other + (3 * price of .other + 0)))))) := by
    refine atMost_run_bind costs_compile fun diagnostics => ?_
    split
    · exact costs_done _ _
    refine atMost_run_bind (atMost_run_orFail prepares) fun _ => ?_
    refine atMost_run_bind (atMost_run_orFail builds) fun output => ?_
    refine atMost_run_bind (atMost_run_discard (costs_persistBuildLog _ _)) fun _ => ?_
    refine atMost_run_bind (atMost_run_always reads) fun now => ?_
    exact atMost_run_bind (atMost_run_discard (costs_persistViolations _ _ _)) fun _ =>
      costs_done 0 _
  refine all.mono ?_
  unfold inspectionCost
  omega

section Loops

variable {counted : Event Call Answer → Bool} {run : Run}
  {clock backup opening working closing switch inspection iteration : Nat}

/-- A counter calls nothing, whether it panics or not. -/
theorem atMost_count (progress : Progress) : AtMost counted 0 (count progress).run :=
  atMost_run_orFail (Monitor.atMost_done _ _)

/-- An opening costs what its setups cost: counting them costs nothing. -/
theorem atMost_openSession {conversation : Conversation} {instructions : String}
    {artifacts : List Worker.Artifact}
    (opens : AtMost counted opening
      (conversation.openWithin instructions artifacts conversation.sessionRetries.toNat)) :
    AtMost counted opening (conversation.openSession instructions artifacts) := by
  rcases conversation.openSession_cases instructions artifacts with ⟨-, same⟩ | ⟨-, same⟩
  · rw [same, ← Nat.add_zero opening]
    exact opens.bind fun _ => Monitor.atMost_done _ _
  · rw [same]
    exact Monitor.atMost_done _ _

theorem atMost_iterate (number : UInt32) (violations : List Violation)
    (reads : AtMost counted clock (ask .clock))
    (archives : ∀ now, AtMost counted backup (onDisk (run.workspace.createBackup number now)).run)
    (opens : AtMost counted opening (run.conversation.openWithin run.instructions
      run.workspace.artifacts run.conversation.sessionRetries.toNat))
    (works : ∀ session,
      AtMost counted working (run.remediate session number violations).run)
    (closes : ∀ session, AtMost counted closing (Conversation.closeSession session)) :
    AtMost counted (clock + (backup + (opening + (working + closing))))
      (run.iterate number violations).run := by
  refine atMost_run_bind (atMost_run_always reads) fun now => ?_
  refine atMost_run_bind (atMost_run_discard (archives now)) fun _ => ?_
  -- a panic while counting the setups ends the iteration here, for nothing
  rw [← Nat.zero_add (working + closing)]
  refine atMost_run_bind (atMost_run_orFail (atMost_openSession opens)) fun opened => ?_
  refine atMost_run_bind (atMost_run_orFail (Monitor.atMost_done _ _)) fun session => ?_
  refine atMost_run_bind (atMost_run_always (works session)) fun result => ?_
  rw [← Nat.add_zero closing]
  refine atMost_run_bind (atMost_run_always (closes session)) fun _ => ?_
  cases result <;> exact Monitor.atMost_done _ _

/-- Every pass asks the switch and inspects the sources, and all but the last make an iteration. -/
theorem atMost_passes (progress : Progress) (left : Nat)
    (asks : AtMost counted switch (ask .cancelled))
    (inspects : AtMost counted inspection run.inspect.run)
    (iterates : ∀ number violations,
      AtMost counted iteration (run.iterate number violations).run) :
    AtMost counted ((left + 1) * (switch + inspection) + left * iteration)
      (run.passes progress left).run := by
  -- the induction is on the iterations that are left
  induction left generalizing progress with
  | zero =>
    -- the last pass has no iteration
    have one : (0 + 1) * (switch + inspection) + 0 * iteration =
        switch + (0 + (inspection + 0)) := by
      ring
    rw [one]
    refine atMost_run_bind (atMost_run_always asks) fun stop => ?_
    split
    · exact Monitor.atMost_done _ _
    refine atMost_run_bind (atMost_run_discard (atMost_count progress)) fun _ => ?_
    refine atMost_run_bind inspects fun found => ?_
    rcases found with diagnostics | _ | ⟨violation, more⟩ <;> exact Monitor.atMost_done _ _
  | succ left ih =>
    have round : (left + 1 + 1) * (switch + inspection) + (left + 1) * iteration =
        switch + (0 + (inspection + (iteration +
          ((left + 1) * (switch + inspection) + left * iteration)))) := by
      ring
    rw [round]
    refine atMost_run_bind (atMost_run_always asks) fun stop => ?_
    split
    · exact Monitor.atMost_done _ _
    refine atMost_run_bind (atMost_count progress) fun number => ?_
    refine atMost_run_bind inspects fun found => ?_
    rcases found with diagnostics | _ | ⟨violation, more⟩
    · exact Monitor.atMost_done _ _
    · exact Monitor.atMost_done _ _
    refine atMost_run_bind (iterates _ _) fun outcome => ?_
    cases outcome with
    | some outcome => exact Monitor.atMost_done _ _
    | none => exact ih progress.advance

theorem atMost_start {checks passes : Nat}
    (sources : AtMost counted checks (onDisk run.workspace.ensureSources).run)
    (connects : AtMost counted switch (askWorker .checkConnection))
    (purges : AtMost counted closing Conversation.purgeStale)
    (further : AtMost counted passes
      (run.passes (.start run.maxIterations) run.maxIterations.toNat).run) :
    AtMost counted (checks + (switch + (closing + passes))) run.start.run := by
  refine atMost_run_bind sources fun _ => ?_
  refine atMost_run_bind (atMost_run_orFail connects) fun _ => ?_
  -- without a purge the run is cheaper
  split
  · exact atMost_run_bind (atMost_run_always purges) fun _ => further
  · exact further.mono (Nat.le_add_left _ _)

end Loops

/-! ## Whole runs

The parts are put together once more, now with their prices. -/

/-- The cost of an iteration, with as many setups, artifacts, polls and repairs as the run allows. -/
def iterationCost (of : Kind → Bool) (run : Run) : Nat :=
  let polls := run.conversation.maxPolls.toNat
  let setups := run.conversation.sessionRetries.toNat + 1
  price of .backup + 4 * price of .other + openingCost of setups run.workspace.artifacts.length polls +
    remediationCost of polls run.maxRecoveryAttempts.toNat

/-- An iteration costs its archive, its session and its work. -/
theorem costs_iterate (run : Run) (number : UInt32) (violations : List Violation) :
    Costs of (run.iterate number violations).run (iterationCost of run) := by
  have reads : Costs of (ask .clock) (price of .other) := costs_ask _
  have opens : Costs of (run.conversation.openWithin run.instructions run.workspace.artifacts
      run.conversation.sessionRetries.toNat) _ :=
    costs_openWithin run.conversation _ _ _
  refine (atMost_iterate number violations reads (fun now => costs_createBackup _ number now) opens
    (fun session => costs_remediate run session number violations) costs_closeSession).mono ?_
  simp only [iterationCost]
  omega

/-- The most calls of the chosen kinds in a run. -/
def runCost (of : Kind → Bool) (run : Run) : Nat :=
  4 * price of .other + ((run.maxIterations.toNat + 1) * (price of .pass + inspectionCost of) +
    run.maxIterations.toNat * iterationCost of run)

theorem costs_ensureSources (workspace : Workspace) :
    Costs of (onDisk workspace.ensureSources).run (2 * price of .other) := by
  have looks (path : Path) : Costs of (onDisk (Workspace.present path)).run (price of .other) :=
    (costs_ask (.disk (.present path))).bind fun _ => costs_done 0 _
  have all : Costs of (onDisk workspace.ensureSources).run
      (price of .other + (price of .other + 0)) := by
    refine atMost_onDisk_bind (looks workspace.sourceDir) fun there => ?_
    cases there with
    | false => exact costs_done _ _
    | true =>
      refine atMost_onDisk_bind (looks workspace.targetFile) fun there => ?_
      cases there <;> exact costs_done _ _
  exact all.mono (by omega)

/-- A run makes at most so many calls of the chosen kinds, whatever is answered. -/
theorem costs_start (run : Run) : Costs of run.start.run (runCost of run) := by
  have asks : Costs of (ask .cancelled) (price of .pass) := costs_ask _
  have connects : Costs of (askWorker .checkConnection) (price of .other) := costs_ask _
  have purges : Costs of Conversation.purgeStale (price of .other) :=
    atMost_discard (costs_ask (.worker .purgeAll))
  have further := atMost_passes (.start run.maxIterations) run.maxIterations.toNat asks
    (costs_inspect run) (costs_iterate run)
  refine (atMost_start (costs_ensureSources _) connects purges further).mono ?_
  unfold runCost
  omega

/-! ## Sessions that are handed out

A session counts as handed out when its index was attached, and not when it was asked for: an
opening may ask for many and hands out one at the most. So it is counted by an answer, and the
costs above do not bound it closely enough; for all parts but the opening they do, as those attach
nothing. -/

/-- A session is handed out: its index was attached, which is the last step of opening it. -/
def handsOut : Event Call Answer → Bool
  | ⟨.worker (.attachIndex ..), .ok ()⟩ => true
  | _ => false

/-- The number of sessions handed out so far, with the one in this result. -/
def handouts {ε : Type} (before : Nat) (outcome : Except ε α) : Nat :=
  match outcome with
  | .ok _ => before + 1
  | .error _ => before

/-- A setup hands out a session exactly when it succeeds. -/
theorem setUp_handouts (conversation : Conversation) (instructions : String)
    (artifacts : List Worker.Artifact) (before : Nat) :
    (Monitor.counter handsOut).Ensures (conversation.setUp instructions artifacts) before
      fun result after => after = handouts before result.2 := by
  refine Monitor.ensures_ask_bind.mpr ⟨trivial, fun created => ?_⟩
  cases created with
  | error failure => rfl
  | ok session =>
    have uploads : ∀ call answer, Uploads call → handsOut ⟨call, answer⟩ = false := by
      rintro _ answer ⟨artifact, rfl⟩
      rfl
    refine Monitor.ensures_bind.mpr
      (Monitor.ensures_uncounted (only_uploadAll session artifacts) uploads ?_)
    rintro ⟨session, failure | _⟩
    · rfl
    refine Monitor.ensures_ask_bind.mpr ⟨trivial, fun now => ?_⟩
    refine Monitor.ensures_ask_bind.mpr ⟨trivial, fun suffix => ?_⟩
    refine Monitor.ensures_ask_bind.mpr ⟨trivial, fun made => ?_⟩
    cases made with
    | error failure => rfl
    | ok index =>
      refine Monitor.ensures_ask_bind.mpr ⟨trivial, fun _ => ?_⟩
      have awaits : ∀ call answer, AwaitsIndex index call → handsOut ⟨call, answer⟩ = false := by
        rintro _ answer (⟨ms, rfl⟩ | rfl) <;> rfl
      refine Monitor.ensures_bind.mpr
        (Monitor.ensures_uncounted (only_waitForIndex conversation index _) awaits fun waited => ?_)
      cases waited with
      | error failure => rfl
      | ok _ =>
        refine ⟨trivial, fun attached => ?_⟩
        cases attached <;> rfl

theorem closeSession_handouts (session : Session) (before : Nat) :
    (Monitor.counter handsOut).Ensures (Conversation.closeSession session) before
      fun _ after => after = before := by
  unfold Conversation.closeSession
  split
  · rfl
  · exact ensures_discard.mpr ⟨trivial, fun _ => rfl⟩

/-- Opening a session hands out one when it succeeds, however many setups failed before. -/
theorem openWithin_handouts (conversation : Conversation) (instructions : String)
    (artifacts : List Worker.Artifact) (left before : Nat) :
    (Monitor.counter handsOut).Ensures (conversation.openWithin instructions artifacts left) before
      fun result after => after = handouts before result := by
  -- the induction is on the attempts that are left
  induction left with
  | zero =>
    refine Monitor.ensures_bind.mpr ((setUp_handouts conversation _ _ before).mono ?_)
    rintro ⟨session, failure | _⟩ after handed
    · subst handed
      exact Monitor.ensures_bind.mpr (closeSession_handouts session _)
    · exact handed
  | succ left ih =>
    refine Monitor.ensures_bind.mpr ((setUp_handouts conversation _ _ before).mono ?_)
    rintro ⟨session, failure | _⟩ after handed
    · subst handed
      refine Monitor.ensures_bind.mpr ((closeSession_handouts session _).mono fun _ after same => ?_)
      rw [same]
      exact ih
    · exact handed

/-- Each iteration hands out one session at the most: outside of opening one, no index is attached. -/
theorem handouts_start (run : Run) : AtMost handsOut run.maxIterations.toNat run.start.run := by
  -- a session is handed out by an attachment, so where nothing is attached there is none
  have attached : ∀ event, handsOut event = true → Chosen (Kind.is .attach) event = true := by
    intro event handed
    unfold handsOut at handed
    split at handed
    · rfl
    · cases handed
  have opens : AtMost handsOut 1 (run.conversation.openWithin run.instructions
      run.workspace.artifacts run.conversation.sessionRetries.toNat) := by
    refine fun before => (openWithin_handouts run.conversation _ _ _ before).mono ?_
    rintro (failure | session) after handed
    · exact Nat.le_trans handed.le (Nat.le_succ before)
    · exact handed.le
  have iterates (number : UInt32) (violations : List Violation) :
      AtMost handsOut 1 (run.iterate number violations).run :=
    atMost_iterate number violations ((costs_ask .clock).narrow attached)
      (fun now => (costs_createBackup _ number now).narrow attached) opens
      (fun session => (costs_remediate run session number violations).narrow attached)
      fun session => (costs_closeSession session).narrow attached
  have further := atMost_passes (.start run.maxIterations) run.maxIterations.toNat
    ((costs_ask .cancelled).narrow attached) ((costs_inspect run).narrow attached) iterates
  have all := atMost_start ((costs_ensureSources run.workspace).narrow attached)
    ((costs_ask (.worker .checkConnection)).narrow attached)
    ((atMost_discard (costs_ask (.worker .purgeAll))).narrow attached) further
  refine all.mono (Nat.le_of_eq ?_)
  simp [price, Kind.is, Call.kind, inspectionCost]

end Run

end AzcRepair
