import AzcRepair.Proofs.Run.Outcomes

/-!
# Where the failure of a run comes from

A history tells by itself what went fatally wrong in it: a request was refused, a job or an index
failed or was waited for too long, an answer was missing, or it held no contract. Not every refusal
is fatal: a setup that can be tried again is not, and giving back never is.

* `fault?` — the failure that an event brings about, after what came before it.
* `trail` — what decides that, kept along the history: the session, its setups, polls and messages.
* `start_watched` — a walk through the run: its failure is the one fault, and once there is a fault
  nothing is called but to give back the session.
* `failure_provenance` — what holds of every run.
-/

namespace AzcRepair

open Monitor (Only)
open Procedure (Event History Yields)

namespace Run

open Worker (Session Job Message Snapshot)

/-! ## Faults of single events

Whether an answer is fatal depends on what came before it. The trail keeps what that takes: how
many setups were begun, which index or job is waited for and how many polls are left, and how many
messages were sent, by which the phase is known. It is read off the calls and their answers and
uses none of the procedures. -/

/-- The refusal of the file system, with the path that it is about. -/
def diskFault? : (call : Disk.Call) → Disk.Answer call → Option Workspace.Failure
  | .present path, false => some ⟨path, .other "not found"⟩
  | .readText path, .error error => some ⟨path, error⟩
  | .write path _, .error error => some ⟨path, error⟩
  | .makeDirectories path, .error error => some ⟨path, error⟩
  | .createNew path, .error error => some ⟨path, error⟩
  | .archive path _, .error error => some ⟨path, error⟩
  | _, _ => none

/-- What is known in the course of a run. -/
structure Trail where
  /-- What the iteration holds. -/
  session : Session := .empty
  /-- The setups that the iteration began. -/
  setups : Nat := 0
  /-- The index that is waited for, and the polls that are left for it. -/
  index : Option (String × Nat) := none
  /-- The messages that were sent on the session. -/
  messages : Nat := 0
  /-- The last message. -/
  message : String := ""
  /-- The job that is waited for, and the polls that are left for it. -/
  job : Option (Job × Nat) := none
  deriving DecidableEq

namespace Trail

/-- What a session is dealt with for: its first two messages are the context and the request for a
fix, and all later ones ask for a repair. -/
def phase (messages : Nat) : Phase :=
  if messages ≤ 2 then .remediation else .compileRecovery

/-- The failure of a setup is fatal in the last one of the iteration. -/
def setupFault? (run : Run) (setups : Nat) (failure : Worker.Failure) : Option Failure :=
  if setups = run.conversation.sessionRetries.toNat + 1 then some (.worker .sessionSetup failure)
  else none

/-- What is wrong with an observation of an index. -/
def indexFault? (run : Run) (trail : Trail) (index : String) (snapshot : Snapshot) :
    Option Failure :=
  match snapshot.status with
  | .completed | .queued | .running => none
  | .failed | .timedOut => setupFault? run trail.setups (Conversation.indexFailure index snapshot)

/-- What is wrong with an observation of the job, when so many polls were left before it. -/
def jobFault? (run : Run) (job : Job) (left : Nat) (snapshot : Snapshot) : Option Worker.Failure :=
  match job.observe snapshot with
  | .error failure => some failure
  | .ok seen =>
    match seen.status with
    | .completed => none
    | .failed => some (Conversation.jobFailure seen)
    | .queued | .running | .timedOut =>
      if left ≤ 1 then some (.timedOut seen.giveUp.id run.conversation.maxPolls) else none

/-- What is wrong with the answer to the last message. -/
def answerFault? (trail : Trail) (session : Session) (transcript : List Message) : Option Failure :=
  match Conversation.answerTo session trail.message transcript with
  | .error failure => some (.worker (phase trail.messages) failure)
  | .ok answer =>
    match Contract.ofReply answer with
    | .error refusal => some (.contract (phase trail.messages) refusal)
    | .ok _ => none

/-- The failure that an answer of the worker brings about. -/
def workerFault? (run : Run) (trail : Trail) : (call : Worker.Call) → call.Answer → Option Failure
  | .checkConnection, .error failure => some (.worker .sessionSetup failure)
  -- the request for a session begins the next setup
  | .createSession _, .error failure => setupFault? run (trail.setups + 1) failure
  | .uploadArtifact _, .error failure => setupFault? run trail.setups failure
  | .createIndex .., .error failure => setupFault? run trail.setups failure
  | .indexStatus _, .error failure => setupFault? run trail.setups failure
  | .indexStatus index, .ok snapshot => trail.indexFault? run index snapshot
  | .attachIndex .., .error failure => setupFault? run trail.setups failure
  | .sendMessage .., .error failure => some (.worker (phase (trail.messages + 1)) failure)
  | .startJob _, .error failure => some (.worker (phase trail.messages) failure)
  | .startJob session, .ok job =>
    -- a job that may not be polled at all is given up at once
    if run.conversation.maxPolls = 0 then
      some (.worker (phase trail.messages)
        (.timedOut (Job.start job session.id).giveUp.id run.conversation.maxPolls))
    else none
  | .pollJob .., .error failure => some (.worker (phase trail.messages) failure)
  | .pollJob .., .ok snapshot =>
    trail.job.bind fun (job, left) =>
      (jobFault? run job left snapshot).map (.worker (phase trail.messages))
  | .readTranscript _, .error failure => some (.worker (phase trail.messages) failure)
  | .readTranscript session, .ok transcript => trail.answerFault? session transcript
  | _, _ => none

/-- The failure that an event brings about. -/
def fault? (run : Run) (trail : Trail) : (call : Call) → Answer call → Option Failure
  | .compile, .error failure => some (.toolchain failure)
  | .prepareArtifacts, .error failure => some (.toolchain failure)
  | .build, .error failure => some (.toolchain failure)
  | .disk call, answer => (diskFault? call answer).map .workspace
  | .worker call, answer => trail.workerFault? run call answer
  | .pause _, _ =>
    -- an index is given up when it is to be waited for and no poll is left
    match trail.index with
    | some (index, 0) => setupFault? run trail.setups (.timedOut index run.conversation.maxPolls)
    | _ => none
  | _, _ => none

/-- What an observation leaves of the polls, and what is known about the job after it. -/
def observed (job : Job) (left : Nat) (snapshot : Snapshot) : Job × Nat :=
  (((job.observe snapshot).toOption).getD job, left - 1)

/-- What an answer of the worker adds to the trail. -/
def noteWorker (run : Run) (trail : Trail) : (call : Worker.Call) → call.Answer → Trail
  -- a new session begins with a clean trail
  | .createSession _, .ok session => { session := session, setups := trail.setups + 1 }
  | .createSession _, .error _ => { setups := trail.setups + 1 }
  | .uploadArtifact _, .ok file =>
    { trail with session := { trail.session with files := trail.session.files ++ [file] } }
  | .createIndex .., .ok index =>
    { trail with
      session := { trail.session with index := some index }
      index := some (index, run.conversation.maxPolls.toNat) }
  | .indexStatus _, .ok _ =>
    { trail with index := trail.index.map fun (index, left) => (index, left - 1) }
  | .attachIndex .., .ok () => { trail with index := none }
  | .sendMessage .., .ok message => { trail with messages := trail.messages + 1, message := message }
  | .startJob session, .ok job =>
    { trail with job := some (.start job session.id, run.conversation.maxPolls.toNat) }
  | .pollJob .., .ok snapshot =>
    { trail with job := trail.job.map fun (job, left) => observed job left snapshot }
  | .teardownSession _, _ => { trail with session := .empty }
  | _, _ => trail

/-- What an event adds to the trail. A new pass begins its setups anew. -/
def note (run : Run) (trail : Trail) : (call : Call) → Answer call → Trail
  | .cancelled, _ => { trail with setups := 0 }
  | .worker call, answer => trail.noteWorker run call answer
  | _, _ => trail

end Trail

/-! ## Faults of histories

The trail and the faults so far make up the state of a monitor. It permits everything as long as
there is no fault, and afterwards only what gives the session back. So two things are to be shown
at every call of a run: that no fault came before it, and that a fault brought about by its answer
is the failure that is returned. -/

/-- The trail of a history, and the faults in it. -/
structure Watch where
  trail : Trail := {}
  faults : List Failure := []

/-- Takes note of an event, and of the failure that it brings about. -/
def Watch.note (run : Run) (watch : Watch) (call : Call) (answer : Answer call) : Watch :=
  ⟨watch.trail.note run call answer, watch.faults ++ (watch.trail.fault? run call answer).toList⟩

/-- After a fault nothing is permitted but to give back the session, if one is held. -/
def Watch.Permits (watch : Watch) (call : Call) : Prop :=
  watch.faults ≠ [] → watch.trail.session ≠ .empty ∧
    call = .worker (.teardownSession watch.trail.session)

/-- The monitor that keeps the faults of a history. -/
def watching (run : Run) : Monitor Call Answer Watch where
  note := Watch.note run
  permits := Watch.Permits

/-- The trail after a history. -/
def trail (run : Run) (history : History Call Answer) : Trail :=
  ((watching run).after {} history).trail

/-- The faults of a history, in their order. -/
def faults (run : Run) (history : History Call Answer) : List Failure :=
  ((watching run).after {} history).faults

variable {run : Run} {t : Trail} {α β : Type}

theorem permits_clear {call : Call} : Watch.Permits ⟨t, []⟩ call :=
  fun faulted => absurd rfl faulted

/-! ## Parts that leave the trail alone

Files and the toolchain are not in the trail. A part that calls nothing else ends with the trail
unchanged, and with no fault or with the one it fails with. -/

/-- The part left the trail as it was, and its failure is the one fault. -/
def Blamed (t : Trail) (result : Except Failure α) (s : Watch) : Prop :=
  s = ⟨t, (failure? result).toList⟩

/-- Two actions on files, of which the second is reached only without a fault. -/
theorem blamed_onDisk_bind {action : Workspace.Action α} {next : α → Workspace.Action β}
    (first : (watching run).Ensures (onDisk action).run ⟨t, []⟩ (Blamed t))
    (rest : ∀ value, (watching run).Ensures (onDisk (next value)).run ⟨t, []⟩ (Blamed t)) :
    (watching run).Ensures (onDisk (action >>= next)).run ⟨t, []⟩ (Blamed t) := by
  refine ensures_onDisk_bind.mpr (first.mono ?_)
  rintro (failure | value) s rfl
  · rfl
  · exact rest value

/-- A path that is missing is a fault, as the check returns it. -/
theorem blamed_ensureSources (workspace : Workspace) :
    (watching run).Ensures (onDisk workspace.ensureSources).run ⟨t, []⟩ (Blamed t) := by
  refine ensures_onDisk_bind.mpr ((ensures_present _).mpr ⟨permits_clear, fun there => ?_⟩)
  cases there with
  | false => rfl
  | true =>
    refine ensures_onDisk_bind.mpr ((ensures_present _).mpr ⟨permits_clear, fun there => ?_⟩)
    cases there <;> rfl

theorem blamed_readText (path : Path) :
    (watching run).Ensures (onDisk (Workspace.readText path)).run ⟨t, []⟩ (Blamed t) := by
  refine ensures_blame.mpr ⟨permits_clear, fun answer => ?_⟩
  cases answer <;> rfl

theorem blamed_write (path : Path) (text : String) :
    (watching run).Ensures (onDisk (Workspace.write path text)).run ⟨t, []⟩ (Blamed t) := by
  refine ensures_blame.mpr ⟨permits_clear, fun answer => ?_⟩
  cases answer <;> rfl

theorem blamed_makeDirectories (path : Path) :
    (watching run).Ensures (onDisk (Workspace.makeDirectories path)).run ⟨t, []⟩ (Blamed t) := by
  refine ensures_blame.mpr ⟨permits_clear, fun answer => ?_⟩
  cases answer <;> rfl

theorem blamed_persistBuildLog (workspace : Workspace) (text : String) :
    (watching run).Ensures (onDisk (workspace.persistBuildLog text)).run ⟨t, []⟩ (Blamed t) :=
  blamed_onDisk_bind (blamed_makeDirectories _) fun _ =>
    blamed_onDisk_bind (blamed_write _ _) fun _ => rfl

theorem blamed_persistViolations (workspace : Workspace) (text : String) (now : Instant) :
    (watching run).Ensures (onDisk (workspace.persistViolations text now)).run ⟨t, []⟩
      (Blamed t) :=
  blamed_onDisk_bind (blamed_makeDirectories _) fun _ =>
    blamed_onDisk_bind (blamed_write _ _) fun _ =>
      blamed_onDisk_bind (blamed_write _ _) fun _ => rfl

theorem blamed_createBackup (workspace : Workspace) (iteration : UInt32) (now : Instant) :
    (watching run).Ensures (onDisk (workspace.createBackup iteration now)).run ⟨t, []⟩
      (Blamed t) := by
  have archives {path : Path} : (watching run).Ensures (onDisk (Workspace.blame path
      (Disk.ask (.archive path workspace.sourceDir)))).run ⟨t, []⟩ (Blamed t) := by
    refine ensures_blame.mpr ⟨permits_clear, fun answer => ?_⟩
    cases answer <;> rfl
  have creates {path : Path} : (watching run).Ensures (onDisk (Workspace.blame path
      (Disk.ask (.createNew path)))).run ⟨t, []⟩ (Blamed t) := by
    refine ensures_blame.mpr ⟨permits_clear, fun answer => ?_⟩
    cases answer <;> rfl
  exact blamed_onDisk_bind (blamed_makeDirectories _) fun _ =>
    blamed_onDisk_bind creates fun _ => blamed_onDisk_bind archives fun _ => rfl

theorem blamed_compile : (watching run).Ensures compile.run ⟨t, []⟩ (Blamed t) := by
  refine ensures_run_orFail.mpr ⟨permits_clear, fun answer => ?_⟩
  cases answer <;> rfl

/-- The fault of an inspection is the failure that it returns. -/
theorem blamed_inspect : (watching run).Ensures run.inspect.run ⟨t, []⟩ (Blamed t) := by
  let Clear (s : Watch) : Prop := s = ⟨t, []⟩
  refine ensures_inspect Clear Clear permits_clear (fun _ => rfl) (fun _ _ => rfl) (fun _ _ => rfl)
    ?_ ?_
  · rintro _ rfl
    exact ⟨permits_clear, fun _ => rfl, rfl⟩
  · rintro _ rfl
    refine ⟨permits_clear, fun _ => rfl, fun output => ?_⟩
    refine (blamed_persistBuildLog run.workspace output.rawLog).mono ?_
    rintro (failure | logged) _ rfl
    · rfl
    refine ⟨permits_clear, fun now => (blamed_persistViolations run.workspace _ now).mono ?_⟩
    rintro (failure | logged) _ rfl <;> rfl

/-! ## Opening a session

Here most refusals are no faults, as another setup may follow. The trail counts the setups that
were begun, and the induction carries that this count and those that are left make up all of them;
so a refusal is a fault in the last setup and nowhere else. -/

/-- A setup failed: what it acquired is held, and the failure is a fault in the last setup. -/
structure SetupFailed (run : Run) (count : Nat) (session : Session) (failure : Worker.Failure)
    (s : Watch) : Prop where
  holds : s.trail.session = session
  setups : s.trail.setups = count
  faults : s.faults = (Trail.setupFault? run count failure).toList

/-- Sending artifacts ends with the session that lists them, or with the failure of the setup. -/
theorem uploadAll_watched (artifacts : List Worker.Artifact) :
    (watching run).Ensures (Conversation.uploadAll t.session artifacts) ⟨t, []⟩ fun result s =>
      match result with
      | (session, .ok ()) => s = ⟨{ t with session := session }, []⟩
      | (session, .error failure) => SetupFailed run t.setups session failure s := by
  induction artifacts generalizing t with
  | nil => rfl
  | cons artifact rest ih =>
    refine Monitor.ensures_ask_bind.mpr ⟨permits_clear, fun answer => ?_⟩
    cases answer with
    | error failure => exact ⟨rfl, rfl, rfl⟩
    | ok file =>
      exact ih (t := { t with
        session := { t.session with files := t.session.files ++ [file] } })

/-- An index is given up when no poll is left for it. -/
def givenUp (run : Run) (setups : Nat) (index : String) (left : Nat) : List Failure :=
  if left = 0 then
    (Trail.setupFault? run setups (.timedOut index run.conversation.maxPolls)).toList
  else []

/-- A wait gives the index up when no poll is left for it. -/
theorem pause_watched {index : String} {left : Nat} (waits : t.index = some (index, left))
    (ms : Nat) : Watch.note run ⟨t, []⟩ (.pause ms) () = ⟨t, givenUp run t.setups index left⟩ := by
  simp only [Watch.note, Trail.note, Trail.fault?, waits, givenUp]
  cases left <;> rfl

/-- Waiting for an index goes well without a fault, or is the failure of the setup. -/
theorem waitForIndex_watched (index : String) (left : Nat) (waits : t.index = some (index, left)) :
    (watching run).Ensures (run.conversation.waitForIndex index left)
      ⟨t, givenUp run t.setups index left⟩ fun result s =>
      match result with
      | .ok () => ∃ waiting, s = ⟨{ t with index := waiting }, []⟩
      | .error failure => SetupFailed run t.setups t.session failure s := by
  -- the induction is on the polls that are left; the wait after the last one gives the index up
  induction left generalizing t with
  | zero => exact ⟨rfl, rfl, rfl⟩
  | succ left ih =>
    refine Monitor.ensures_ask_bind.mpr ⟨permits_clear, fun answer => ?_⟩
    cases answer with
    | error failure => exact ⟨rfl, rfl, rfl⟩
    | ok snapshot =>
      obtain ⟨status, reason⟩ := snapshot
      cases status with
      | completed => exact ⟨_, rfl⟩
      | failed | timedOut => exact ⟨rfl, rfl, rfl⟩
      | queued | running =>
        refine Monitor.ensures_ask_bind.mpr ⟨permits_clear, fun _ => ?_⟩
        -- the trail counts the poll, as the loop does
        have polled : { t with index := t.index.map fun (index, left) => (index, left - 1) } =
            { t with index := some (index, left) } := by
          rw [waits]
          rfl
        have next := ih (t := { t with index := some (index, left) }) rfl
        change (watching run).Ensures _ (Watch.note run ⟨{ t with index := t.index.map _ }, []⟩
          (.pause run.conversation.pollIntervalMs) ()) _
        rw [polled, pause_watched rfl]
        exact next

/-- A session was set up: it is held, and nothing was sent on it yet. -/
structure Working (session : Session) (messages : Nat) (s : Watch) : Prop where
  holds : s.trail.session = session
  index : s.trail.index = none
  messages : s.trail.messages = messages
  faultless : s.faults = []

/-- A setup ends with its session or with its failure. -/
theorem setUp_watched (instructions : String) (artifacts : List Worker.Artifact) :
    (watching run).Ensures (run.conversation.setUp instructions artifacts) ⟨t, []⟩ fun result s =>
      match result with
      | (session, .ok ()) => Working session 0 s
      | (session, .error failure) => SetupFailed run (t.setups + 1) session failure s := by
  refine Monitor.ensures_ask_bind.mpr ⟨permits_clear, fun created => ?_⟩
  cases created with
  | error failure => exact ⟨rfl, rfl, rfl⟩
  | ok session =>
    refine Monitor.ensures_bind.mpr ((uploadAll_watched
      (t := { session := session, setups := t.setups + 1 }) artifacts).mono ?_)
    rintro ⟨session, failure | _⟩ s uploaded
    · exact uploaded
    subst uploaded
    refine Monitor.ensures_ask_bind.mpr ⟨permits_clear, fun now => ?_⟩
    refine Monitor.ensures_ask_bind.mpr ⟨permits_clear, fun suffix => ?_⟩
    refine Monitor.ensures_ask_bind.mpr ⟨permits_clear, fun made => ?_⟩
    cases made with
    | error failure => exact ⟨rfl, rfl, rfl⟩
    | ok index =>
      -- the index is waited for with all its polls, and none may be left from the beginning
      let polls := run.conversation.maxPolls.toNat
      let made : Trail :=
        { session := { session with index := some index }
          setups := t.setups + 1
          index := some (index, polls) }
      refine Monitor.ensures_ask_bind.mpr ⟨permits_clear, fun _ => ?_⟩
      change (watching run).Ensures _ (Watch.note run ⟨made, []⟩
        (.pause run.conversation.indexDelayMs) ()) _
      rw [pause_watched rfl]
      refine Monitor.ensures_bind.mpr ((waitForIndex_watched index polls rfl).mono ?_)
      rintro (failure | _) s waited
      · exact waited
      obtain ⟨waiting, rfl⟩ := waited
      refine ⟨permits_clear, fun attached => ?_⟩
      cases attached with
      | error failure => exact ⟨rfl, rfl, rfl⟩
      | ok _ => exact ⟨rfl, rfl, rfl, rfl⟩

/-- A session is given back whether or not there is a fault. -/
theorem closeSession_watched (session : Session) {s : Watch} (holds : s.trail.session = session) :
    (watching run).Ensures (Conversation.closeSession session) s fun _ after =>
      after = { s with trail := { s.trail with session := .empty } } := by
  unfold Conversation.closeSession
  split
  · next empty =>
    have same : s.trail.session = .empty := holds.trans empty
    show s = _
    rw [← same]
  · next held =>
    refine ensures_discard.mpr ⟨fun _ => ⟨holds ▸ held, by rw [holds]⟩, fun answer => ?_⟩
    show Watch.mk _ _ = _
    simp [Trail.note, Trail.noteWorker, Trail.fault?, Trail.workerFault?]

/-- Opening a session holds it, or fails with the failure of the last setup and holds nothing. -/
def Opened : Except Worker.Failure Session → Watch → Prop
  | .ok session, s => Working session 0 s
  | .error failure, s => s.trail.session = .empty ∧ s.faults = [.worker .sessionSetup failure]

/-- An opening ends with its session, or with the failure of its last setup as the one fault. -/
theorem openWithin_watched (instructions : String) (artifacts : List Worker.Artifact) (left : Nat)
    (last : t.setups + left + 1 = run.conversation.sessionRetries.toNat + 1) :
    (watching run).Ensures (run.conversation.openWithin instructions artifacts left) ⟨t, []⟩
      Opened := by
  -- the induction is on the setups that are left; only the last one has none
  induction left generalizing t with
  | zero =>
    refine Monitor.ensures_bind.mpr ((setUp_watched instructions artifacts).mono ?_)
    rintro ⟨session, failure | _⟩ s ends
    · refine Monitor.ensures_bind.mpr ((closeSession_watched session ends.holds).mono ?_)
      rintro _ _ rfl
      refine ⟨rfl, ends.faults.trans ?_⟩
      simp only [Trail.setupFault?, if_pos last, Option.toList_some]
    · exact ends
  | succ left ih =>
    -- another setup follows, so this failure is not fatal
    have another : t.setups + 1 ≠ run.conversation.sessionRetries.toNat + 1 := by omega
    refine Monitor.ensures_bind.mpr ((setUp_watched instructions artifacts).mono ?_)
    rintro ⟨session, failure | _⟩ s ends
    · refine Monitor.ensures_bind.mpr ((closeSession_watched session ends.holds).mono ?_)
      rintro _ _ rfl
      have faultless : s.faults = [] := by
        rw [ends.faults]
        simp only [Trail.setupFault?, if_neg another, Option.toList_none]
      rw [faultless]
      refine ih ?_
      show s.trail.setups + left + 1 = _
      rw [ends.setups]
      omega
    · exact ends

/-! ## Within a session

From here on every refusal is fatal. What is carried along is `Working`: the session that is held
and the number of messages, which tells the phase that a failure will name. -/

/-- A part that was worked on within a session failed, and that is the one fault. -/
structure Failed (session : Session) (failure : Failure) (s : Watch) : Prop where
  holds : s.trail.session = session
  faults : s.faults = failure.reported?.toList

/-- As long as the work goes on there is no fault. -/
theorem Working.clear {session : Session} {messages : Nat} {s : Watch}
    (working : Working session messages s) :
    s = ⟨s.trail, []⟩ ∧ s.trail.session = session ∧ s.trail.index = none ∧
      s.trail.messages = messages := by
  obtain ⟨holds, index, messages, faultless⟩ := working
  refine ⟨?_, holds, index, messages⟩
  rw [← faultless]

/-- A part that leaves the trail alone goes on with the same session and messages. -/
theorem Working.of_blamed {session : Session} {messages : Nat} {s after : Watch}
    (working : Working session messages s) {result : Except Failure α}
    (blamed : Blamed s.trail result after) :
    Onward (fun _ => Working session messages) (Failed session) result after := by
  obtain ⟨holds, index, messages, faultless⟩ := working
  subst blamed
  cases result with
  | error failure => exact ⟨holds, rfl⟩
  | ok value => exact ⟨holds, index, messages, rfl⟩

/-- Within a session a part that leaves the trail alone goes on, or fails in it. -/
theorem Working.ensures_of_blamed {session : Session} {messages : Nat} {s : Watch}
    (working : Working session messages s) {p : Act (Except Failure α)}
    (blamed : (watching run).Ensures p ⟨s.trail, []⟩ (Blamed s.trail)) :
    (watching run).Ensures p s (Onward (fun _ => Working session messages) (Failed session)) := by
  rw [← working.clear.1] at blamed
  exact blamed.mono fun result after left => working.of_blamed left

/-- A job is given up when no poll is left for it. -/
def jobGivenUp (run : Run) (messages : Nat) (job : Job) (left : Nat) : List Failure :=
  if left = 0 then
    [.worker (Trail.phase messages) (.timedOut job.giveUp.id run.conversation.maxPolls)]
  else []

/-- What a poll adds to the trail, and the fault that it brings about. -/
theorem poll_watched {session : Session} {job : Job} {left : Nat} {snapshot : Snapshot}
    (current : t.job = some (job, left)) :
    Watch.note run ⟨t, []⟩ (.worker (.pollJob session job.id)) (.ok snapshot) =
      ⟨{ t with job := some (Trail.observed job left snapshot) },
        ((Trail.jobFault? run job left snapshot).map (.worker (Trail.phase t.messages))).toList⟩ := by
  simp only [Watch.note, Trail.note, Trail.noteWorker, Trail.fault?, Trail.workerFault?, current,
    Option.map_some, Option.bind_some, List.nil_append]

/-- What the start of a job adds; a job without polls is given up at once. -/
theorem startJob_watched {session : Session} {job : String} :
    Watch.note run ⟨t, []⟩ (.worker (.startJob session)) (.ok job) =
      ⟨{ t with job := some (.start job session.id, run.conversation.maxPolls.toNat) },
        jobGivenUp run t.messages (.start job session.id) run.conversation.maxPolls.toNat⟩ := by
  have none : run.conversation.maxPolls = 0 ↔ run.conversation.maxPolls.toNat = 0 :=
    UInt32.toNat_inj.symm
  simp only [Watch.note, Trail.note, Trail.noteWorker, Trail.fault?, Trail.workerFault?, jobGivenUp,
    none, List.nil_append]
  split <;> rfl

/-- Waiting for a job goes well without a fault, or fails in the phase of its message. -/
theorem waitForJob_watched (session : Session) (job : Job) (left : Nat)
    (current : t.job = some (job, left)) (index : t.index = none) :
    (watching run).Ensures (run.conversation.waitForJob session job left)
      ⟨t, jobGivenUp run t.messages job left⟩ fun result s =>
      match result with
      | .ok _ => ∃ last, s = ⟨{ t with job := last }, []⟩
      | .error failure => Failed t.session (.worker (Trail.phase t.messages) failure) s := by
  -- the induction is on the polls that are left; the last one gives the job up
  induction left generalizing t job with
  | zero => exact ⟨rfl, rfl⟩
  | succ left ih =>
    refine Monitor.ensures_ask_bind.mpr ⟨permits_clear, fun _ => ?_⟩
    -- there is no index to give up, so the wait brings nothing about
    have waited : Watch.note run ⟨t, []⟩ (.pause run.conversation.pollIntervalMs) () = ⟨t, []⟩ := by
      simp only [Watch.note, Trail.note, Trail.fault?, index]
      rfl
    change (watching run).Ensures _ (Watch.note run ⟨t, []⟩ (.pause _) ()) _
    rw [waited]
    refine Monitor.ensures_ask_bind.mpr ⟨permits_clear, fun answer => ?_⟩
    cases answer with
    | error failure => exact ⟨rfl, rfl⟩
    | ok snapshot =>
      change (watching run).Ensures _ (Watch.note run ⟨t, []⟩
        (.worker (.pollJob session job.id)) (.ok snapshot)) _
      rw [poll_watched current]
      dsimp only
      cases seeing : job.observe snapshot with
      | error failure => exact ⟨rfl, by simp [Trail.jobFault?, seeing]⟩
      | ok seen =>
        dsimp only
        have known : Trail.observed job (left + 1) snapshot = (seen, left) := by
          simp [Trail.observed, seeing, Except.toOption]
        rw [known]
        cases status : seen.status with
        | completed => exact ⟨some (seen, left), by simp [Trail.jobFault?, seeing, status]⟩
        | failed => exact ⟨rfl, by simp [Trail.jobFault?, seeing, status]⟩
        | queued | running | timedOut =>
          -- the fault of the last poll is the one that the empty wait reports
          have pending : ((Trail.jobFault? run job (left + 1) snapshot).map
              (.worker (Trail.phase t.messages))).toList = jobGivenUp run t.messages seen left := by
            cases left <;> simp [Trail.jobFault?, seeing, status, jobGivenUp]
          rw [pending]
          exact ih (t := { t with job := some (seen, left) }) seen rfl index

/-! ## Requests and repairs

The phase of a failure is computed twice, by the run from the place in its text and by the trail
from the number of messages. The two agree, since the context and the request for a fix are the
first two messages of a session and every later one asks for a repair. -/

/-- What is wrong with an answer that holds no contract. -/
def refusal (messages : Nat) (answer : String) : List Failure :=
  match Contract.ofReply answer with
  | .error refusal => [.contract (Trail.phase messages) refusal]
  | .ok _ => []

/-- The answer was read. When it holds no contract, that is the fault. -/
def Answered (session : Session) (messages : Nat) (answer : String) (s : Watch) : Prop :=
  ∃ t, s = ⟨t, refusal messages answer⟩ ∧ Working session messages ⟨t, []⟩

/-- A request was answered, or failed in the phase that so many messages stand for. -/
def Dispatched (session : Session) (messages : Nat) : Except Worker.Failure String → Watch → Prop
  | .ok answer => Answered session messages answer
  | .error failure => Failed session (.worker (Trail.phase messages) failure)

/-- An answer that is missing or holds no contract is a fault when it is read. -/
theorem answerTo_watched {session : Session} {messages : Nat}
    (working : Working session messages ⟨t, []⟩) (transcript : List Message) :
    Dispatched session messages (Conversation.answerTo session t.message transcript)
      (Watch.note run ⟨t, []⟩ (.worker (.readTranscript session)) (.ok transcript)) := by
  obtain ⟨holds, index, rfl, -⟩ := working
  have read : Watch.note run ⟨t, []⟩ (.worker (.readTranscript session)) (.ok transcript) =
      ⟨t, (t.answerFault? session transcript).toList⟩ := by
    simp only [Watch.note, Trail.note, Trail.noteWorker, Trail.fault?, Trail.workerFault?,
      List.nil_append]
  rw [read]
  cases answered : Conversation.answerTo session t.message transcript with
  | error failure =>
    refine ⟨holds, ?_⟩
    simp only [Trail.answerFault?, answered, Failure.reported?_worker]
  | ok answer =>
    refine ⟨t, ?_, holds, index, rfl, rfl⟩
    simp only [Trail.answerFault?, answered, refusal]
    cases Contract.ofReply answer <;> rfl

/-- A dispatch is one message more, and fails in the phase of that message. -/
theorem dispatch_watched {session : Session} {messages : Nat} {s : Watch}
    (working : Working session messages s) (request : Request) :
    (watching run).Ensures (run.conversation.dispatch session request) s
      (Dispatched session (messages + 1)) := by
  obtain ⟨clear, rfl, index, rfl⟩ := working.clear
  -- the state is a trail without faults
  generalize s.trail = t at *
  subst clear
  refine Monitor.ensures_ask_bind.mpr ⟨permits_clear, fun posted => ?_⟩
  cases posted with
  | error failure => exact ⟨rfl, rfl⟩
  | ok message =>
    let sent : Trail := { t with messages := t.messages + 1, message := message }
    refine Monitor.ensures_ask_bind.mpr ⟨permits_clear, fun started => ?_⟩
    cases started with
    | error failure => exact ⟨rfl, rfl⟩
    | ok job =>
      change (watching run).Ensures _ (Watch.note run ⟨sent, []⟩ (.worker (.startJob t.session))
        (.ok job)) _
      rw [startJob_watched]
      let polls := run.conversation.maxPolls.toNat
      let started : Trail := { sent with job := some (.start job t.session.id, polls) }
      refine Monitor.ensures_bind.mpr
        ((waitForJob_watched (t := started) t.session _ polls rfl index).mono ?_)
      rintro (failure | finished) s waited
      · exact waited
      obtain ⟨last, rfl⟩ := waited
      have done : Working t.session (t.messages + 1) ⟨{ started with job := last }, []⟩ :=
        ⟨rfl, index, rfl, rfl⟩
      refine Monitor.ensures_ask_bind.mpr ⟨permits_clear, fun read => ?_⟩
      cases read with
      | error failure => exact ⟨rfl, rfl⟩
      | ok transcript =>
        exact answerTo_watched done transcript

theorem exchange_watched {session : Session} {messages : Nat} {s : Watch}
    (working : Working session messages s) (request : Request) :
    (watching run).Ensures (run.exchange session (Trail.phase (messages + 1)) request).run s
      (Onward (fun _ => Working session (messages + 1)) (Failed session)) := by
  refine ensures_run_bind.mpr (ensures_run_orFail.mpr ((dispatch_watched working request).mono ?_))
  rintro (failure | answer) s ends
  · exact ends
  obtain ⟨t, rfl, working⟩ := ends
  change (watching run).Ensures (run.apply _ answer).run _ _
  unfold Run.apply
  cases held : Contract.ofReply answer with
  | error refused =>
    refine ⟨working.holds, ?_⟩
    simp only [refusal, held, Failure.reported?_contract, Option.toList_some]
  | ok contract =>
    -- the answer holds a contract, so reading it was no fault, and only the write can be one
    have none : refusal (messages + 1) answer = [] := by simp only [refusal, held]
    rw [none]
    exact (blamed_write _ _).mono fun result after blamed => working.of_blamed blamed

/-- The work within a session ends with the session held, and its failure is the one fault. -/
def Worked (session : Session) (result : Except Failure α) (s : Watch) : Prop :=
  s.trail.session = session ∧ s.faults = (failure? result).toList

theorem Working.worked {session : Session} {messages : Nat} {s : Watch}
    (working : Working session messages s) (value : α) : Worked session (.ok value) s :=
  ⟨working.holds, working.faultless⟩

/-- Work that fails has the one that it fails with. -/
theorem Failed.worked {session : Session} {failure : Failure} {s : Watch}
    (failed : Failed session failure s) : Worked session (.error failure : Except Failure α) s :=
  ⟨failed.holds, failed.faults⟩

theorem compile_watched {session : Session} {messages : Nat} {s : Watch}
    (working : Working session messages s) :
    (watching run).Ensures compile.run s
      (Onward (fun _ => Working session messages) (Failed session)) :=
  working.ensures_of_blamed blamed_compile

/-- Repairs fail in the phase of the repairs, as at least two messages were sent before. -/
theorem recover_watched {session : Session} (iteration : UInt32) {messages : Nat} (left : Nat)
    {s : Watch} (working : Working session messages s) (repairing : 2 ≤ messages) :
    (watching run).Ensures (run.recover session iteration left).run s (Worked session) := by
  -- the induction is on the repairs that are left; each is one message more
  induction left generalizing s messages with
  | zero =>
    refine ensures_run_bind.mpr ((compile_watched working).mono ?_)
    rintro (failure | diagnostics) after ends
    · exact Failed.worked ends
    · simp only [onward_ok]
      split <;> exact Working.worked ends _
  | succ left ih =>
    refine ensures_run_bind.mpr ((compile_watched working).mono ?_)
    rintro (failure | diagnostics) after ends
    · exact Failed.worked ends
    · simp only [onward_ok]
      split
      · exact Working.worked ends _
      have repair : Trail.phase (messages + 1) = .compileRecovery := if_neg (by omega)
      have exchanged : (watching run).Ensures
          (run.exchange session (Trail.phase (messages + 1)) (.recovery diagnostics)).run after _ :=
        exchange_watched ends (.recovery diagnostics)
      rw [repair] at exchanged
      refine ensures_run_bind.mpr (exchanged.mono ?_)
      rintro (failure | _) last ends
      · exact Failed.worked ends
      · exact ih ends (by omega)

/-- The work within a session, from its first message on. -/
theorem remediate_watched {session : Session} (iteration : UInt32) (violations : List Violation)
    {s : Watch} (working : Working session 0 s) :
    (watching run).Ensures (run.remediate session iteration violations).run s (Worked session) := by
  have reads (path : Path) {s : Watch} (working : Working session 0 s) :
      (watching run).Ensures (onDisk (Workspace.readText path)).run s
        (Onward (fun _ => Working session 0) (Failed session)) :=
    working.ensures_of_blamed (blamed_readText path)
  have context : (watching run).Ensures (run.contextRequest violations).run s
      (Onward (fun _ => Working session 0) (Failed session)) := by
    refine ensures_run_bind.mpr ((reads run.workspace.mainFile working).mono ?_)
    rintro (failure | main) after ends
    · exact ends
    refine ensures_run_bind.mpr ((reads run.workspace.targetFile ends).mono ?_)
    rintro (failure | target) after ends <;> exact ends
  refine ensures_run_bind.mpr (context.mono ?_)
  rintro (failure | request) after ends
  · exact Failed.worked ends
  obtain ⟨clear, rfl, index, messages⟩ := Working.clear ends
  generalize after.trail = t at *
  subst clear
  refine ensures_run_bind.mpr (ensures_run_discard.mpr (ensures_run_orFail.mpr
    ⟨permits_clear, fun posted => ?_⟩))
  cases posted with
  | error failure =>
    refine ⟨rfl, ?_⟩
    show [Failure.worker (Trail.phase (t.messages + 1)) failure] = _
    rw [messages]
    rfl
  | ok message =>
    have sent : Working t.session 1 ⟨{ t with messages := t.messages + 1, message := message }, []⟩ :=
      ⟨rfl, index, by rw [messages], rfl⟩
    refine ensures_run_bind.mpr ((exchange_watched sent _).mono ?_)
    rintro (failure | _) last ends
    · exact Failed.worked ends
    · exact recover_watched iteration _ ends (Nat.le_refl 2)

/-! ## Iterations and passes

Nothing is held between iterations, so each begins with a fresh count of setups and an empty
session. -/

/-- An iteration ends with nothing held, and its failure is the one fault. -/
theorem iterate_watched (iteration : UInt32) (violations : List Violation)
    (fresh : t.setups = 0) (empty : t.session = .empty) :
    (watching run).Ensures (run.iterate iteration violations).run ⟨t, []⟩ (Worked .empty) := by
  refine ensures_iterate permits_clear fun now => ?_
  refine (blamed_createBackup run.workspace iteration now).mono ?_
  rintro (failure | backup) s blamed
  · subst blamed
    exact ⟨empty, rfl⟩
  subst blamed
  have all : t.setups + run.conversation.sessionRetries.toNat + 1 =
      run.conversation.sessionRetries.toNat + 1 := by omega
  -- a number of setups that 32 bits do not hold breaks the run off without a fault
  refine ⟨fun _ => ⟨empty, rfl⟩, ?_⟩
  refine (openWithin_watched run.instructions run.workspace.artifacts _ all).mono ?_
  rintro (failure | session) s opened
  · exact opened
  refine (remediate_watched iteration violations opened).mono fun result s worked => ?_
  refine (closeSession_watched session worked.1).mono ?_
  rintro _ _ rfl
  exact ⟨rfl, worked.2⟩

theorem passes_watched (progress : Progress) (left : Nat) (empty : t.session = .empty) :
    (watching run).Ensures (run.passes progress left).run ⟨t, []⟩ (Worked .empty) := by
  -- the induction is on the iterations that are left; between them nothing is held
  induction left generalizing t progress with
  | zero =>
    refine ensures_passes permits_clear ⟨empty, rfl⟩ (fun _ => ⟨empty, rfl⟩)
      ((blamed_inspect (t := { t with setups := 0 })).mono ?_)
    rintro (failure | _ | _ | _) s blamed
    all_goals
      subst blamed
      exact ⟨empty, rfl⟩
  | succ left ih =>
    refine ensures_passes permits_clear ⟨empty, rfl⟩ (fun _ => ⟨empty, rfl⟩)
      ((blamed_inspect (t := { t with setups := 0 })).mono ?_)
    rintro (failure | _ | _ | _) s blamed
    · subst blamed
      exact ⟨empty, rfl⟩
    · subst blamed
      exact ⟨empty, rfl⟩
    · subst blamed
      exact ⟨empty, rfl⟩
    · subst blamed
      refine (iterate_watched (t := { t with setups := 0 }) progress.number _ rfl empty).mono ?_
      rintro (failure | _ | outcome) s worked
      · exact worked
      · -- the iteration went well, so the next pass begins without a fault
        obtain ⟨trail, faults⟩ := s
        obtain ⟨empty, none⟩ := worked
        have faultless : faults = [] := none
        rw [faultless]
        exact ih progress.advance empty
      · exact worked

/-- A run names the fault that ended it. Purging brings no fault about, whatever is answered. -/
theorem start_watched (run : Run) :
    (watching run).Ensures run.start.run {} (Worked .empty) := by
  let Clear (s : Watch) : Prop := s = {}
  refine ensures_start Clear Clear ?_ ?_ ?_ ?_ ?_ ?_
  · refine (blamed_ensureSources run.workspace).mono ?_
    rintro (failure | _) s blamed
    · subst blamed
      exact ⟨rfl, rfl⟩
    · exact blamed
  · rintro _ rfl
    exact permits_clear
  · rintro _ failure rfl
    exact ⟨rfl, rfl⟩
  · rintro _ rfl
    rfl
  · rintro _ rfl
    -- a purge may fail: that is no fault
    refine ⟨permits_clear, fun purged => ?_⟩
    cases purged <;> rfl
  · rintro _ rfl
    exact passes_watched _ _ rfl

/-! ## Whole runs

The monitor has seen all there is to see. What remains is to say it about histories: the list of
faults holds at most one, and behind the event that brings it about nothing else was permitted. -/

/-- The calls that give back what is held. -/
def closing (session : Session) : List Call :=
  if session = .empty then [] else [.worker (.teardownSession session)]

/-- After a fault there are just the calls that give back what is held. -/
theorem calls_after_fault {s : Watch} {rest : History Call Answer} (faulted : s.faults ≠ [])
    (accepts : (watching run).Accepts s rest)
    (released : ((watching run).after s rest).trail.session = .empty) :
    rest.map (·.1) = closing s.trail.session := by
  cases rest with
  | nil =>
    have empty : s.trail.session = .empty := released
    simp [closing, empty]
  | cons event rest =>
    obtain ⟨call, answer⟩ := event
    obtain ⟨held, rfl⟩ := accepts.1 faulted
    cases rest with
    | nil => simp [closing, held]
    | cons next rest =>
      -- nothing is held any more, so no further call was permitted
      have still : (Watch.note run s (.worker (.teardownSession s.trail.session)) answer).faults ≠
          [] := by simp [Watch.note, faulted]
      exact absurd rfl (accepts.2.1 still).1

theorem faults_after (s : Watch) (history : History Call Answer) :
    ∃ more, ((watching run).after s history).faults = s.faults ++ more := by
  induction history generalizing s with
  | nil => exact ⟨[], (List.append_nil _).symm⟩
  | cons event history ih =>
    obtain ⟨more, grown⟩ := ih ((watching run).note s event.1 event.2)
    refine ⟨(s.trail.fault? run event.1 event.2).toList ++ more, ?_⟩
    rw [Monitor.after_cons, grown, ← List.append_assoc]
    rfl

/-- **Where failures come from.** A run that ends well had no fault, and neither had one that is
broken off by a panic. A run that fails had exactly one: the failure that it returns is the one
that this event brings about, with the path or the phase of it. After the fault the only call is
the one that gives back the session, if one is held, and what comes of that changes nothing. -/
theorem failure_provenance (run : Run) {history : History Call Answer}
    {result : Except Failure Outcome} (yields : Yields run.start.run history result) :
    faults run history = (failure? result).toList ∧
      ∀ before event rest failure, history = before ++ event :: rest →
        (trail run before).fault? run event.1 event.2 = some failure →
          result = .error failure ∧
            rest.map (·.1) = closing (trail run (before ++ [event])).session := by
  obtain ⟨accepted, released, one⟩ := (start_watched run).sound yields
  refine ⟨one, ?_⟩
  rintro before event rest failure rfl brings
  let s := (watching run).after {} before
  have noted : (watching run).after {} (before ++ [event]) =
      ⟨s.trail.note run event.1 event.2, s.faults ++ [failure]⟩ := by
    have brought : s.trail.fault? run event.1 event.2 = some failure := brings
    rw [Monitor.after_append]
    show Watch.mk _ (s.faults ++ (s.trail.fault? run event.1 event.2).toList) = _
    rw [brought]
    rfl
  have parts : before ++ event :: rest = (before ++ [event]) ++ rest := by simp
  rw [parts] at accepted released one
  rw [Monitor.after_append] at released one
  obtain ⟨more, grown⟩ := faults_after ((watching run).after {} (before ++ [event])) rest
  rw [grown, noted] at one
  constructor
  · -- the list of faults holds this one, and it has no more than the failure of the result
    cases result with
    | ok outcome => simp [failure?] at one
    | error returned =>
      have member : failure ∈ returned.reported?.toList := by
        change failure ∈ (failure? (.error returned : Except Failure Outcome)).toList
        rw [← one]
        simp
      rw [Failure.eq_of_reported? (Option.mem_toList.mp member)]
  · have faulted : ((watching run).after {} (before ++ [event])).faults ≠ [] := by simp [noted]
    exact calls_after_fault faulted (Monitor.accepts_append.mp accepted).2 released

/-! ## A repair that fails

The third message of this session asks for a repair, and the failure of its job names that phase.
-/

/-- A world in which the fix does not compile, the job of its repair fails, and neither purging nor
giving back works. -/
def failing (past : History Call Answer) : (call : Call) → Answer call
  | .compile => .ok (if (trail plainRun past).messages = 2 then "error" else "")
  | .worker (.pollJob ..) =>
    .ok ⟨if (trail plainRun past).messages = 3 then .failed else .completed, none⟩
  | .worker (.teardownSession _) | .worker .purgeAll => .error (.unexpected "busy")
  | call => unmoved call

/-- That run fails with its job, and the last call gives the session back. -/
theorem failure_provenance_failing :
    let history := (plainRun.start.run.replay failing []).1
    let result := (plainRun.start.run.replay failing []).2
    faults plainRun history = (failure? result).toList ∧
      failure? result =
        some (.worker .compileRecovery (.jobFailed "job" "no reason given")) ∧
      (history.map (·.1)).getLast? =
        some (.worker (.teardownSession
          ⟨"thread", "agent", some "index", ["file", "file", "file"]⟩)) := by
  intro history result
  have yields := Procedure.yields_replay failing plainRun.start.run
  exact ⟨(failure_provenance plainRun yields).1, by decide +kernel, by decide +kernel⟩

end Run

end AzcRepair
