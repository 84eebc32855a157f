import AzcRepair.Proofs.Run.Walk

/-!
# The calls that the parts of a run make

Which requests a part of a run can make at all, whatever is answered: waiting for an index asks only
for its status, a dispatch speaks only on its session, and so does everything that an iteration does
between opening its session and closing it.
-/

namespace AzcRepair

open Monitor (Only)

/-- The session that a request is made on. Giving a session back is not a request on it. -/
def Worker.Call.session? : Worker.Call → Option Worker.Session
  | attachIndex session _ | sendMessage session _ | startJob session | pollJob session _
  | readTranscript session => some session
  | _ => none

namespace Run

open Worker (Session Job)

variable {α β : Type}

/-! ## Parts that may fail

`Only` is a monitor that remembers nothing, so the rules of the walk give its rules: a part that
may fail makes the calls of its beginning and, if that went well, those of the rest. -/

theorem only_run_bind {kind : Call → Prop} {x : Attempt α} {next : α → Attempt β}
    (first : Only kind x.run) (rest : ∀ value, Only kind (next value).run) :
    Only kind (x >>= next).run := by
  refine ensures_run_bind.mpr (first.mono fun outcome _ _ => ?_)
  cases outcome with
  | error failure => trivial
  | ok value => exact rest value

theorem only_run_orFail {ε : Type} {kind : Call → Prop} {wrap : ε → Failure}
    {act : Act (Except ε α)} (h : Only kind act) : Only kind (orFail wrap act).run :=
  ensures_run_orFail.mpr h

theorem only_run_discard {kind : Call → Prop} {x : Attempt α} (h : Only kind x.run) :
    Only kind (discard x).run :=
  ensures_run_discard.mpr h

/-! ## Work on files

For every action on files its calls are named, one alternative for each call. The alternatives do
not say in which order they are made nor how many; a refusal cuts the action short and leaves that
true. -/

theorem only_readText (path : Path) :
    Only (· = Call.disk (.readText path)) (onDisk (Workspace.readText path)).run := by
  refine ensures_blame.mpr ⟨rfl, fun answer => ?_⟩
  cases answer <;> trivial

theorem only_write (path : Path) (text : String) :
    Only (· = Call.disk (.write path text)) (onDisk (Workspace.write path text)).run := by
  refine ensures_blame.mpr ⟨rfl, fun answer => ?_⟩
  cases answer <;> trivial

/-- The call keeps the log of a build. -/
def KeepsBuildLog (workspace : Workspace) (text : String) (call : Call) : Prop :=
  call = .disk (.makeDirectories workspace.logDir) ∨ call = .disk (.write workspace.buildLog text)

theorem only_persistBuildLog (workspace : Workspace) (text : String) :
    Only (KeepsBuildLog workspace text) (onDisk (workspace.persistBuildLog text)).run := by
  refine ensures_onDisk_bind.mpr (ensures_blame.mpr ⟨.inl rfl, fun made => ?_⟩)
  -- without the directory nothing is written
  cases made with
  | error error => trivial
  | ok _ =>
    refine ensures_onDisk_bind.mpr (ensures_blame.mpr ⟨.inr rfl, fun written => ?_⟩)
    cases written <;> trivial

/-- The call keeps the log of the violations, or the copy of it for an instant. -/
def KeepsViolations (workspace : Workspace) (text : String) (now : Instant) (call : Call) : Prop :=
  call = .disk (.makeDirectories workspace.logDir) ∨
    call = .disk (.write workspace.violationLog text) ∨
    call = .disk (.write (workspace.violationSnapshot now) text)

theorem only_persistViolations (workspace : Workspace) (text : String) (now : Instant) :
    Only (KeepsViolations workspace text now)
      (onDisk (workspace.persistViolations text now)).run := by
  refine ensures_onDisk_bind.mpr (ensures_blame.mpr ⟨.inl rfl, fun made => ?_⟩)
  cases made with
  | error error => trivial
  | ok _ =>
    refine ensures_onDisk_bind.mpr (ensures_blame.mpr ⟨.inr (.inl rfl), fun written => ?_⟩)
    cases written with
    | error error => trivial
    | ok _ =>
      refine ensures_onDisk_bind.mpr (ensures_blame.mpr ⟨.inr (.inr rfl), fun copied => ?_⟩)
      cases copied <;> trivial

/-- The call makes or fills the archive of an iteration. -/
def Archives (workspace : Workspace) (iteration : UInt32) (now : Instant) (call : Call) : Prop :=
  call = .disk (.makeDirectories workspace.backupDir) ∨
    call = .disk (.createNew (workspace.backupFile iteration now)) ∨
    call = .disk (.archive (workspace.backupFile iteration now) workspace.sourceDir)

theorem only_createBackup (workspace : Workspace) (iteration : UInt32) (now : Instant) :
    Only (Archives workspace iteration now)
      (onDisk (workspace.createBackup iteration now)).run := by
  refine ensures_onDisk_bind.mpr (ensures_blame.mpr ⟨.inl rfl, fun made => ?_⟩)
  cases made with
  | error error => trivial
  | ok _ =>
    refine ensures_onDisk_bind.mpr (ensures_blame.mpr ⟨.inr (.inl rfl), fun created => ?_⟩)
    cases created with
    | error error => trivial
    | ok _ =>
      refine ensures_onDisk_bind.mpr (ensures_blame.mpr ⟨.inr (.inr rfl), fun filled => ?_⟩)
      cases filled <;> trivial

/-! ## Waiting and speaking

The two loops that wait, each by induction on the polls that are left, and what a dispatch says on
its session around them. -/

/-- The call waits, or asks for the status of the index. -/
def AwaitsIndex (index : String) (call : Call) : Prop :=
  (∃ ms, call = .pause ms) ∨ call = .worker (.indexStatus index)

/-- Waiting for an index asks for nothing but its status. -/
theorem only_waitForIndex (conversation : Conversation) (index : String) (left : Nat) :
    Only (AwaitsIndex index) (conversation.waitForIndex index left) := by
  induction left with
  | zero => trivial
  | succ left ih =>
    refine ⟨.inr rfl, fun answer => ?_⟩
    cases answer with
    | error failure => trivial
    | ok snapshot =>
      obtain ⟨status, reason⟩ := snapshot
      cases status with
      -- only a pending index is asked for again, after a wait
      | queued | running => exact ⟨.inl ⟨_, rfl⟩, fun _ => ih⟩
      | completed | failed | timedOut => trivial

/-- The call waits, or is made on the session. -/
def Speaks (session : Session) (call : Call) : Prop :=
  (∃ ms, call = .pause ms) ∨ ∃ request : Worker.Call, call = .worker request ∧
    request.session? = some session

/-- The call waits, or polls the job. -/
def AwaitsJob (session : Session) (job : String) (call : Call) : Prop :=
  (∃ ms, call = .pause ms) ∨ call = .worker (.pollJob session job)

theorem AwaitsJob.speaks {session : Session} {job : String} {call : Call}
    (h : AwaitsJob session job call) : Speaks session call :=
  h.imp_right fun polls => ⟨_, polls, rfl⟩

/-- Waiting for a job polls that job and no other. -/
theorem only_waitForJob (conversation : Conversation) (session : Session) (job : Job)
    (left : Nat) :
    Only (AwaitsJob session job.id) (conversation.waitForJob session job left) := by
  -- the induction is on the polls that are left
  induction left generalizing job with
  | zero => trivial
  | succ left ih =>
    refine Monitor.ensures_ask_bind.mpr ⟨.inl ⟨_, rfl⟩, fun _ => ?_⟩
    refine Monitor.ensures_ask_bind.mpr ⟨.inr rfl, fun answer => ?_⟩
    cases answer with
    | error failure => trivial
    | ok snapshot =>
      dsimp only
      cases observed : job.observe snapshot with
      | error failure => trivial
      | ok seen =>
        -- the next poll is for the same job: an observation keeps its id
        have same : seen.id = job.id := by rw [Job.eq_of_observe observed]
        dsimp only
        rw [← same]
        cases seen.status with
        | queued | running | timedOut => exact ih seen
        | completed | failed => trivial

theorem only_post (session : Session) (request : Request) :
    Only (Speaks session) (Conversation.post session request) :=
  ⟨.inr ⟨_, rfl, rfl⟩, fun _ => trivial⟩

/-- A dispatch speaks on its session only: the message, the job, the polls and the transcript. -/
theorem only_dispatch (conversation : Conversation) (session : Session) (request : Request) :
    Only (Speaks session) (conversation.dispatch session request) := by
  refine (only_post session request).bind fun posted => ?_
  cases posted with
  | error failure => trivial
  | ok message =>
    refine ⟨.inr ⟨_, rfl, rfl⟩, fun started => ?_⟩
    cases started with
    | error failure => trivial
    | ok job =>
      have waiting := (only_waitForJob conversation session (.start job session.id)
        conversation.maxPolls.toNat).widen fun _ => AwaitsJob.speaks
      refine waiting.bind fun finished => ?_
      cases finished with
      | error failure => trivial
      | ok job =>
        refine ⟨.inr ⟨_, rfl, rfl⟩, fun transcript => ?_⟩
        cases transcript <;> trivial

/-! ## Opening a session

Setting up asks the worker for things and gives them back, and it says nothing on a session. A
monitor that is interested in messages or in files can therefore pass over all of it at once. -/

/-- The call belongs to setting a session up or to giving back what a failed setup acquired. -/
def SetsUp : Call → Prop
  | .clock | .freshSuffix | .pause _ => True
  | .worker request =>
    match request with
    | .createSession _ | .uploadArtifact _ | .createIndex .. | .indexStatus _ | .attachIndex ..
    | .teardownSession _ => True
    | _ => False
  | _ => False

/-- The call uploads an artifact. -/
def Uploads (call : Call) : Prop :=
  ∃ artifact, call = .worker (.uploadArtifact artifact)

theorem only_uploadAll (session : Session) (artifacts : List Worker.Artifact) :
    Only Uploads (Conversation.uploadAll session artifacts) := by
  induction artifacts generalizing session with
  | nil => trivial
  | cons artifact rest ih =>
    refine ⟨⟨artifact, rfl⟩, fun answer => ?_⟩
    cases answer with
    | error failure => trivial
    | ok file => exact ih _

theorem only_setUp (conversation : Conversation) (instructions : String)
    (artifacts : List Worker.Artifact) :
    Only SetsUp (conversation.setUp instructions artifacts) := by
  refine Monitor.ensures_ask_bind.mpr ⟨trivial, fun created => ?_⟩
  cases created with
  | error failure => trivial
  | ok session =>
    -- a narrower kind of call is known of the parts, and it is widened to the one in question
    have uploads := (only_uploadAll session artifacts).widen
      fun (call : Call) h => show SetsUp call by
        obtain ⟨artifact, rfl⟩ := h
        trivial
    refine uploads.bind ?_
    rintro ⟨session, failure | _⟩
    · trivial
    refine Monitor.ensures_ask_bind.mpr ⟨trivial, fun now => ?_⟩
    refine Monitor.ensures_ask_bind.mpr ⟨trivial, fun suffix => ?_⟩
    refine Monitor.ensures_ask_bind.mpr ⟨trivial, fun made => ?_⟩
    cases made with
    | error failure => trivial
    | ok index =>
      refine Monitor.ensures_ask_bind.mpr ⟨trivial, fun _ => ?_⟩
      have waiting := (only_waitForIndex conversation index conversation.maxPolls.toNat).widen
        fun (call : Call) awaits => show SetsUp call by
          rcases awaits with ⟨ms, rfl⟩ | rfl <;> trivial
      refine waiting.bind fun waited => ?_
      cases waited with
      | error failure => trivial
      | ok _ => exact ⟨trivial, fun _ => trivial⟩

theorem only_closeSession (session : Session) : Only SetsUp (Conversation.closeSession session) := by
  unfold Conversation.closeSession
  -- an empty session is not given back, so there is no call at all
  split
  · trivial
  · exact ensures_discard.mpr ⟨trivial, fun _ => trivial⟩

/-- Opening a session sets sessions up, however often it is tried, and speaks on none. -/
theorem only_openWithin (conversation : Conversation) (instructions : String)
    (artifacts : List Worker.Artifact) (left : Nat) :
    Only SetsUp (conversation.openWithin instructions artifacts left) := by
  induction left with
  | zero =>
    refine (only_setUp conversation instructions artifacts).bind ?_
    rintro ⟨session, failure | _⟩
    · exact (only_closeSession session).bind fun _ => trivial
    · trivial
  | succ left ih =>
    refine (only_setUp conversation instructions artifacts).bind ?_
    rintro ⟨session, failure | _⟩
    · exact (only_closeSession session).bind fun _ => ih
    · trivial

/-! ## Between opening a session and closing it

Two descriptions of the same calls: `WorksOn` names the files that are read and written,
`WorksWithin` only says that files are worked on. The first is what is proved, and the second
follows from it for those who do not care about the paths. -/

/-- The call works on files, compiles, waits, or is made on the session. -/
def WorksWithin (session : Session) (call : Call) : Prop :=
  IsDisk call ∨ call = .compile ∨ Speaks session call

/-- The call reads the main or the target file, or writes the target file. -/
def Edits (workspace : Workspace) (call : Call) : Prop :=
  call = .disk (.readText workspace.mainFile) ∨ call = .disk (.readText workspace.targetFile) ∨
    ∃ text, call = .disk (.write workspace.targetFile text)

/-- The call edits the sources, compiles, waits, or is made on the session. -/
def WorksOn (workspace : Workspace) (session : Session) (call : Call) : Prop :=
  Edits workspace call ∨ call = .compile ∨ Speaks session call

/-- Work on the main and the target file is work on files. -/
theorem WorksOn.within {workspace : Workspace} {session : Session} {call : Call}
    (h : WorksOn workspace session call) : WorksWithin session call := by
  refine h.imp_left ?_
  rintro (rfl | rfl | ⟨text, rfl⟩) <;> exact ⟨_, rfl⟩

/-- An answer is applied by writing the target file, or not at all. -/
theorem only_apply (run : Run) (session : Session) (phase : Phase) (answer : String) :
    Only (WorksOn run.workspace session) (run.apply phase answer).run := by
  unfold Run.apply
  cases Contract.ofReply answer with
  -- an answer without a contract changes nothing
  | error refusal => trivial
  | ok contract =>
    exact (only_write _ _).widen fun call writes => .inl (.inr (.inr ⟨_, writes⟩))

/-- A request and its answer: the dispatch speaks, and applying what it returned writes. -/
theorem only_exchange (run : Run) (session : Session) (phase : Phase) (request : Request) :
    Only (WorksOn run.workspace session) (run.exchange session phase request).run :=
  only_run_bind
    (only_run_orFail ((only_dispatch _ session request).widen fun _ speaks => .inr (.inr speaks)))
    fun answer => only_apply run session phase answer

theorem only_compile (workspace : Workspace) (session : Session) :
    Only (WorksOn workspace session) compile.run :=
  only_run_orFail ⟨.inr (.inl rfl), fun _ => trivial⟩

/-- Repairs compile and exchange, as often as they are tried. -/
theorem only_recover (run : Run) (session : Session) (iteration : UInt32) (left : Nat) :
    Only (WorksOn run.workspace session) (run.recover session iteration left).run := by
  induction left with
  | zero =>
    refine only_run_bind (only_compile _ session) fun diagnostics => ?_
    -- sources without diagnostics need no repair
    split <;> trivial
  | succ left ih =>
    refine only_run_bind (only_compile _ session) fun diagnostics => ?_
    split
    · trivial
    · exact only_run_bind (only_exchange run session _ _) fun _ => ih

/-- The request for the context reads the two files that it quotes. -/
theorem only_contextRequest (run : Run) (session : Session) (violations : List Violation) :
    Only (WorksOn run.workspace session) (run.contextRequest violations).run := by
  have main : Only (WorksOn run.workspace session) (onDisk run.workspace.readMain).run :=
    (only_readText _).widen fun call reads => .inl (.inl reads)
  have target : Only (WorksOn run.workspace session) (onDisk run.workspace.readTarget).run :=
    (only_readText _).widen fun call reads => .inl (.inr (.inl reads))
  exact only_run_bind main fun _ => only_run_bind target fun _ => trivial

/-- What an iteration does within its session stays within it: no session is opened or given back,
nothing is built, and of all files only the target file is written. -/
theorem only_remediate (run : Run) (session : Session) (iteration : UInt32)
    (violations : List Violation) :
    Only (WorksOn run.workspace session) (run.remediate session iteration violations).run := by
  refine only_run_bind (only_contextRequest run session violations) fun context => ?_
  refine only_run_bind (only_run_discard (only_run_orFail
    ((only_post session context).widen fun _ speaks => .inr (.inr speaks)))) fun _ => ?_
  exact only_run_bind (only_exchange run session _ _) fun _ =>
    only_recover run session iteration _

/-! ## Inspecting the sources

An inspection is described by its calls as well. It neither speaks to the worker nor writes
anywhere but in the directory of the logs. -/

/-- The call compiles, prepares, builds, or keeps what the build said. -/
def Inspects (workspace : Workspace) (call : Call) : Prop :=
  call = .compile ∨ call = .prepareArtifacts ∨ call = .build ∨ call = .clock ∨
    (∃ text, KeepsBuildLog workspace text call) ∨
    ∃ text now, KeepsViolations workspace text now call

/-- An inspection makes no other calls than these, whatever the build says. -/
theorem only_inspect (run : Run) : Only (Inspects run.workspace) run.inspect.run := by
  refine ensures_inspect (fun _ => True) (fun _ => True) (.inl rfl) (fun _ => trivial)
    (fun _ _ => trivial) (fun _ _ => trivial)
    (fun _ _ => ⟨.inr (.inl rfl), fun _ => trivial, trivial⟩)
    (fun _ _ => ⟨.inr (.inr (.inl rfl)), fun _ => trivial, fun output => ?_⟩)
  -- the logs are kept only when there is an output, first that of the build
  have logged := (only_persistBuildLog run.workspace output.rawLog).widen fun call keeps =>
    show Inspects run.workspace call from .inr (.inr (.inr (.inr (.inl ⟨_, keeps⟩))))
  refine Monitor.Ensures.mono logged ?_
  rintro (failure | _) _ -
  · trivial
  refine ⟨.inr (.inr (.inr (.inl rfl))), fun now => ?_⟩
  have kept := (only_persistViolations run.workspace
    (Violation.log (Violation.extract run.repeats output.rawLog)) now).widen fun call keeps =>
      show Inspects run.workspace call from .inr (.inr (.inr (.inr (.inr ⟨_, _, keeps⟩))))
  refine Monitor.Ensures.mono kept ?_
  rintro (failure | _) _ - <;> trivial

/-! ## Iterations

An iteration is put together from the parts above. The statement forgets the order, which
`iterate_parts` tells, and keeps what is true of every single call. -/

/-- The call belongs to an iteration: it reads the clock, archives the sources, opens or closes a
session, or works within one. -/
def Iterates (workspace : Workspace) (iteration : UInt32) (call : Call) : Prop :=
  call = .clock ∨ (∃ now, Archives workspace iteration now call) ∨ SetsUp call ∨
    ∃ session, WorksOn workspace session call

theorem only_iterate (run : Run) (iteration : UInt32) (violations : List Violation) :
    Only (Iterates run.workspace iteration) (run.iterate iteration violations).run := by
  refine ensures_iterate (.inl rfl) fun now => ?_
  have archives := (only_createBackup run.workspace iteration now).widen fun call h =>
    show Iterates run.workspace iteration call from .inr (.inl ⟨now, h⟩)
  refine Monitor.Ensures.mono archives ?_
  rintro (failure | backup) _ -
  · trivial
  have opens := (only_openWithin run.conversation run.instructions run.workspace.artifacts
    run.conversation.sessionRetries.toNat).widen fun call h =>
      show Iterates run.workspace iteration call from .inr (.inr (.inl h))
  refine ⟨fun _ => trivial, Monitor.Ensures.mono opens ?_⟩
  rintro (failure | session) _ -
  · trivial
  have works := (only_remediate run session iteration violations).widen fun call h =>
    show Iterates run.workspace iteration call from .inr (.inr (.inr ⟨session, h⟩))
  have closes := (only_closeSession session).widen fun call h =>
    show Iterates run.workspace iteration call from .inr (.inr (.inl h))
  exact Monitor.Ensures.mono works fun _ _ _ => Monitor.Ensures.mono closes fun _ _ _ => trivial

end Run

end AzcRepair
