import AzcRepair.Request
import AzcRepair.Run.Call

/-!
# Conversations with the worker

The order in which the worker is dealt with. A session is set up by uploading the artifacts, making
an index of them, waiting for it and attaching it; a setup that fails gives back what it acquired
and is tried again from the start. A request is posted, a job is started and polled, and the answer
is what the transcript holds after the request. Giving things back never fails a run.
-/

namespace AzcRepair

/-- The waits and bounds of conversations. -/
structure Conversation where
  /-- Milliseconds between two polls. -/
  pollIntervalMs : Nat := 5000
  maxPolls : UInt32 := 60
  /-- Milliseconds between making an index and its first poll. -/
  indexDelayMs : Nat := 10000
  /-- How often a failed setup is tried again. -/
  sessionRetries : UInt32 := 2
  deriving DecidableEq, Repr

namespace Conversation

open Run (Act Panic ask askWorker)
open Worker (Session Artifact Message Job Snapshot Failure)

def ofSettings (worker : Settings.Worker) : Conversation where
  pollIntervalMs := worker.pollIntervalSecs.toNat * 1000
  maxPolls := worker.maxPollAttempts
  indexDelayMs := worker.indexDelaySecs.toNat * 1000
  sessionRetries := worker.sessionRetries

/-! ### Setting up a session

A session that is half set up must not be lost sight of: what was acquired has to be deleted.
Therefore every function of the setup returns the session together with its result, also when it
failed. -/

/-- Uploads artifacts in order and adds their ids to the session, up to the first failure. The
files that were uploaded before it stay listed. -/
def uploadAll (session : Session) : List Artifact → Act (Session × Except Failure Unit)
  | [] => return (session, .ok ())
  | artifact :: rest => do
    match ← askWorker (.uploadArtifact artifact) with
    | .error failure => return (session, .error failure)
    | .ok file => uploadAll { session with files := session.files ++ [file] } rest

/-- The name of an index: the instant and a suffix keep it apart from all others. -/
def indexName (now : Instant) (suffix : String) : String :=
  "azc-" ++ now.compact ++ "-" ++ suffix

def indexFailure (index : String) (snapshot : Snapshot) : Failure :=
  .indexFailed index (snapshot.reason.getD "indexing failed")

/-- Polls an index until it is built; there are `left` polls to go. Unlike a job, an index is
polled first and waited for afterwards, since its making was waited for already. -/
def waitForIndex (conversation : Conversation) (index : String) : Nat → Act (Except Failure Unit)
  | 0 => return .error (.timedOut index conversation.maxPolls)
  | left + 1 => do
    match ← askWorker (.indexStatus index) with
    | .error failure => return .error failure
    | .ok snapshot =>
      match snapshot.status with
      | .completed => return .ok ()
      | .queued | .running =>
        ask (.pause conversation.pollIntervalMs)
        conversation.waitForIndex index left
      -- a failed index is reported with the reason that it gives
      | .failed | .timedOut => return .error (indexFailure index snapshot)

/-- One setup: the session lists what was acquired, also when the setup failed. -/
def setUp (conversation : Conversation) (instructions : String) (artifacts : List Artifact) :
    Act (Session × Except Failure Unit) := do
  match ← askWorker (.createSession instructions) with
  | .error failure => return (.empty, .error failure)
  | .ok session =>
    -- all artifacts are uploaded before an index is made of them
    match ← uploadAll session artifacts with
    | (session, .error failure) => return (session, .error failure)
    | (session, .ok ()) =>
      let now ← ask .clock
      let suffix ← ask .freshSuffix
      match ← askWorker (.createIndex (indexName now suffix) session.files) with
      | .error failure => return (session, .error failure)
      | .ok index =>
        -- the index is the session's own from here on, whatever becomes of it
        let session := { session with index := some index }
        -- the service needs a while before it knows of a new index
        ask (.pause conversation.indexDelayMs)
        match ← conversation.waitForIndex index conversation.maxPolls.toNat with
        | .error failure => return (session, .error failure)
        | .ok () => return (session, ← askWorker (.attachIndex session index))

/-- Gives back what a session holds, if it holds anything. -/
def closeSession (session : Session) : Act Unit := do
  -- nothing was acquired, so nothing is asked of the worker
  unless session = .empty do
    discard (askWorker (.teardownSession session))

/-- Sets up a session, giving back what a failed setup acquired; `left` more setups may follow. -/
def openWithin (conversation : Conversation) (instructions : String) (artifacts : List Artifact) :
    Nat → Act (Except Failure Session)
  | 0 => do
    match ← conversation.setUp instructions artifacts with
    | (session, .ok ()) => return .ok session
    | (session, .error failure) =>
      closeSession session
      return .error failure
  | left + 1 => do
    match ← conversation.setUp instructions artifacts with
    | (session, .ok ()) => return .ok session
    -- what the failed setup holds is given back before the next one starts
    | (session, .error _) =>
      closeSession session
      conversation.openWithin instructions artifacts left

/-- The number of setups: one more than there are retries. -/
def setups (conversation : Conversation) : Except Panic UInt32 :=
  Panic.add conversation.sessionRetries 1

/-- Opens a session with the artifacts indexed and attached. The setups are counted before the first
one is made, so with as many retries as 32 bits hold there is a panic and nothing is asked of the
worker. -/
def openSession (conversation : Conversation) (instructions : String) (artifacts : List Artifact) :
    Act (Except Panic (Except Failure Session)) :=
  match conversation.setups with
  | .error cause => return .error cause
  | .ok setups =>
    Except.ok <$> conversation.openWithin instructions artifacts (setups.toNat - 1)

/-! ### Requests and answers

A conversation belongs to one session, and several requests are made in it. The answer to a
request is what stands behind it in the transcript, which is why the id of every message that is
posted is kept. -/

/-- Posts a request and expects no answer. -/
def post (session : Session) (request : Request) : Act (Except Failure String) :=
  askWorker (.sendMessage session request.body)

def jobFailure (job : Job) : Failure :=
  .jobFailed job.id (job.reason.getD "no reason given")

/-- Polls a job until it is completed; there are `left` polls to go. Each poll is preceded by a
pause. When no poll is left the job is given up, which its status says on this side only. -/
def waitForJob (conversation : Conversation) (session : Session) (job : Job) :
    Nat → Act (Except Failure Job)
  | 0 => return .error (.timedOut job.giveUp.id conversation.maxPolls)
  | left + 1 => do
    ask (.pause conversation.pollIntervalMs)
    match ← askWorker (.pollJob session job.id) with
    | .error failure => return .error failure
    | .ok snapshot =>
      -- only a job that had ended would refuse this
      match job.observe snapshot with
      | .error failure => return .error failure
      | .ok job =>
        match job.status with
        | .completed => return .ok job
        | .failed => return .error (jobFailure job)
        -- a service never reports a job as given up, so what is left here is pending
        | .queued | .running | .timedOut => conversation.waitForJob session job left

/-- The messages after the one with this id. -/
def after? (message : String) : List Message → Option (List Message)
  | [] => none
  -- the first message with the id counts
  | first :: rest => if first.id = message then some rest else after? message rest

/-- The texts of messages, one below the other. -/
def joinTexts (messages : List Message) : String :=
  "\n".intercalate (messages.map (·.text))

/-- The answer to the message with this id: the texts behind it, joined by line feeds. A
transcript without the message and an answer that is blank are failures. -/
def answerTo (session : Session) (message : String) (transcript : List Message) :
    Except Failure String :=
  match after? message transcript with
  | none => .error (.missingMessage message)
  | some messages =>
    -- blanks alone are no answer
    let text := joinTexts messages
    if Text.isBlankText text then .error (.emptyResponse session.id) else .ok text

/-- Posts a request, has the worker work on it and returns its answer. Any failure on the way is
that of the dispatch, and no later request is made then. -/
def dispatch (conversation : Conversation) (session : Session) (request : Request) :
    Act (Except Failure String) := do
  match ← post session request with
  | .error failure => return .error failure
  | .ok message =>
    match ← askWorker (.startJob session) with
    | .error failure => return .error failure
    | .ok job =>
      match ← conversation.waitForJob session (.start job session.id)
          conversation.maxPolls.toNat with
      | .error failure => return .error failure
      | .ok _ =>
        match ← askWorker (.readTranscript session) with
        | .error failure => return .error failure
        | .ok transcript => return answerTo session message transcript

/-- Deletes what earlier runs left; a failure changes nothing. -/
def purgeStale : Act Unit :=
  discard (askWorker .purgeAll)

end Conversation

end AzcRepair
