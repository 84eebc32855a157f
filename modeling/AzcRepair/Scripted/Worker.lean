import AzcRepair.Worker.Service

/-!
# A scripted worker

A worker whose jobs follow a script. Ids are made up: indexes count by themselves, and everything
else shares one counter. The answer of a job is put into its conversation when the job is first seen
to be completed.

It stands in for the client of the agents service where a run is to be tried out without a service.
-/

namespace AzcRepair.Scripted

/-- What a job does. -/
inductive JobScript where
  /-- Run until so many polls were made, and then answer. -/
  | complete (polls : Nat) (text : String)
  | fail (reason : String)
  /-- Run forever. -/
  | stall
  deriving DecidableEq, Repr

structure StartedJob where
  id : String
  /-- The conversation it belongs to. -/
  session : String
  script : JobScript
  polls : Nat
  /-- Its answer is in the conversation. -/
  delivered : Bool
  deriving DecidableEq, Repr

/-- A worker that follows a script. Its counters are natural numbers. Those of a program have 32 bits,
which makes no difference before the 2^32-th id: there the program panics, and nothing that was asked
of the worker succeeds any more. -/
structure Worker where
  /-- The number of the last id that was made up, but for those of indexes. -/
  lastId : Nat := 0
  /-- The number of the last index. -/
  lastIndex : Nat := 0
  /-- The jobs to come. -/
  scripts : List JobScript := []
  jobs : List StartedJob := []
  /-- The conversations by id. -/
  transcripts : List (String × List Worker.Message) := []
  /-- How many of the next indexes fail. -/
  indexFailures : Nat := 0
  failingIndexes : List String := []
  failsToTearDown : Bool := false
  failsToConnect : Bool := false
  connectionChecks : Nat := 0
  sessionsCreated : Nat := 0
  sessionsTornDown : Nat := 0
  indexesCreated : Nat := 0
  /-- The messages that were sent. -/
  sent : List String := []
  /-- The names of the artifacts that were uploaded. -/
  uploads : List String := []
  polls : Nat := 0
  purges : Nat := 0
  deriving DecidableEq, Repr

namespace Worker

open AzcRepair.Worker (Call Session Message Snapshot Failure)

/-- A job that answers; it takes at least one poll. -/
def JobScript.completeAfter (polls : Nat) (text : String) : JobScript :=
  .complete (max polls 1) text

def freshId (worker : Worker) (kind : String) : String × Worker :=
  (kind ++ "_" ++ Text.decimal (worker.lastId + 1), { worker with lastId := worker.lastId + 1 })

def transcript (worker : Worker) (session : String) : List Message :=
  (worker.transcripts.lookup session).getD []

/-- Puts a message at the end of a conversation. -/
def append (worker : Worker) (session : String) (message : Message) : Worker :=
  { worker with transcripts := (session, worker.transcript session ++ [message]) ::
      worker.transcripts.filter (·.1 ≠ session) }

def updateJob (worker : Worker) (job : StartedJob) : Worker :=
  { worker with jobs := worker.jobs.map fun other => if other.id = job.id then job else other }

def createSession (worker : Worker) : Session × Worker :=
  let (agent, worker) := worker.freshId "asst"
  let (id, worker) := worker.freshId "thread"
  (⟨id, agent, none, []⟩, { worker with
    sessionsCreated := worker.sessionsCreated + 1, transcripts := (id, []) :: worker.transcripts })

/-- Makes an index, which may be one of those that fail. An index that fails has an id all the
same; that it failed shows only when its status is asked for. -/
def createIndex (worker : Worker) : String × Worker :=
  let id := "vs_" ++ Text.decimal (worker.lastIndex + 1)
  let fails := 0 < worker.indexFailures
  (id, { worker with
    lastIndex := worker.lastIndex + 1
    indexesCreated := worker.indexesCreated + 1
    indexFailures := worker.indexFailures - 1
    failingIndexes := if fails then id :: worker.failingIndexes else worker.failingIndexes })

/-- Takes note of a message of the user. -/
def sendMessage (worker : Worker) (session : Session) (text : String) : String × Worker :=
  let (id, worker) := worker.freshId "msg"
  (id, { worker.append session.id ⟨id, .user, text⟩ with sent := worker.sent ++ [text] })

def startJob (worker : Worker) (session : Session) : Except Failure String × Worker :=
  match worker.scripts with
  | [] => (.error (.unexpected "no scripted job left"), worker)
  | script :: scripts =>
    let (id, worker) := worker.freshId "run"
    (.ok id, { worker with
      scripts := scripts, jobs := ⟨id, session.id, script, 0, false⟩ :: worker.jobs })

/-- What a job that was polled shows. -/
def observe (worker : Worker) (job : StartedJob) : Snapshot × Worker :=
  match job.script with
  | .stall => (⟨.running, none⟩, worker)
  | .fail reason => (⟨.failed, some reason⟩, worker)
  | .complete polls text =>
    if job.polls < polls then (⟨.running, none⟩, worker)
    else if job.delivered then (⟨.completed, none⟩, worker)
    else
      -- the answer enters the conversation once: the job is marked before its message is written
      let (id, worker) := (worker.updateJob { job with delivered := true }).freshId "msg"
      (⟨.completed, none⟩, worker.append job.session ⟨id, .assistant, text⟩)

def pollJob (worker : Worker) (id : String) : Except Failure Snapshot × Worker :=
  let worker := { worker with polls := worker.polls + 1 }
  match worker.jobs.find? (·.id == id) with
  | none => (.error (.api 404 ("no run " ++ id)), worker)
  | some job =>
    -- the poll counts before the job is looked at, so one that takes a single poll is done at
    -- once
    let job := { job with polls := job.polls + 1 }
    let (snapshot, worker) := (worker.updateJob job).observe job
    (.ok snapshot, worker)

def perform (worker : Worker) : (call : Call) → call.Answer × Worker
  | .checkConnection =>
    (if worker.failsToConnect then .error (.api 401 "invalid credentials") else .ok (),
      { worker with connectionChecks := worker.connectionChecks + 1 })
  | .createSession _ =>
    let (session, worker) := worker.createSession
    (.ok session, worker)
  | .uploadArtifact artifact =>
    let (id, worker) := worker.freshId "file"
    (.ok id, { worker with uploads := worker.uploads ++ [artifact.name] })
  | .createIndex _ _ =>
    let (id, worker) := worker.createIndex
    (.ok id, worker)
  | .indexStatus index =>
    (.ok (if worker.failingIndexes.contains index then ⟨.failed, some "file processing error"⟩
      else ⟨.completed, none⟩), worker)
  | .attachIndex _ _ => (.ok (), worker)
  | .sendMessage session text =>
    let (id, worker) := worker.sendMessage session text
    (.ok id, worker)
  | .startJob session => worker.startJob session
  | .pollJob _ job => worker.pollJob job
  | .readTranscript session => (.ok (worker.transcript session.id), worker)
  | .teardownSession _ =>
    (if worker.failsToTearDown then .error (.api 500 "teardown failed") else .ok (),
      { worker with sessionsTornDown := worker.sessionsTornDown + 1 })
  | .purgeAll => (.ok 0, { worker with purges := worker.purges + 1 })

end Worker

end AzcRepair.Scripted
