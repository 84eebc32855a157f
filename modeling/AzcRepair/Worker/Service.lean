import AzcRepair.Procedure
import AzcRepair.Worker.Job
import AzcRepair.Worker.Session

/-!
# The service of the worker

What can be asked of the remote worker. The order of requests, the waiting and the giving up are not
its business; they belong to the conversations built on it.
-/

namespace AzcRepair.Worker

/-- A request to the service. Each of them is one step of a conversation and may take several
requests over the network, which the client of the service knows about. -/
inductive Call where
  /-- Prove that the service can be used. -/
  | checkConnection
  /-- Make an agent with these instructions and a conversation; the session has no files yet. -/
  | createSession (instructions : String)
  | uploadArtifact (artifact : Artifact)
  /-- Make an index over files. -/
  | createIndex (name : String) (files : List String)
  | indexStatus (index : String)
  | attachIndex (session : Session) (index : String)
  | sendMessage (session : Session) (text : String)
  | startJob (session : Session)
  | pollJob (session : Session) (job : String)
  /-- All messages of the conversation, the oldest first. -/
  | readTranscript (session : Session)
  /-- Delete everything that the session holds. -/
  | teardownSession (session : Session)
  /-- Delete what earlier runs left, and say how much it was. -/
  | purgeAll
  deriving DecidableEq, Repr

def Call.name : Call → String
  | checkConnection => "check_connection"
  | createSession _ => "create_session"
  | uploadArtifact _ => "upload_artifact"
  | createIndex .. => "create_index"
  | indexStatus _ => "index_status"
  | attachIndex .. => "attach_index"
  | sendMessage .. => "send_message"
  | startJob _ => "start_job"
  | pollJob .. => "poll_job"
  | readTranscript _ => "read_transcript"
  | teardownSession _ => "teardown_session"
  | purgeAll => "purge_all"

/-- What a request is answered with when it succeeds. -/
@[reducible] def Call.Result : Call → Type
  | checkConnection | attachIndex .. | teardownSession _ => Unit
  | createSession _ => Session
  | uploadArtifact _ | createIndex .. | sendMessage .. | startJob _ => String
  | indexStatus _ | pollJob .. => Snapshot
  | readTranscript _ => List Message
  | purgeAll => Nat

@[reducible] def Call.Answer (call : Call) : Type :=
  Except Failure call.Result

end AzcRepair.Worker
