import AzcRepair.Agents.Listing
import AzcRepair.Json.Writer
import AzcRepair.Worker.Service

/-!
# The worker behind the agents service

How each request to the worker is carried out with the agents service. A session is an agent and a
thread; artifacts become files, and an index is a vector store that is attached to the thread. What
a request acquired and cannot hand out is deleted again.
-/

namespace AzcRepair.Agents.Client

open Worker (Session Artifact Message Snapshot Failure)

def threadPath (id : String) : String := "threads/" ++ id

def agentPath (id : String) : String := "assistants/" ++ id

def indexPath (id : String) : String := "vector_stores/" ++ id

def filePath (id : String) : String := "files/" ++ id

def emptyBody : Json := .object []

/-- Makes a thread, deletes it again and thereby proves that the service can be used. -/
def checkConnection (client : Client) : Act (Except Failure Unit) := do
  match ← client.post Handle.ofJson? "threads" emptyBody with
  | .error failure => return .error failure
  | .ok thread =>
    -- whether the thread can be deleted proves nothing
    discard (client.delete (threadPath thread.id))
    return .ok ()

def agentBody (client : Client) (instructions : String) : Json :=
  .object [("model", .string client.model), ("name", .string client.agentName),
    ("instructions", .string instructions),
    ("tools", .array [.object [("type", .string "file_search")]])]

/-- Makes an agent and a thread. An agent that gets no thread is deleted again, since nobody would
learn of it; the failure of the thread is the one that is reported. -/
def createSession (client : Client) (instructions : String) : Act (Except Failure Session) := do
  match ← client.post Handle.ofJson? "assistants" (client.agentBody instructions) with
  | .error failure => return .error failure
  | .ok agent =>
    match ← client.post Handle.ofJson? "threads" emptyBody with
    | .error failure =>
      -- the deletion may fail as well, which changes nothing about the answer
      discard (client.delete (agentPath agent.id))
      return .error failure
    | .ok thread => return .ok ⟨thread.id, agent.id, none, []⟩

/-- The form that a file is uploaded with. -/
def uploadForm (name : String) (content : ByteArray) : Http.Content :=
  .form [⟨"purpose", none, "assistants".toUTF8⟩, ⟨"file", some name, content⟩]

def uploadArtifact (client : Client) (artifact : Artifact) : Act (Except Failure String) := do
  -- the file is read when it is uploaded, so it is the present one
  match ← ask (.fileContent artifact.path) with
  | .error error => return .error (.artifact artifact.path error)
  | .ok content =>
    let file ← client.send Handle.ofJson?
      (client.request .post "files" [] (uploadForm artifact.name content))
    return file.map (·.id)

def createIndex (client : Client) (name : String) (files : List String) :
    Act (Except Failure String) := do
  let index ← client.post Index.ofJson? "vector_stores"
    (.object [("name", .string name), ("file_ids", .array (files.map .string))])
  return index.map (·.id)

def indexStatus (client : Client) (index : String) : Act (Except Failure Snapshot) := do
  let index ← client.get Index.ofJson? (indexPath index)
  return index.bind Index.snapshot

/-- What a thread is told about its index. -/
def attachBody (index : String) : Json :=
  .object [("tool_resources",
    .object [("file_search", .object [("vector_store_ids", .array [.string index])])])]

/-- Attaches an index to the thread of a session. -/
def attachIndex (client : Client) (session : Session) (index : String) :
    Act (Except Failure Unit) := do
  let thread ← client.post Handle.ofJson? (threadPath session.id) (attachBody index)
  return thread.map fun _ => ()

def sendMessage (client : Client) (session : Session) (text : String) :
    Act (Except Failure String) := do
  let message ← client.post Handle.ofJson? (threadPath session.id ++ "/messages")
    (.object [("role", .string "user"), ("content", .string text)])
  return message.map (·.id)

/-- Has the agent work on the thread. -/
def startJob (client : Client) (session : Session) : Act (Except Failure String) := do
  let job ← client.post JobObject.ofJson? (threadPath session.id ++ "/runs")
    (.object [("assistant_id", .string session.agent)])
  return job.map (·.id)

def pollJob (client : Client) (session : Session) (job : String) :
    Act (Except Failure Snapshot) := do
  let job ← client.get JobObject.ofJson? (threadPath session.id ++ "/runs/" ++ job)
  return job.bind JobObject.snapshot

def readTranscript (client : Client) (session : Session) : Act (Except Failure (List Message)) := do
  let messages ← client.list MessageObject.ofJson? (threadPath session.id ++ "/messages")
    [("order", "asc")]
  return messages.map (List.map MessageObject.toMessage)

/-- What a session holds: its thread, its agent, its index and its files, in this order. -/
def heldPaths (session : Session) : List String :=
  -- an empty session has no thread and no agent
  (if session.id = "" then [] else [threadPath session.id]) ++
    (if session.agent = "" then [] else [agentPath session.agent]) ++
    (session.index.map indexPath).toList ++ session.files.map filePath

/-- Deletes resources one after the other, past failures; the first failure is the answer. What
can be deleted is deleted, even if the service refuses one of the deletions. -/
def deleteAll (client : Client) : List String → Act (Except Failure Unit)
  | [] => return .ok ()
  | path :: rest => do
    let first ← client.delete path
    -- the others are deleted before the first failure is reported
    let others ← client.deleteAll rest
    return match first with
      | .error failure => .error failure
      | .ok () => others

def teardownSession (client : Client) (session : Session) : Act (Except Failure Unit) :=
  client.deleteAll (heldPaths session)

/-- Deletes the resources of one kind with these ids and counts the successes. -/
def purgeIds (client : Client) (kind : String) : List Handle → Act Nat
  | [] => return 0
  | handle :: rest => do
    let result ← client.delete (kind ++ "/" ++ handle.id)
    let count ← client.purgeIds kind rest
    return match result with
      | .ok () => count + 1
      -- a deletion that fails is passed over
      | .error _ => count

/-- The kinds of resources that runs leave behind. -/
def kinds : List String :=
  ["threads", "assistants", "vector_stores", "files"]

/-- Deletes all resources of some kinds and counts the successes. A list that cannot be read ends
it, and the kinds behind it are not looked at. -/
def purgeKinds (client : Client) : List String → Act (Except Failure Nat)
  | [] => return .ok 0
  | kind :: rest => do
    match ← client.list Handle.ofJson? kind [] with
    | .error failure => return .error failure
    | .ok handles =>
      let count ← client.purgeIds kind handles
      match ← client.purgeKinds rest with
      | .error failure => return .error failure
      | .ok others => return .ok (count + others)

def purgeAll (client : Client) : Act (Except Failure Nat) :=
  client.purgeKinds kinds

def perform (client : Client) : (call : Worker.Call) → Act call.Answer
  | .checkConnection => client.checkConnection
  | .createSession instructions => client.createSession instructions
  | .uploadArtifact artifact => client.uploadArtifact artifact
  | .createIndex name files => client.createIndex name files
  | .indexStatus index => client.indexStatus index
  | .attachIndex session index => client.attachIndex session index
  | .sendMessage session text => client.sendMessage session text
  | .startJob session => client.startJob session
  | .pollJob session job => client.pollJob session job
  | .readTranscript session => client.readTranscript session
  | .teardownSession session => client.teardownSession session
  | .purgeAll => client.purgeAll

end AzcRepair.Agents.Client
