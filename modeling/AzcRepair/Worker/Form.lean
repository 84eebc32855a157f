import AzcRepair.Json.Decode
import AzcRepair.Worker.Job
import AzcRepair.Worker.Session

/-!
# Structured forms of worker data

How sessions, messages and observations are written as structured values, and how they are read from
them. What a value leaves out is empty.

The program never stores these; the forms are those in which recorded requests and answers are kept,
so that a run can be compared with a record of it.
-/

namespace AzcRepair.Worker

namespace Session

def toJson (session : Session) : Json :=
  .object [("id", .string session.id), ("agent_id", .string session.agent),
    ("index_id", .ofText? session.index), ("file_ids", .array (session.files.map .string))]

def ofJson? (value : Json) : Option Session := do
  let [id, agent, index, files] ←
    value.record? ["id", "agent_id", "index_id", "file_ids"] | none
  return {
    id := ← id.orDefault "" Json.string?
    agent := ← agent.orDefault "" Json.string?
    index := ← index.nullable Json.string?
    files := ← files.orDefault [] (Json.list? Json.string?) }

end Session

def Role.name : Role → String
  | user => "user"
  | assistant => "assistant"

/-- The role of that name; whoever is not the user is the assistant. -/
def Role.ofName (name : String) : Role :=
  if name = Role.user.name then .user else .assistant

namespace Message

def toJson (message : Message) : Json :=
  .object [("id", .string message.id), ("role", .string message.role.name),
    ("text", .string message.text)]

def ofJson? (value : Json) : Option Message := do
  let [id, role, text] ← value.record? ["id", "role", "text"] | none
  return {
    id := ← id.orDefault "" Json.string?
    role := .ofName (← role.orDefault "" Json.string?)
    text := ← text.orDefault "" Json.string? }

end Message

namespace Snapshot

def toJson (snapshot : Snapshot) : Json :=
  .object [("status", .string snapshot.status.name), ("last_error", .ofText? snapshot.reason)]

def ofJson? (value : Json) : Option Snapshot := do
  let [status, reason] ← value.record? ["status", "last_error"] | none
  return {
    status := ← status.required fun value => value.string?.bind Status.ofName?
    reason := ← reason.nullable Json.string? }

end Snapshot

end AzcRepair.Worker
