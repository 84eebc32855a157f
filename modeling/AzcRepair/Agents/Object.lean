import AzcRepair.Json.Decode
import AzcRepair.Json.Reader
import AzcRepair.Worker.Job
import AzcRepair.Worker.Session

/-!
# Objects of the agents service

The service answers with JSON objects. Only the members that matter are read, and unknown ones are
passed over.
-/

namespace AzcRepair.Agents

/-- Any object; only its id matters. -/
structure Handle where
  id : String
  deriving DecidableEq, Repr

def Handle.ofJson? (value : Json) : Option Handle := do
  let [id] ← value.fields? [["id"]] | none
  return ⟨← id.required Json.string?⟩

/-- A page of a list. Its items are decoded one by one, and an item that cannot be decoded makes
the page unreadable. -/
structure Page (α : Type) where
  items : List α
  hasMore : Bool
  /-- The id of the last item. -/
  lastId : Option String
  deriving DecidableEq, Repr

def Page.ofJson? {α : Type} (item : Json → Option α) (value : Json) : Option (Page α) := do
  let [data, more, last] ← value.fields? [["data"], ["has_more"], ["last_id"]] | none
  return {
    items := ← data.required (Json.list? item)
    hasMore := ← more.orDefault false Json.bool?
    lastId := ← last.nullable Json.string? }

/-- An index over files. -/
structure Index where
  id : String
  status : String
  deriving DecidableEq, Repr

namespace Index

def ofJson? (value : Json) : Option Index := do
  let [id, status] ← value.fields? [["id"], ["status"]] | none
  return ⟨← id.required Json.string?, ← status.required Json.string?⟩

def snapshot (index : Index) : Except Worker.Failure Worker.Snapshot :=
  match Worker.Status.ofRemote? index.status with
  | none => .error (.unexpected ("unknown vector store status `" ++ index.status ++ "`"))
  | some .failed => .ok ⟨.failed, some ("vector store " ++ index.status)⟩
  | some status => .ok ⟨status, none⟩

end Index

/-- Why a job failed. -/
structure JobError where
  code : Option String
  message : Option String
  deriving DecidableEq, Repr

namespace JobError

def ofJson? (value : Json) : Option JobError := do
  let [code, message] ← value.fields? [["code"], ["message"]] | none
  return ⟨← code.nullable Json.string?, ← message.nullable Json.string?⟩

/-- The reason in words: the code, the message, or both. -/
def reason (error : JobError) : String :=
  match error.code, error.message with
  | some code, some message => code ++ ": " ++ message
  | some code, none => code
  | none, some message => message
  -- an error that says nothing is still one
  | none, none => "unknown error"

end JobError

/-- A job as the service shows it. -/
structure JobObject where
  id : String
  status : String
  lastError : Option JobError
  deriving DecidableEq, Repr

namespace JobObject

def ofJson? (value : Json) : Option JobObject := do
  let [id, status, error] ← value.fields? [["id"], ["status"], ["last_error"]] | none
  return {
    id := ← id.required Json.string?
    status := ← status.required Json.string?
    lastError := ← error.nullable JobError.ofJson? }

def snapshot (job : JobObject) : Except Worker.Failure Worker.Snapshot :=
  match Worker.Status.ofRemote? job.status with
  | none => .error (.unexpected ("unknown run status `" ++ job.status ++ "`"))
  | some .failed =>
    .ok ⟨.failed, some ((job.lastError.map JobError.reason).getD ("run " ++ job.status))⟩
  | some status => .ok ⟨status, none⟩

end JobObject

structure Block where
  kind : String
  text : Option String
  deriving DecidableEq, Repr

namespace Block

/-- The text of a block, from its structured form. -/
def text? (value : Json) : Option String := do
  let [text] ← value.fields? [["value"]] | none
  text.required Json.string?

def ofJson? (value : Json) : Option Block := do
  let [kind, text] ← value.fields? [["type"], ["text"]] | none
  return ⟨← kind.required Json.string?, ← text.nullable text?⟩

end Block

/-- A message as the service shows it. -/
structure MessageObject where
  id : String
  role : String
  blocks : List Block
  deriving DecidableEq, Repr

namespace MessageObject

def ofJson? (value : Json) : Option MessageObject := do
  let [id, role, blocks] ← value.fields? [["id"], ["role"], ["content"]] | none
  return {
    id := ← id.required Json.string?
    role := ← role.required Json.string?
    blocks := ← blocks.orDefault [] (Json.list? Block.ofJson?) }

/-- The texts of the text blocks, one below the other. -/
def text (message : MessageObject) : String :=
  "\n".intercalate ((message.blocks.filter (·.kind == "text")).filterMap (·.text))

/-- The message of a conversation. Whoever is not the user is the assistant. -/
def toMessage (message : MessageObject) : Worker.Message where
  id := message.id
  -- the service may name other roles, and none of them is the user
  role := if message.role = "user" then .user else .assistant
  text := message.text

end MessageObject

end AzcRepair.Agents
