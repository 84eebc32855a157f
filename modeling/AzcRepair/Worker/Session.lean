import AzcRepair.Path

/-!
# Sessions

A session is what the worker holds for one iteration: a conversation, the agent that works on it,
an index and the files that were uploaded for it.
-/

namespace AzcRepair.Worker

/-- The remote handles of one iteration. -/
structure Session where
  /-- The conversation. -/
  id : String
  agent : String
  /-- The index attached to the conversation, once there is one. -/
  index : Option String
  files : List String
  deriving DecidableEq, Repr

def Session.empty : Session :=
  ⟨"", "", none, []⟩

/-- Who wrote a message. -/
inductive Role where
  | user
  | assistant
  deriving DecidableEq, Repr

structure Message where
  id : String
  role : Role
  text : String
  deriving DecidableEq, Repr

/-- A local file and the name that the worker sees it under. -/
structure Artifact where
  name : String
  path : Path
  deriving DecidableEq, Repr

end AzcRepair.Worker
