import AzcRepair.Worker.Failure

/-!
# Requests over HTTP

A request as the client thinks of it: a method, a path below the endpoint, query parameters, the
bearer token and a body. A reply has a status and a body, which may break off while it is read.
-/

namespace AzcRepair.Http

/-- What is done with a resource. -/
inductive Method where
  | get
  | post
  | delete
  deriving DecidableEq, Repr

def Method.name : Method → String
  | get => "GET"
  | post => "POST"
  | delete => "DELETE"

structure Part where
  name : String
  /-- The name of the file, when the part is one. -/
  fileName : Option String
  content : ByteArray

/-- A file name between quotes: quotes, backslashes and line ends get a backslash. -/
def escapeFileName (name : String) : String :=
  String.ofList (name.toList.flatMap fun c =>
    if c = '\\' || c = '"' || c = '\r' || c = '\n' then ['\\', c] else [c])

def Part.header (part : Part) : String :=
  "Content-Disposition: form-data; name=\"" ++ part.name ++ "\"" ++
    match part.fileName with
    | some name => "; filename=\"" ++ escapeFileName name ++ "\""
    | none => ""

/-- What a request carries. -/
inductive Content where
  | nothing
  /-- A JSON text. -/
  | json (text : String)
  | form (parts : List Part)

/-- A request, without the token that it is sent with. -/
structure Request where
  method : Method
  /-- The path below the endpoint, without a leading slash. -/
  path : String
  query : List (String × String)
  content : Content

structure Reply where
  status : Nat
  /-- The text of the body; bytes that are not UTF-8 are replaced. -/
  body : Except Worker.Network String

namespace Reply

def isSuccess (reply : Reply) : Bool :=
  200 ≤ reply.status && reply.status < 300

def isUnauthorized (reply : Reply) : Bool :=
  reply.status = 401

def isNotFound (reply : Reply) : Bool :=
  reply.status = 404

/-- The failure behind a reply that is no success. -/
def failure (reply : Reply) : Worker.Failure :=
  .api reply.status (match reply.body with
    | .ok text => text
    -- the status still says what went wrong
    | .error _ => "Failed to read error response")

end Reply

end AzcRepair.Http
