import AzcRepair.Disk
import AzcRepair.Text.Numeral

/-!
# Failures of the worker

What can go wrong in dealing with the remote worker. A failure is transient when trying the same
request again may help: the network broke, the service is busy, or it has an error of its own.
-/

namespace AzcRepair.Worker

/-- Which part of an exchange the network failed in. -/
inductive Network.Stage where
  /-- The request cannot be put together; nothing is sent. -/
  | building
  /-- The connection broke before there was an answer. -/
  | sending
  /-- The answer is not what was asked for. -/
  | decoding
  deriving DecidableEq, Repr

/-- A failed exchange. -/
structure Network where
  stage : Network.Stage
  /-- What happened, and then its causes, the outermost first. -/
  what : String
  causes : List String
  deriving DecidableEq, Repr

/-- A failure of the worker, or on the way to it. -/
inductive Failure where
  | network (failure : Network)
  /-- The service answered with an error status. -/
  | api (status : Nat) (body : String)
  | jobFailed (job reason : String)
  | timedOut (job : String) (polls : UInt32)
  | indexFailed (index reason : String)
  | emptyResponse (session : String)
  | missingMessage (message : String)
  /-- No access token. -/
  | credentials (text : String)
  | unexpected (text : String)
  /-- An artifact cannot be read. -/
  | artifact (path : Path) (error : OsError)
  deriving DecidableEq, Repr

namespace Failure

def message : Failure → String
  | network failure => "Network error: " ++ failure.what
  | api status body => "Worker API returned " ++ Text.decimal status ++ ": " ++ body
  | jobFailed job reason => "Worker job " ++ job ++ " failed: " ++ reason
  | timedOut job polls =>
    "Worker job " ++ job ++ " did not finish after " ++ Text.decimal polls.toNat ++ " polls"
  | indexFailed index reason => "Index " ++ index ++ " failed to build: " ++ reason
  | emptyResponse session => "Session " ++ session ++ " produced no response text"
  | missingMessage message => "Triggering message " ++ message ++ " not found in transcript"
  | credentials text => "Failed to acquire an access token: " ++ text
  | unexpected text => "Unexpected worker response: " ++ text
  | artifact path error => "Failed to read artifact " ++ path.text ++ ": " ++ error.message

/-- The wording and then that of each cause. -/
def chain (failure : Failure) : List String :=
  failure.message :: match failure with
    | network failure => failure.what :: failure.causes
    | artifact _ error => [error.message]
    | _ => []

/-- The service is overloaded or has failed itself. -/
def isTransientStatus (status : Nat) : Bool :=
  -- too many requests, or a fault of the server
  status == 429 || (500 ≤ status && status < 600)

/-- Trying the same request again may help. A request that cannot be put together will not be put
together the next time either, and an answer that cannot be decoded was sent by a service that
works. -/
def isTransient : Failure → Bool
  | network failure => failure.stage = .sending
  | api status _ => isTransientStatus status
  | _ => false

end Failure

end AzcRepair.Worker
