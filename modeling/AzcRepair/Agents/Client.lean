import AzcRepair.Access.Cache
import AzcRepair.Access.Source
import AzcRepair.Backoff
import AzcRepair.Http.Address
import AzcRepair.Json.Reader
import AzcRepair.Json.Writer
import AzcRepair.Procedure

/-!
# The client of the agents service

The client sends requests with the current token, tries transient failures again, and drops the
token when the service rejects it. It asks the world around it to send requests, for tokens, the
time and waits, and for the bytes of files; the token it keeps is passed from one request to the
next.
-/

namespace AzcRepair.Agents

/-- What the client works with. -/
structure Client where
  /-- The address that paths are below, without a slash at its end. -/
  endpoint : String
  apiVersion : String
  source : Access.Source
  /-- Seconds before its expiry at which a token is replaced. -/
  refreshMargin : UInt32
  model : String
  agentName : String
  backoff : Backoff
  /-- The most pages that are read of one list. A program asks for pages as long as there is another
  one, without a bound; with this one, which no list that ends comes near, reading a list is a
  recursion. What is proved of lists holds for every budget. -/
  pageBudget : Nat := UInt64.size
  deriving DecidableEq, Repr

namespace Client

/-- The client that the settings describe, with this source of tokens. -/
def ofSource (worker : Settings.Worker) (source : Access.Source) : Client where
  -- slashes at the end would be doubled by the one in front of a path
  endpoint := String.ofList (worker.endpoint.toList.reverse.dropWhile (· = '/')).reverse
  apiVersion := worker.apiVersion
  source := source
  refreshMargin := worker.auth.refreshMargin
  model := worker.model
  agentName := worker.agentName
  backoff := .ofSettings worker.retry

/-- The client that the settings describe, unless they ask for a key and give none. -/
def ofSettings? (worker : Settings.Worker) : Option Client :=
  (Access.Source.ofSettings? worker).map (ofSource worker)

def describe (client : Client) : String :=
  "FoundryAgentsClient \x7b endpoint: " ++ Text.quoted client.endpoint ++
    ", api_version: " ++ Text.quoted client.apiVersion ++
    ", tokens: TokenCache \x7b source: " ++ Text.quoted client.source.name ++
    ", refresh_margin: TimeDelta \x7b secs: " ++ Text.decimal client.refreshMargin.toNat ++
    ", nanos: 0 \x7d, .. \x7d, model: " ++ Text.quoted client.model ++ ", .. \x7d"

/-- What the client asks of the world. -/
inductive Call where
  /-- Send a request with this token. -/
  | send (request : Http.Request) (token : String)
  /-- Ask the source for a token. -/
  | fetchToken
  /-- The present instant. -/
  | clock
  /-- Wait so many milliseconds. -/
  | pause (ms : Nat)
  | fileContent (path : Path)

@[reducible] def Answer : Call → Type
  | .send .. => Except Worker.Network Http.Reply
  | .fetchToken => Except Worker.Failure Access.Token
  | .clock => Instant
  | .pause _ => Unit
  | .fileContent _ => Except OsError ByteArray

/-- A part of what the client does; the state is the token that is kept. -/
abbrev Act (α : Type) := StateT Access.Cache (Procedure Call Answer) α

def ask (call : Call) : Act (Answer call) :=
  StateT.lift (Procedure.ask call)

/-! ### A single exchange

One attempt at a request: a token, the request put together, and what the service sends back. Any
of these may fail, and only some of the failures are worth another attempt. -/

def address (client : Client) (request : Http.Request) : Except Http.Address.Problem Http.Address :=
  Http.Address.read (client.endpoint ++ "/" ++ request.path) request.query

/-- The token can be part of a header. -/
def isHeaderText (token : String) : Bool :=
  token.toList.all fun c => c = '\t' || (0x20 ≤ c.toNat && c.toNat ≠ 0x7F)

/-- A request that cannot be put together. -/
def unbuildable (address : Option String) (cause : String) : Worker.Network :=
  ⟨.building, "builder error" ++ (address.map (" for url (" ++ · ++ ")")).getD "", [cause]⟩

def prepare (client : Client) (request : Http.Request) (token : String) :
    Except Worker.Network Unit :=
  match client.address request with
  | .error problem => .error (unbuildable problem.address? problem.message)
  | .ok _ =>
    -- the address is looked at first, so its problem is reported when both are wrong
    if isHeaderText token then .ok () else .error (unbuildable none "failed to parse header value")

def bearer (client : Client) : Act (Except Worker.Failure String) :=
  -- a token that is still good is taken from the cache
  StateT.mk fun cache =>
    Access.Cache.bearer (Procedure.ask Call.clock) (Procedure.ask Call.fetchToken)
      client.refreshMargin cache

/-- Sends a request with the current token. Nothing is sent without a token, nor when the address
or the header cannot be put together. -/
def exchange (client : Client) (request : Http.Request) :
    Act (Except Worker.Failure Http.Reply) := do
  match ← client.bearer with
  | .error failure => return .error failure
  | .ok token =>
    match client.prepare request token with
    | .error failure => return .error (.network failure)
    | .ok () =>
      match ← ask (.send request token) with
      | .error failure => return .error (.network failure)
      | .ok reply => return .ok reply

/-- Refuses a reply that is no success; a rejected token is dropped. The next request then asks
the source for another one. -/
def accept (reply : Http.Reply) : Act (Except Worker.Failure (Except Worker.Network String)) := do
  if reply.isSuccess then return .ok reply.body
  -- only this status says that the token is at fault
  if reply.isUnauthorized then set Access.Cache.empty
  return .error reply.failure

/-- An answer that is not what was asked for. -/
def undecodable (cause : String) : Worker.Failure :=
  .network ⟨.decoding, "error decoding response body", [cause]⟩

/-- The answer in a body. A body that is read but is not what was asked for is told apart from one
that cannot be read, and the fault of the latter is reported with its place. -/
def decode {α : Type} (ofJson? : Json → Option α) (body : String) : Except Worker.Failure α :=
  -- the lenient reader decides, for the decoder may not look at the part that is faulty
  match (Json.readAnything body).bind ofJson? with
  | some value => .ok value
  | none =>
    .error (undecodable (match Json.read body with
      | .error fault => fault.message body.toList
      | .ok _ => "unexpected shape"))

/-- One attempt at a request whose answer is decoded. -/
def attempt {α : Type} (client : Client) (ofJson? : Json → Option α) (request : Http.Request) :
    Act (Except Worker.Failure α) := do
  match ← client.exchange request with
  | .error failure => return .error failure
  | .ok reply =>
    match ← accept reply with
    | .error failure => return .error failure
    -- the service accepted the request, but its answer broke off
    | .ok (.error failure) => return .error (.network failure)
    | .ok (.ok body) => return decode ofJson? body

/-- One attempt at a deletion. A resource that is not there counts as deleted, so a deletion may
be repeated without harm. -/
def attemptDelete (client : Client) (request : Http.Request) :
    Act (Except Worker.Failure Unit) := do
  match ← client.exchange request with
  | .error failure => return .error failure
  | .ok reply =>
    if reply.isNotFound then return .ok ()
    match ← accept reply with
    | .error failure => return .error failure
    | .ok _ => return .ok ()

def wait (ms : Nat) : Act Unit :=
  ask (.pause ms)

/-! ### Requests

Attempts are repeated by the policy of the client. Each attempt asks for the token again, so one
that follows a rejected token has a new one. -/

/-- A request; every one names the version of the interface. -/
def request (client : Client) (method : Http.Method) (path : String)
    (query : List (String × String)) (content : Http.Content) : Http.Request where
  method := method
  path := path
  query := ("api-version", client.apiVersion) :: query
  content := content

/-- Sends a request and decodes the answer; transient failures are tried again. -/
def send {α : Type} (client : Client) (ofJson? : Json → Option α) (request : Http.Request) :
    Act (Except Worker.Failure α) :=
  client.backoff.run wait (client.attempt ofJson? request)

def post {α : Type} (client : Client) (ofJson? : Json → Option α) (path : String) (body : Json) :
    Act (Except Worker.Failure α) :=
  client.send ofJson? (client.request .post path [] (.json body.render))

def get {α : Type} (client : Client) (ofJson? : Json → Option α) (path : String) :
    Act (Except Worker.Failure α) :=
  client.send ofJson? (client.request .get path [] .nothing)

/-- Deletes a resource; transient failures are tried again. -/
def delete (client : Client) (path : String) : Act (Except Worker.Failure Unit) :=
  client.backoff.run wait (client.attemptDelete (client.request .delete path [] .nothing))

end Client

end AzcRepair.Agents
