import AzcRepair.CommandLine
import AzcRepair.Logging
import AzcRepair.Outcome.Summary
import AzcRepair.Run.Served
import AzcRepair.Settings.Load
import AzcRepair.Toolchain.Tools

/-!
# The program

The whole command, from its arguments to its exit status: it reads the command line, loads the
settings, and repairs the project in the working directory with the toolchain and the agents service
that the settings name. What it needs of its surroundings is listed in `Program.Call`.
-/

namespace AzcRepair.Program

/-- What the program is started with. -/
structure Start where
  arguments : List String
  /-- The variables of the environment, by name. -/
  environment : List (String × String)
  workingDirectory : Path
  deriving DecidableEq, Repr

/-- A request of the program to its surroundings. -/
inductive Call where
  | disk (call : Disk.Call)
  | execute (command : Execution.Command)
  /-- Send a request to an address with this token. -/
  | send (address : String) (request : Http.Request) (token : String)
  /-- The present instant. -/
  | clock
  /-- Eight characters that no other index name has. -/
  | freshSuffix
  /-- Wait so many milliseconds. -/
  | pause (ms : Nat)
  /-- Has the run been asked to stop? -/
  | cancelled
  | log (format : Logging.Format) (entry : Logging.Entry)
  | print (text : String)
  | printError (text : String)

@[reducible] def Answer : Call → Type
  | .disk call => Disk.Answer call
  | .execute _ => Except OsError Execution.Result
  | .send .. => Except Worker.Network Http.Reply
  | .clock => Instant
  | .freshSuffix => String
  | .cancelled => Bool
  | .pause _ | .log .. | .print _ | .printError _ => Unit

abbrev Act (α : Type) := Procedure Call Answer α

def ask (call : Call) : Act (Answer call) :=
  Procedure.ask call

/-- Asks the disk for everything that a procedure needs of it. -/
def onDisk {α : Type} (procedure : Procedure Disk.Call Disk.Answer α) : Act α :=
  procedure.embed Call.disk fun _ answer => answer

/-! ### The log

What the program logs beside its printed report. An entry below the level is not even asked of the
surroundings, so a quiet log leaves fewer requests behind. -/

structure Log where
  /-- Entries below it are left out. -/
  level : Logging.Level
  format : Logging.Format
  deriving DecidableEq, Repr

namespace Log

def ofSettings (log : Settings.Log) : Log where
  level := (Logging.Level.ofName? log.level).getD .info
  format := (Logging.Format.ofName? log.format).getD .pretty

def write (log : Log) (level : Logging.Level) (text : String) : Act Unit :=
  if log.level.rank ≤ level.rank then ask (.log log.format ⟨level, text⟩) else pure ()

end Log

/-! ### The toolchain and the worker

Each request of a run is answered by a request of the program, or by several: a call of the worker
becomes the requests of the client, its waits and its fetches of a token. Nothing is decided here;
these are the answers that the parts of a run were written to ask for. -/

/-- What a program works with once it has its settings. -/
structure Equipment where
  log : Log
  tools : Toolchain.Tools
  client : Agents.Client

namespace Equipment

/-- Asks the source of the client for a token. -/
def fetchToken (equipment : Equipment) : Act (Except Worker.Failure Access.Token) := do
  match ← equipment.client.source.fetch fun command => ask (.execute command) with
  | .error failure => return .error (.credentials failure.message)
  | .ok token =>
    equipment.log.write .debug "access token acquired"
    return .ok token

def addressText (equipment : Equipment) (request : Http.Request) : String :=
  match equipment.client.address request with
  | .ok address => address.text
  | .error _ => ""

/-- Answers what the client asks for. Sending is the one request that goes out; what it asks for
besides is a token, the time, a pause and the bytes of a file. -/
def answerClient (equipment : Equipment) :
    (call : Agents.Client.Call) → Act (Agents.Client.Answer call)
  | .send request token => ask (.send (equipment.addressText request) request token)
  | .fetchToken => equipment.fetchToken
  | .clock => ask .clock
  | .pause ms => do
    -- a pause of the client is always one before a retry
    equipment.log.write .warn "transient worker API error, retrying"
    ask (.pause ms)
  | .fileContent path => ask (.disk (.readBytes path))

def answerTools : (call : Toolchain.Tools.Call) → Act (Toolchain.Tools.Answer call)
  | .run command => ask (.execute command)
  | .disk call => ask (.disk call)

def withTools {α : Type} (act : Toolchain.Tools.Act α) : Act (Except Toolchain.Failure α) :=
  act.run.handle answerTools

/-- Answers what a run asks for itself. A run that is served asks nothing of the worker; if it did,
the client would answer without a token that it keeps. -/
def answerOwn (equipment : Equipment) : (call : Run.Call) → Act (Run.Answer call)
  | .compile => withTools equipment.tools.compile
  | .prepareArtifacts => withTools equipment.tools.prepareArtifacts
  | .build => withTools equipment.tools.build
  | .worker call =>
    Prod.fst <$> ((equipment.client.perform call).run Access.Cache.empty).handle
      equipment.answerClient
  | .disk call => ask (.disk call)
  | .clock => ask .clock
  | .freshSuffix => ask .freshSuffix
  | .pause ms => ask (.pause ms)
  | .cancelled => ask .cancelled

def answerServed (equipment : Equipment) :
    (call : Run.Served.Call) → Act (Run.Served.Answer call)
  | .service call => equipment.answerClient call
  | .own call => equipment.answerOwn call

/-- Carries out a run with the toolchain and the client. -/
def carryOut (equipment : Equipment) (run : Run) : Act (Except Run.Failure Outcome) :=
  (run.served equipment.client).handle equipment.answerServed

end Equipment

/-! ### From start to end

A program that is asked to run ends in one of three ways: with the report and the status of an
outcome, with a complaint and the status of a failure, or broken off. Settings that do not load
end it before anything is logged, as no log is set up by then. -/

/-- The exit status of a program that failed. -/
def failureStatus : UInt8 := 1

/-- Says that the program failed, and why. -/
def complain (chain : List String) : Act UInt8 := do
  ask (.printError ("Error: " ++ ": ".intercalate chain ++ "\n"))
  return failureStatus

/-- The exit status of a program that was broken off. -/
def panicStatus : UInt8 := 101

/-- Breaks the program off: no error is reported, and nothing is logged. The report of a panic also
names the place in the program where it came up, which is left out here. -/
def breakOff (cause : Run.Panic) : Act UInt8 := do
  ask (.printError (cause.message ++ "\n"))
  return panicStatus

def runWith (settings : Settings) : Act UInt8 := do
  let log := Log.ofSettings settings.logging
  log.write .info "logger initialized"
  match Agents.Client.ofSettings? settings.worker with
  | none =>
    log.write .error "run failed"
    complain [Access.Source.noKeyMessage]
  | some client =>
    log.write .info "worker client configured"
    let equipment : Equipment :=
      ⟨log, .ofSettings settings.workspace settings.toolchain, client⟩
    match ← equipment.carryOut (.ofSettings settings) with
    | .ok outcome =>
      ask (.print (outcome.summary ++ "\n"))
      return outcome.exitStatus
    -- a panic passes over the log and the complaint that any other failure ends with
    | .error (.panic cause) => breakOff cause
    | .error failure =>
      log.write .error "run failed"
      complain failure.chain

/-- The program; its value is its exit status. -/
def run (start : Start) : Act UInt8 := do
  match CommandLine.read start.arguments with
  | .error misuse =>
    ask (.printError misuse.message)
    return CommandLine.misuseStatus
  | .ok .help =>
    ask (.print CommandLine.helpText)
    return 0
  | .ok .version =>
    ask (.print CommandLine.versionText)
    return 0
  | .ok .run =>
    match ← onDisk (Settings.load start.workingDirectory Settings.directory start.environment) with
    | .error failure => complain failure.chain
    | .ok settings => runWith settings

end AzcRepair.Program
