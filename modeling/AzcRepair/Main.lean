import AzcRepair.Program

/-!
# The command

The outer layer of the program: it answers the requests of `Program.run` with the disk, the clock
and the console. It has no network and starts no other programs, and says so when it is asked to.
-/

namespace AzcRepair.Main

/-- How the program's words name a refusal of the operating system. -/
def osError : IO.Error → OsError
  | .noFileOrDirectory .. => .notFound
  | .permissionDenied .. => .permissionDenied
  | .alreadyExists .. => .alreadyExists
  | .inappropriateType .. => .isADirectory
  | error => .other (toString error)

/-- Does something that the operating system may refuse. -/
def attempt {α : Type} (action : IO α) : IO (Except OsError α) := do
  try return .ok (← action)
  catch error => return .error (osError error)

/-- Something that is not refused gives true. -/
def succeeds (action : IO Unit) : IO Bool := do
  try
    action
    return true
  catch _ => return false

/-- Opens what is at a path; this works for a directory too. -/
def openAt (path : Path) : IO Unit :=
  discard (IO.FS.Handle.mk path.text .read)

/-- Reads from what is at a path; this works for a regular file only. -/
def readAt (path : Path) : IO Unit := do
  let handle ← IO.FS.Handle.mk path.text .read
  discard (handle.read 1)

/-- Answers the disk. Directories are neither listed nor archived. -/
def answerDisk : (call : Disk.Call) → IO (Disk.Answer call)
  | .present path => succeeds (openAt path)
  | .isFile path => succeeds (readAt path)
  -- a directory can be opened like a file, but nothing can be read from it
  | .isDirectory path => return (← succeeds (openAt path)) && !(← succeeds (readAt path))
  | .list _ => return .error (.other "Directories cannot be listed")
  | .readBytes path => attempt (IO.FS.readBinFile path.text)
  | .readText path => do
    match ← attempt (IO.FS.readBinFile path.text) with
    | .error error => return .error error
    | .ok bytes =>
      match String.fromUTF8? bytes with
      | some text => return .ok text
      | none => return .error .notText
  | .write path text => attempt (IO.FS.writeFile path.text text)
  | .makeDirectories path => attempt (IO.FS.createDirAll path.text)
  | .createNew path => attempt (discard (IO.FS.Handle.mk path.text .writeNew))
  | .archive .. => return .error (.other "Archives cannot be written")
  | .copy source target => attempt do
    IO.FS.writeBinFile target.text (← IO.FS.readBinFile source.text)

def words (text : String) : List String :=
  ((text.toList.splitOn ' ').map String.ofList).filter (· ≠ "")

/-- The present instant, from the time since the system started and the time of that start. -/
def now : IO Instant := do
  let lines := ((← IO.FS.readFile "/proc/stat").toList.splitOn '\n').map String.ofList
  -- the start is given in whole seconds, the time since then in hundredths
  let start := (lines.findSome? fun line =>
    match words line with
    | ["btime", seconds] => seconds.toNat?
    | _ => none).getD 0
  match ((words (← IO.FS.readFile "/proc/uptime")).headD "").toList.splitOn '.' with
  | [seconds, hundredths] =>
    let ms := 1000 * Text.natOfDigits seconds + 10 * Text.natOfDigits hundredths
    return (Instant.ofMillis ms).plusSeconds start
  | _ => return (Instant.ofMillis 0).plusSeconds start

def randomDigit : IO Char :=
  return Text.hexDigit (← IO.rand 0 15)

def logLine (format : Logging.Format) (time : Instant) (entry : Logging.Entry) : String :=
  match format with
  | .json =>
    (Json.object [("timestamp", .string time.iso), ("level", .string entry.level.label),
      ("fields", .object [("message", .string entry.text)])]).render
  | .pretty => "  " ++ time.iso ++ "  " ++ entry.level.label ++ " " ++ entry.text ++ "\n"

/-- Answers a request of the program. What this layer cannot do, it refuses in the way the program
would be refused by a machine that lacks it, so the program itself notices no difference. -/
def answer : (call : Program.Call) → IO (Program.Answer call)
  | .disk call => answerDisk call
  | .execute _ => return .error .permissionDenied
  | .send address _ _ => return .error (Http.Address.unreachable address)
  | .clock => now
  | .freshSuffix => return String.ofList (← (List.range 8).mapM fun _ => randomDigit)
  | .pause ms => IO.sleep (UInt32.ofNat ms)
  | .cancelled => return false
  | .log format entry => do
    IO.println (logLine format (← now) entry)
  | .print text => do
    IO.print text
    (← IO.getStdout).flush
  | .printError text => IO.eprint text

def environment : IO (List (String × String)) := do
  let handle ← IO.FS.Handle.mk "/proc/self/environ" .read
  let entries := (Text.decodeLossy (← handle.readBinToEnd)).toList.splitOn '\x00'
  return entries.filterMap fun entry =>
    match entry.dropWhile (· ≠ '=') with
    | _ :: value => some (String.ofList (entry.takeWhile (· ≠ '=')), String.ofList value)
    | [] => none

end AzcRepair.Main

/-- Runs the program with the arguments of the command line. -/
def main (arguments : List String) : IO UInt32 := do
  let start : AzcRepair.Program.Start := {
    arguments := arguments
    environment := ← AzcRepair.Main.environment
    workingDirectory := ⟨toString (← IO.currentDir)⟩ }
  let status ← (AzcRepair.Program.run start).handle AzcRepair.Main.answer
  return status.toUInt32
