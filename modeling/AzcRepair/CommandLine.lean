import AzcRepair.Text.Similarity
import AzcRepair.Text.Styled

/-!
# The command line

The program takes no arguments, since everything about a run is in the settings. It has the two
usual flags, and it refuses anything else. The first argument that is a flag or is wrong decides.
A refusal sets off the argument at fault, and is written without its styles.
-/

namespace AzcRepair.CommandLine

inductive Flag where
  /-- Print what the program is for. -/
  | help
  /-- Print the version. -/
  | version
  deriving DecidableEq, Repr

/-- Why a command line is refused. -/
inductive Misuse where
  /-- The program takes no such argument; a flag may be meant. -/
  | unexpected (argument : String) (meant : Option Flag)
  /-- The flag takes no value. -/
  | surplusValue (flag : Flag) (value : String)
  deriving DecidableEq, Repr

/-- What the command line asks for. -/
inductive Request where
  | run
  | help
  | version
  deriving DecidableEq, Repr

def Flag.all : List Flag :=
  [.help, .version]

def Flag.long : Flag → String
  | help => "help"
  | version => "version"

def Flag.letter : Flag → Char
  | help => 'h'
  | version => 'V'

def Flag.text (flag : Flag) : String :=
  "--" ++ flag.long

def Flag.request : Flag → Request
  | help => .help
  | version => .version

/-- How alike a name must be to that of a flag for the flag to be meant. -/
def alike : Float := 0.7

/-- The flag that a wrong name may stand for: the most similar one, if it is similar enough. -/
def meant? (name : String) : Option Flag :=
  let scored := (Flag.all.map fun flag => (flag, Text.similarity name flag.long)).filter
    fun candidate => alike < candidate.2
  (scored.foldl (fun best candidate =>
    match best with
    | none => some candidate
    -- of two names that are equally alike the later one is meant
    | some other => if candidate.2 < other.2 then best else some candidate) none).map (·.1)

/-- The letters of an argument that begins with one hyphen. Only the first one matters. -/
def ofLetter (c : Char) : Except Misuse Request :=
  match Flag.all.find? (·.letter == c) with
  | some flag => .ok flag.request
  | none => .error (.unexpected (String.ofList ['-', c]) none)

/-- A name behind two hyphens, and what stands behind an equals sign. -/
def ofLong (name : String) (value : Option String) : Except Misuse Request :=
  match Flag.all.find? (·.long == name), value with
  | some flag, none => .ok flag.request
  | some flag, some value => .error (.surplusValue flag value)
  | none, _ => .error (.unexpected ("--" ++ name) (meant? name))

/-- What the arguments ask for. Only the first argument counts: it is a request, or it is wrong,
and what stands behind it is not looked at. After a lone pair of hyphens no argument is a flag. -/
def read : List String → Except Misuse Request
  | [] => .ok .run
  | argument :: rest =>
    match argument.toList with
    | ['-', '-'] =>
      -- behind the pair anything is an argument, and the program takes none
      match rest with
      | [] => .ok .run
      | next :: _ => .error (.unexpected next none)
    | '-' :: '-' :: body =>
      let value := (body.dropWhile (· ≠ '=')).tail
      ofLong (String.ofList (body.takeWhile (· ≠ '=')))
        (if body.contains '=' then some (String.ofList value) else none)
    | '-' :: c :: _ => ofLetter c
    | _ => .error (.unexpected argument none)

def programName : String :=
  "azc-fixer"

def helpText : String :=
  "Repair AZC analyzer violations in client.tsp with a remote AI worker\n\n" ++
    "Usage: " ++ programName ++ "\n\n" ++
    "Options:\n" ++
    "  -h, --help     Print help\n" ++
    "  -V, --version  Print version\n"

def versionText : String :=
  programName ++ " 0.1.0\n"

/-- What a refused command line is answered with: the complaint, a hint, the usage and where to find
more. -/
def refusal (complaint hint usage : String) : String :=
  Text.unstyled ("error: " ++ complaint ++ "\n\n" ++ hint ++ "Usage: " ++ programName ++ usage ++
    "\n\nFor more information, try '--help'.\n")

def Misuse.message : Misuse → String
  | unexpected argument meant =>
    let complaint := "unexpected argument '" ++ Text.setOff argument ++ "' found"
    match meant with
    | none => refusal complaint "" ""
    | some flag =>
      refusal complaint ("  tip: a similar argument exists: '" ++ flag.text ++ "'\n\n")
        (" " ++ flag.text)
  | surplusValue flag value =>
    refusal ("unexpected value '" ++ Text.setOff value ++ "' for '" ++ flag.text ++
      "' found; no more were expected") "" (" " ++ flag.text)

/-- The exit status of a refused command line. -/
def misuseStatus : UInt8 := 2

end AzcRepair.CommandLine
