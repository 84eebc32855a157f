import AzcRepair.Scripted.Shell.Arithmetic
import AzcRepair.Scripted.Shell.Pattern
import AzcRepair.Scripted.Shell.State

/-!
# What words stand for

A word of a script stands for any number of words. Its pieces give characters; those of a value that
is not quoted are split at separators, and what is then a pattern stands for the names that it
matches.

A part of the scripted shell, which stands in for other programs when a recorded run is evaluated
(`Scripted/Shell`); the program itself has no shell.
-/

namespace AzcRepair.Scripted.Shell

/-- A part of what a word stands for. -/
inductive Atom where
  /-- A character; one that comes from a value may separate words. -/
  | char (c : Char) (quoted fromValue : Bool)
  /-- There is a word here, even if it is empty. -/
  | present
  /-- There is no word here unless it has characters. -/
  | absent
  /-- The end of one word and the begin of another. -/
  | break_
  deriving DecidableEq, Repr

def valueAtoms (quoted : Bool) (text : String) : List Atom :=
  text.toList.map fun c => .char c quoted true

/-- The characters of atoms that make a single word. -/
def joined (atoms : List Atom) : List WordChar :=
  atoms.filterMap fun
    | .char c quoted _ => some (c, quoted)
    | .break_ => some (' ', true)
    | .present | .absent => none

/-- The text of atoms that make a single word. -/
def joinedText (atoms : List Atom) : String :=
  String.ofList ((joined atoms).map (·.1))

/-- A word that is being put together, its last character first. -/
structure Field where
  back : List WordChar := []
  isPresent : Bool := false
  isAbsent : Bool := false
  deriving DecidableEq, Repr

/-- The field as a word, unless there is none. -/
def Field.close (field : Field) : List (List WordChar) :=
  if field.back.isEmpty && (!field.isPresent || field.isAbsent) then [] else [field.back.reverse]

/-- The words that atoms make. A separator that is no blank ends a word even when it is empty. -/
def splitFields (separators : List Char) : Field → List Atom → List (List WordChar)
  | field, [] => field.close
  | field, .present :: rest => splitFields separators { field with isPresent := true } rest
  | field, .absent :: rest => splitFields separators { field with isAbsent := true } rest
  | field, .break_ :: rest => field.close ++ splitFields separators {} rest
  | field, .char c quoted fromValue :: rest =>
    if fromValue && !quoted && separators.contains c then
      -- a blank only ends a word that has begun, any other separator ends an empty one too
      let field := if [' ', '\t', '\n'].contains c then field else { field with isPresent := true }
      field.close ++ splitFields separators {} rest
    else splitFields separators { field with back := (c, quoted) :: field.back } rest

/-- The names in a directory that a pattern matches. A dot at the begin has to be written. -/
def matchingNames (tree : FileTree) (cwd : Route) (dir : String) (pattern : List WordChar) :
    List String :=
  match tree.findDirectory cwd ⟨if dir.isEmpty then "." else dir⟩ with
  | .ok (_, entries) =>
    let showsHidden := (pattern.head?.map (·.1)) = some '.'
    ([".", ".."] ++ entries.map (·.1)).filter fun name =>
      patternFits pattern name.toList && (showsHidden || !name.startsWith ".")
  | .error _ => []

/-- The paths that the segments of a word match, below a directory. -/
def matchingPaths (tree : FileTree) (cwd : Route) : String → List (List WordChar) → List String
  | _, [] => []
  | dir, [last] =>
    if isPattern last then (matchingNames tree cwd dir last).map (dir ++ ·)
    else
      let path := dir ++ String.ofList (last.map (·.1))
      if (tree.find cwd ⟨path⟩).toOption.isSome then [path] else []
  | dir, segment :: rest =>
    let names := if isPattern segment then matchingNames tree cwd dir segment
      else [String.ofList (segment.map (·.1))]
    names.flatMap fun name => matchingPaths tree cwd (dir ++ name ++ "/") rest

/-- The segments of a word between its slashes. -/
def segments : List WordChar → List (List WordChar)
  | [] => [[]]
  | (c, quoted) :: rest =>
    if c = '/' then [] :: segments rest
    else
      match segments rest with
      | [] => [[(c, quoted)]]
      | segment :: others => ((c, quoted) :: segment) :: others

/-- The words that a word with wildcards stands for: the paths that it matches, in order, or the
word itself. -/
def matches_ (tree : FileTree) (cwd : Route) (word : List WordChar) : List String :=
  let plain := String.ofList (word.map (·.1))
  if !isPattern word then [plain]
  else
    match matchingPaths tree cwd "" (segments word) with
    -- a pattern that matches nothing stands for itself, without its quotes
    | [] => [plain]
    | found => found.mergeSort fun a b => decide (a ≤ b)

/-- The atoms of a parameter. All arguments at once are words of their own. -/
def parameterAtoms (state : State) (name : String) (quoted : Bool) : List Atom :=
  match name, state.arguments with
  | "@", [] | "*", [] => if name = "@" || !quoted then [.absent] else []
  | "@", first :: rest =>
    rest.foldl (fun atoms argument => atoms ++ .break_ :: argumentAtoms argument)
      (argumentAtoms first)
  | "*", first :: rest =>
    if quoted then
      let separator := String.ofList (state.separators.take 1)
      valueAtoms true (separator.intercalate (first :: rest))
    else
      rest.foldl (fun atoms argument => atoms ++ .break_ :: argumentAtoms argument)
        (argumentAtoms first)
  | _, _ => valueAtoms quoted ((state.parameter? name).getD "")
where
  /-- The atoms of an argument. -/
  argumentAtoms (argument : String) : List Atom :=
    (if quoted then [.present] else []) ++ valueAtoms quoted argument

def isMissing (state : State) (name : String) (orEmpty : Bool) : Bool :=
  match state.parameter? name with
  | none => true
  -- a value that is there but empty counts as missing only for the uses with a colon
  | some value => orEmpty && value.isEmpty

def evaluate (text : String) : Act String := do
  match Arithmetic.evaluate (← get).valueOf? text with
  | .ok (value, values) =>
    modify fun state => values.foldr (fun v state => state.assign v.1 (integer v.2)) state
    return integer value
  | .error .divisionByZero =>
    fail ("arithmetic expression: division by zero: \"" ++ text ++ "\"")
  | .error .form => fail ("arithmetic expression: expecting primary: \"" ++ text ++ "\"")
  | .error .excess => fail ("arithmetic expression: expecting EOF: \"" ++ text ++ "\"")
where
  /-- A whole number in decimal. -/
  integer : Int → String
    | .ofNat n => Text.decimal n
    | .negSucc n => "-" ++ Text.decimal (n + 1)

/-- What a script writes, without the line ends behind it. Line ends in front and in between stay.
-/
def outputText (data : List UInt8) : String :=
  textOf (data.reverse.dropWhile (· = 10)).reverse

mutual

def expandPiece (capture : List Char → Act (List UInt8)) : Piece → Act (List Atom)
  | .char c quoted => return [.char c quoted false]
  | .quotes => return [.present]
  | .output script quoted => do
    return valueAtoms quoted (outputText (← capture script))
  | .number expression quoted => do
    let atoms ← expandPieces capture expression
    return valueAtoms quoted (← evaluate (joinedText atoms))
  | .parameter name use quoted => expandUse capture name quoted use

/-- The atoms of the use of a parameter. -/
def expandUse (capture : List Char → Act (List UInt8)) (name : String) (quoted : Bool) :
    Use → Act (List Atom)
  | .value => do
    let state ← get
    if state.options.contains 'u' && (state.parameter? name).isNone && name ≠ "@" && name ≠ "*" then
      fail (name ++ ": parameter not set")
    return parameterAtoms state name quoted
  | .length => do
    let value := ((← get).parameter? name).getD ""
    return valueAtoms quoted (Text.decimal value.utf8ByteSize)
  | .default orEmpty word => do
    let state ← get
    if isMissing state name orEmpty then expandPieces capture word
    else return parameterAtoms state name quoted
  | .assign orEmpty word => do
    if isMissing (← get) name orEmpty then
      let atoms ← expandPieces capture word
      modify fun state => state.assign name (joinedText atoms)
      return valueAtoms quoted (joinedText atoms)
    else return parameterAtoms (← get) name quoted
  | .demand orEmpty word => do
    if isMissing (← get) name orEmpty then
      let atoms ← expandPieces capture word
      let reason := if word.isEmpty then
          if orEmpty then "parameter not set or null" else "parameter not set"
        else joinedText atoms
      fail (name ++ ": " ++ reason)
    else return parameterAtoms (← get) name quoted
  | .alternative orEmpty word => do
    if isMissing (← get) name orEmpty then return []
    else expandPieces capture word
  | .trimFront longest pattern => do
    let pattern := joined (← expandPieces capture pattern)
    let value := ((← get).parameter? name).getD ""
    return valueAtoms quoted (String.ofList (trimFront longest pattern value.toList))
  | .trimBack longest pattern => do
    let pattern := joined (← expandPieces capture pattern)
    let value := ((← get).parameter? name).getD ""
    return valueAtoms quoted (String.ofList (trimBack longest pattern value.toList))

def expandPieces (capture : List Char → Act (List UInt8)) : List Piece → Act (List Atom)
  | [] => return []
  | piece :: rest => do
    let first ← expandPiece capture piece
    let others ← expandPieces capture rest
    return first ++ others

end

def expandWord (capture : List Char → Act (List UInt8)) (word : Word) : Act (List String) := do
  let atoms ← expandPieces capture word
  let state ← get
  return (splitFields state.separators {} atoms).flatMap (matches_ state.tree state.cwd)

def expandWords (capture : List Char → Act (List UInt8)) (words : List Word) :
    Act (List String) := do
  return (← words.mapM (expandWord capture)).flatten

/-- The text of a word that stays a single one. -/
def expandText (capture : List Char → Act (List UInt8)) (word : Word) : Act String := do
  return joinedText (← expandPieces capture word)

end AzcRepair.Scripted.Shell
