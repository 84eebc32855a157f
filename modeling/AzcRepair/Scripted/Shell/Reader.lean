import AzcRepair.Scripted.Shell.Token

/-!
# Reading scripts

Commands are read from tokens, one line at a time, so that a line which cannot be read does not keep
those in front of it from being run.

A part of the scripted shell, which stands in for other programs when a recorded run is evaluated
(`Scripted/Shell`); the program itself has no shell.
-/

namespace AzcRepair.Scripted.Shell

/-- What cannot be read, and in which line. -/
structure SyntaxFault where
  line : Nat
  complaint : String
  deriving DecidableEq, Repr

abbrev Reading (α : Type) := StateT (List Lexeme) (Except SyntaxFault) α

/-- Words that begin or end a part of a compound command. -/
def reservedWords : List String :=
  ["!", "case", "do", "done", "elif", "else", "esac", "fi", "for", "if", "in", "then", "until",
    "while", "\x7b", "\x7d"]

namespace Reading

def peek : Reading Lexeme := do
  return (← get).headD ⟨1, .ending⟩

def skip : Reading Unit :=
  modify List.tail

def tokenName : Token → String
  | .word word =>
    let text := String.ofList (literal word)
    if !isQuoted word && reservedWords.contains text then "\"" ++ text ++ "\"" else "word"
  | .operator text => "\"" ++ text ++ "\""
  | .newline => "newline"
  | .redirect .. | .document .. => "redirection"
  | .ending => "end of file"
  | .fault complaint => complaint

/-- Complains about the token that comes next; something else may have been expected. -/
def unexpected {α : Type} (expected : Option String) : Reading α := do
  let lexeme ← peek
  match lexeme.token with
  | .fault complaint => throw ⟨lexeme.line, complaint⟩
  | token =>
    throw ⟨lexeme.line, tokenName token ++ " unexpected" ++
      match expected with
      | some name => " (expecting " ++ name ++ ")"
      | none => ""⟩

/-- The word that comes next, when none of it is quoted and all of it stands for itself. -/
def plainWord? (token : Token) : Option String :=
  match token with
  | .word word =>
    if isQuoted word || (literal word).length ≠ word.length then none
    else some (String.ofList (literal word))
  | _ => none

def isNext (word : String) : Reading Bool := do
  return plainWord? (← peek).token = some word

def isNextOperator (operator : String) : Reading Bool := do
  match (← peek).token with
  | .operator text => return text = operator
  | _ => return false

/-- Passes over a word that has to come next. -/
def expect (word : String) : Reading Unit := do
  if ← isNext word then skip else unexpected (some ("\"" ++ word ++ "\""))

/-- Passes over an operator that has to come next. -/
def expectOperator (operator : String) : Reading Unit := do
  if ← isNextOperator operator then skip else unexpected (some ("\"" ++ operator ++ "\""))

def skipNewlines : Reading Unit :=
  modify fun lexemes => lexemes.dropWhile fun
    | ⟨_, .newline⟩ => true
    | _ => false

def word : Reading Word := do
  match (← peek).token with
  | .word word => skip; return word
  | _ => unexpected none

/-- The text is the name of a variable. -/
def isName (text : String) : Bool :=
  match text.toList with
  | [] => false
  | c :: rest => beginsName c && rest.all continuesName

/-- The name and the value of an assignment. -/
def assignment? (word : Word) : Option (String × Word) :=
  let name := word.takeWhile fun
    | .char c false => continuesName c
    | _ => false
  match String.ofList (literal name), word.drop name.length with
  | text, .char '=' false :: value => if isName text then some (text, value) else none
  | _, _ => none

/-- The redirection that comes next, if there is one. -/
def redirection? : Reading (Option Redirection) := do
  match (← peek).token with
  | .document stream text => skip; return some (.document stream text)
  | .redirect stream sign =>
    skip
    let target ← word
    let mode : Mode := if sign = ">" then .write else if sign = ">>" then .append else .read
    return some <|
      if sign = ">&" || sign = "<&" then .duplicate stream target else .file stream mode target
  | _ => return none

def redirections : Nat → Reading (List Redirection)
  | 0 => return []
  | fuel + 1 => do
    match ← redirection? with
    | some redirection => return redirection :: (← redirections fuel)
    | none => return []

/-- The parts of a simple command. -/
structure Parts where
  assignments : List (String × Word) := []
  words : List Word := []
  redirections : List Redirection := []

/-- Reads the rest of a simple command. Assignments stand in front of the first word. -/
def simpleParts : Nat → Parts → Reading Parts
  | 0, parts => return parts
  | fuel + 1, parts => do
    match (← peek).token with
    | .word word =>
      skip
      match assignment? word with
      | some assignment =>
        -- behind the first word an assignment is a word like any other
        if parts.words.isEmpty then
          simpleParts fuel { parts with assignments := parts.assignments ++ [assignment] }
        else simpleParts fuel { parts with words := parts.words ++ [word] }
      | none => simpleParts fuel { parts with words := parts.words ++ [word] }
    | _ =>
      match ← redirection? with
      | some redirection =>
        simpleParts fuel { parts with redirections := parts.redirections ++ [redirection] }
      | none => return parts

/-- Words up to a token that is none. -/
def words : Nat → Reading (List Word)
  | 0 => return []
  | fuel + 1 => do
    match (← peek).token with
    | .word word => skip; return word :: (← words fuel)
    | _ => return []

/-- The patterns of a branch, up to the closing parenthesis. -/
def patterns : Nat → Reading (List Word)
  | 0 => return []
  | fuel + 1 => do
    let .word first := (← peek).token | unexpected (some "\")\"")
    skip
    if ← isNextOperator "|" then
      skip
      return first :: (← patterns fuel)
    expectOperator ")"
    return [first]

/-- A list of commands is over at the next token: at the end of the script, at an operator that
closes something, or at a word that goes on with a compound command or ends it. -/
def isOver : Reading Bool := do
  let token := (← peek).token
  match token with
  | .ending => return true
  | .operator text => return text = ")" || text = ";;"
  | token =>
    match plainWord? token with
    | some text =>
      return ["do", "done", "elif", "else", "esac", "fi", "then", "\x7d"].contains text
    | none => return false

mutual

/-- Commands up to a word or operator that ends a list of them. -/
def compound : Nat → Reading Command
  | 0 => unexpected none
  | fuel + 1 => do
    skipNewlines
    if let .ending := (← peek).token then return .nothing
    let first ← andOr fuel
    -- a command in the background is run like any other, before the next one
    match (← peek).token with
    | .newline => skip
    | .operator text => if text = ";" || text = "&" then skip else return first
    | _ => return first
    skipNewlines
    if ← isOver then return first
    return .sequence first (← compound fuel)

def andOr : Nat → Reading Command
  | 0 => unexpected none
  | fuel + 1 => do
    let first ← pipeline fuel
    andOrRest fuel first

/-- What is joined to a command by `&&` and `||`. -/
def andOrRest : Nat → Command → Reading Command
  | 0, _ => unexpected none
  | fuel + 1, first => do
    if ← isNextOperator "&&" then
      skip
      skipNewlines
      let second ← pipeline fuel
      andOrRest fuel (.both first second)
    else if ← isNextOperator "||" then
      skip
      skipNewlines
      let second ← pipeline fuel
      andOrRest fuel (.either first second)
    else return first

def pipeline : Nat → Reading Command
  | 0 => unexpected none
  | fuel + 1 => do
    let negates ← isNext "!"
    if negates then skip
    let body ← match ← stages fuel with
      | [single] => pure single
      | several => pure (Command.pipeline several)
    return if negates then .negation body else body

def stages : Nat → Reading (List Command)
  | 0 => unexpected none
  | fuel + 1 => do
    let first ← command fuel
    if ← isNextOperator "|" then
      skip
      skipNewlines
      return first :: (← stages fuel)
    return [first]

def command : Nat → Reading Command
  | 0 => unexpected none
  | fuel + 1 => do
    let lexeme ← peek
    let line := lexeme.line
    let body ← match plainWord? lexeme.token with
      | some "if" => skip; branch fuel
      | some "while" => skip; loop fuel false
      | some "until" => skip; loop fuel true
      | some "for" => skip; each fuel
      | some "case" => skip; choice fuel line
      | some "\x7b" => do
        skip
        let body ← compound fuel
        expect "\x7d"
        pure body
      | some text =>
        if reservedWords.contains text then unexpected none
        else return ← simple fuel line
      | none =>
        match lexeme.token with
        | .operator "(" => do
          skip
          let body ← compound fuel
          expectOperator ")"
          pure (.subshell body)
        | .word _ | .redirect .. | .document .. => return ← simple fuel line
        | _ => unexpected none
    match ← redirections fuel with
    | [] => return body
    | found => return .redirected line body found

/-- A simple command, or the definition of a function. -/
def simple : Nat → Nat → Reading Command
  | 0, _ => unexpected none
  | fuel + 1, line => do
    let first := plainWord? (← peek).token
    let parts ← simpleParts fuel {}
    -- a single plain word with a parenthesis behind it: what follows is the body of a function
    match first, parts, ← isNextOperator "(" with
    | some name, ⟨[], [_], []⟩, true =>
      skip
      expectOperator ")"
      skipNewlines
      return .definition name (← command fuel)
    | _, _, _ => return .simple line parts.assignments parts.words parts.redirections

/-- A choice by a test, behind the word that begins it. -/
def branch : Nat → Reading Command
  | 0 => unexpected none
  | fuel + 1 => do
    let test ← compound fuel
    expect "then"
    let whenTrue ← compound fuel
    if ← isNext "elif" then
      skip
      -- the nested choice takes the closing word for both
      return .conditional test whenTrue (← branch fuel)
    else if ← isNext "else" then
      skip
      let whenFalse ← compound fuel
      expect "fi"
      return .conditional test whenTrue whenFalse
    else
      expect "fi"
      return .conditional test whenTrue .nothing

/-- A repetition, behind the word that begins it. -/
def loop : Nat → Bool → Reading Command
  | 0, _ => unexpected none
  | fuel + 1, isUntil => do
    let test ← compound fuel
    expect "do"
    let body ← compound fuel
    expect "done"
    return .loop isUntil test body

/-- A repetition for each word of a list, behind the word that begins it. -/
def each : Nat → Reading Command
  | 0 => unexpected none
  | fuel + 1 => do
    let lexeme ← peek
    let some name := (plainWord? lexeme.token).filter isName
      | throw ⟨lexeme.line, "Bad for loop variable"⟩
    skip
    let list ← if ← isNext "in" then do
        skip
        pure (some (← words fuel))
      else pure none
    if ← isNextOperator ";" then skip
    skipNewlines
    expect "do"
    let body ← compound fuel
    expect "done"
    return .each name list body

/-- A choice by patterns, behind the word that begins it. -/
def choice : Nat → Nat → Reading Command
  | 0, _ => unexpected none
  | fuel + 1, line => do
    let chosen ← word
    skipNewlines
    expect "in"
    skipNewlines
    return .choice line chosen (← branches fuel)

def branches : Nat → Reading (List (List Word × Command))
  | 0 => unexpected none
  | fuel + 1 => do
    if ← isNext "esac" then
      skip
      return []
    if ← isNextOperator "(" then skip
    let patterns ← patterns fuel
    skipNewlines
    let body ← if ← isOver then pure .nothing else compound fuel
    if ← isNextOperator ";;" then
      skip
      skipNewlines
      return (patterns, body) :: (← branches fuel)
    expect "esac"
    return [(patterns, body)]

end

/-- The commands of a line, which may go on behind its end. -/
def line : Nat → Reading Command
  | 0 => unexpected none
  | fuel + 1 => do
    let first ← andOr (8 * fuel + 8)
    match (← peek).token with
    | .newline => skip; return first
    | .ending => return first
    | .operator text =>
      if text ≠ ";" && text ≠ "&" then unexpected none
      skip
      match (← peek).token with
      | .newline => skip; return first
      | .ending => return first
      | _ => return .sequence first (← line fuel)
    | _ => unexpected none

end Reading

/-- The commands of the first line that holds some, and the tokens below it. -/
def readLine (lexemes : List Lexeme) : Except SyntaxFault (Option Command × List Lexeme) := do
  let ((), lexemes) ← Reading.skipNewlines lexemes
  match lexemes with
  | [] | ⟨_, .ending⟩ :: _ => return (none, [])
  | lexemes =>
    let (command, rest) ← Reading.line (lexemes.length + 1) lexemes
    return (some command, rest)

end AzcRepair.Scripted.Shell
