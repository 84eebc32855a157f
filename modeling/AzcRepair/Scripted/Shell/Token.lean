import AzcRepair.Scripted.Shell.Syntax
import AzcRepair.Text.Numeral

/-!
# Tokens of a script

A script is cut into words, operators and line ends. Quotes and values are taken apart within a
word; the script of a command substitution is kept as text. What cannot be read is a token too,
so that the commands in front of it are run.

A part of the scripted shell, which stands in for other programs when a recorded run is evaluated
(`Scripted/Shell`); the program itself has no shell.
-/

namespace AzcRepair.Scripted.Shell

inductive Token where
  | word (word : Word)
  /-- One of `;`, `;;`, `&`, `&&`, `|`, `||` and the parentheses. -/
  | operator (text : String)
  | newline
  /-- A redirection of a stream; the word behind it says where to. -/
  | redirect (stream : Nat) (text : String)
  | document (stream : Nat) (text : Word)
  | ending
  | fault (complaint : String)

structure Lexeme where
  line : Nat
  token : Token

/-! ### Pieces of words

A word is read piece by piece up to the end of what surrounds it. What a backslash quotes, and
which characters end the word, depends on that context; everything else about quotes and values is
the same in all of them. -/

/-- What surrounds the pieces that are read. -/
inductive Context where
  | bare
  | double
  /-- The braces around the use of a parameter. -/
  | braces (quoted : Bool)
  | document
  deriving DecidableEq, Repr

namespace Context

def quotes : Context → Bool
  | bare => false
  | double | document => true
  | braces quoted => quoted

def endsAt (context : Context) (c : Char) : Bool :=
  match context with
  | bare => [' ', '\t', '\n', ';', '&', '|', '<', '>', '(', ')'].contains c
  | double => c = '"'
  | braces _ => c = '\x7d'
  | document => false

def escapes (context : Context) (c : Char) : Bool :=
  if context.quotes then
    ['$', '`', '\\', '\n'].contains c || (c = '"' && context ≠ document) ||
      (c = '\x7d' && context = braces true)
  else true

end Context

/-- The complaint about quotes that do not end. -/
def unterminated : String := "Unterminated quoted string"

def beginsName (c : Char) : Bool :=
  c.isAlpha || c = '_'

/-- A character that can go on with a name. -/
def continuesName (c : Char) : Bool :=
  c.isAlphanum || c = '_'

/-- The name of a parameter at the begin of a text. -/
def parameterName? (many : Bool) : List Char → Option (String × List Char)
  | [] => none
  | c :: rest =>
    if beginsName c then
      some (String.ofList (c :: rest.takeWhile continuesName), rest.dropWhile continuesName)
    else if c.isDigit then
      if many then
        some (String.ofList (c :: rest.takeWhile Char.isDigit), rest.dropWhile Char.isDigit)
      else some (String.ofList [c], rest)
    else if ['@', '*', '#', '?', '-', '$', '!'].contains c then some (String.ofList [c], rest)
    else none

/-- The text up to the closing parenthesis that leaves none open, and what follows it. The quote
that the text is in is kept. -/
def enclosed (quote : Option Char) : Nat → List Char → Option (List Char × List Char)
  | _, [] => none
  | depth, [c] => if c = ')' && depth = 1 && quote.isNone then some ([], []) else none
  | depth, c :: d :: rest =>
    let more (found : Option (List Char × List Char)) := found.map fun (text, rest) =>
      (c :: text, rest)
    if c = '\\' && quote ≠ some '\'' then
      (enclosed quote depth rest).map fun (text, rest) => (c :: d :: text, rest)
    else
      match quote with
      | some open_ => more (enclosed (if c = open_ then none else quote) depth (d :: rest))
      | none =>
        if c = '\'' || c = '"' then more (enclosed (some c) depth (d :: rest))
        else if c = '(' then more (enclosed none (depth + 1) (d :: rest))
        else if c = ')' then
          if depth ≤ 1 then some ([], d :: rest) else more (enclosed none (depth - 1) (d :: rest))
        else more (enclosed none depth (d :: rest))

/-- The script between backquotes, and what follows them. -/
def backquoted : List Char → Option (List Char × List Char)
  | [] => none
  | '`' :: rest => some ([], rest)
  | '\\' :: c :: rest =>
    (backquoted rest).map fun (text, rest) =>
      (if c = '`' || c = '\\' || c = '$' then (c :: text, rest) else ('\\' :: c :: text, rest))
  | c :: rest => (backquoted rest).map fun (text, rest) => (c :: text, rest)

/-- The use that an operator makes of a parameter, and whether an empty value counts as missing. -/
def wordUse? (operator : Char) : Option (Bool → Word → Use) :=
  match operator with
  | '-' => some .default
  | '=' => some .assign
  | '?' => some .demand
  | '+' => some .alternative
  | _ => none

mutual

/-- The pieces up to the end of what surrounds them, and what follows. The end of a bare word is
left there. -/
def readPieces (context : Context) : Nat → List Char → Except String (Word × List Char)
  | 0, rest => .ok ([], rest)
  | _, [] =>
    match context with
    | .bare | .document => .ok ([], [])
    | .double => .error unterminated
    | .braces _ => .error "Missing '\x7d'"
  | fuel + 1, c :: rest =>
    if context.endsAt c then .ok ([], if context = .bare then c :: rest else rest)
    else
      let andMore (pieces : Word) (rest : List Char) : Except String (Word × List Char) :=
        (readPieces context fuel rest).map fun (more, rest) => (pieces ++ more, rest)
      match c, rest with
      | '\\', d :: rest =>
        -- a backslash that quotes nothing here stands for itself
        if !context.escapes d then andMore [.char '\\' true] (d :: rest)
        else andMore (if d = '\n' then [] else [.char d true]) rest
      | '\'', rest =>
        if context.quotes then andMore [.char c true] rest
        else
          let inside := rest.takeWhile (· ≠ '\'')
          match rest.drop inside.length with
          | [] => .error unterminated
          | _ :: rest => andMore (.quotes :: inside.map (.char · true)) rest
      | '"', rest =>
        if context = .document then andMore [.char c true] rest
        else do
          -- the quotes leave a piece behind, so that empty quotes still make a word
          let (inside, rest) ← readPieces .double fuel rest
          andMore (.quotes :: inside) rest
      | '`', rest =>
        match backquoted rest with
        | some (script, rest) => andMore [.output script context.quotes] rest
        | none => .error "EOF in backquote substitution"
      | '$', rest => do
        let (piece, rest) ← readValue context.quotes fuel rest
        andMore [piece] rest
      | _, rest => andMore [.char c context.quotes] rest

/-- What a dollar sign stands for together with the text behind it, and what follows. -/
def readValue (quoted : Bool) : Nat → List Char → Except String (Piece × List Char)
  | 0, rest => .ok (.char '$' quoted, rest)
  | fuel + 1, '(' :: '(' :: rest =>
    match enclosed none 2 rest with
    | some (text, rest) => do
      -- the text still ends in the first of the two closing parentheses
      let (expression, _) ← readPieces .document fuel text.dropLast
      return (.number expression quoted, rest)
    | none => .error "Missing '))'"
  | _, '(' :: rest =>
    match enclosed none 1 rest with
    | some (script, rest) => .ok (.output script quoted, rest)
    | none => .error "end of file unexpected (expecting \")\")"
  | fuel + 1, '\x7b' :: rest => readUse quoted fuel rest
  | _, rest =>
    match parameterName? false rest with
    | some (name, rest) => .ok (.parameter name .value quoted, rest)
    | none => .ok (.char '$' quoted, rest)

/-- The use of a parameter that the text behind an opening brace describes, and what follows. -/
def readUse (quoted : Bool) : Nat → List Char → Except String (Piece × List Char)
  | 0, rest => .ok (.quotes, rest)
  | fuel + 1, text =>
    let bad : Except String (Piece × List Char) := .error "Bad substitution"
    let ended (name : String) (use : Use) (rest : List Char) : Except String (Piece × List Char) :=
      if rest.head? = some '\x7d' then .ok (.parameter name use quoted, rest.tail) else bad
    match text with
    | [] => .error "Missing '\x7d'"
    | '#' :: c :: rest =>
      if c = '\x7d' then .ok (.parameter "#" .value quoted, rest)
      else
        match parameterName? true (c :: rest) with
        | some (name, rest) => ended name .length rest
        | none => bad
    | text =>
      match parameterName? true text with
      | none => bad
      | some (name, '\x7d' :: rest) => .ok (.parameter name .value quoted, rest)
      | some (name, operator :: rest) => do
        let with_ (use : Word → Use) (rest : List Char) : Except String (Piece × List Char) := do
          let (word, rest) ← readPieces (.braces quoted) fuel rest
          return (.parameter name (use word) quoted, rest)
        if operator = '#' then
          if rest.head? = some '#' then with_ (.trimFront true) rest.tail
          else with_ (.trimFront false) rest
        else if operator = '%' then
          if rest.head? = some '%' then with_ (.trimBack true) rest.tail
          else with_ (.trimBack false) rest
        else
          let orEmpty := operator = ':'
          let (operator, rest) := if orEmpty then (rest.headD ' ', rest.tail) else (operator, rest)
          match wordUse? operator with
          | some use => with_ (use orEmpty) rest
          | none => bad
      | some (_, []) => .error "Missing '\x7d'"

end

/-! ### Whole scripts

The tokens of a script carry their lines, which the complaints of a running script name. The text
of a redirection stands below the line of its token and is taken out of the script when the token
is read. -/

/-- The characters of a word that is not evaluated. -/
def literal (word : Word) : List Char :=
  word.filterMap fun
    | .char c _ => some c
    | _ => none

def isQuoted (word : Word) : Bool :=
  word.any fun
    | .quotes => true
    | .char _ quoted => quoted
    | _ => false

/-- The operator at the begin of a text. -/
def operator? : List Char → Option (String × List Char)
  | ';' :: ';' :: rest => some (";;", rest)
  | '&' :: '&' :: rest => some ("&&", rest)
  | '|' :: '|' :: rest => some ("||", rest)
  | c :: rest =>
    if [';', '&', '|', '(', ')'].contains c then some (String.ofList [c], rest) else none
  | [] => none

/-- The sign of a redirection at the begin of a text. -/
def redirectSign? : List Char → Option (String × List Char)
  | '>' :: '>' :: rest => some (">>", rest)
  | '>' :: '&' :: rest => some (">&", rest)
  | '>' :: '|' :: rest => some (">", rest)
  | '>' :: rest => some (">", rest)
  | '<' :: '<' :: '-' :: rest => some ("<<-", rest)
  | '<' :: '<' :: rest => some ("<<", rest)
  | '<' :: '&' :: rest => some ("<&", rest)
  | '<' :: '>' :: rest => some ("<", rest)
  | '<' :: rest => some ("<", rest)
  | _ => none

/-- The redirection at the begin of a text: the stream, the sign and what follows. The stream is a
digit in front of the sign, or the one that the sign is made for. -/
def redirect? : List Char → Option (Nat × String × List Char)
  | [] => none
  | c :: rest =>
    let usual (sign : String) : Nat := if sign.startsWith ">" then 1 else 0
    match redirectSign? (c :: rest) with
    | some (sign, rest) => some (usual sign, sign, rest)
    | none =>
      if c.isDigit then
        (redirectSign? rest).map fun (sign, rest) => (Text.digitValue c, sign, rest)
      else none

/-- The lines in front of a line that says where they end, and what follows that line. -/
def documentLines (stripsTabs : Bool) (mark : List Char) : Nat → List Char →
    List Char × List Char
  | 0, text => ([], text)
  | _, [] => ([], [])
  | fuel + 1, text =>
    let line := text.takeWhile (· ≠ '\n')
    let rest := text.drop (line.length + 1)
    let line := if stripsTabs then line.dropWhile (· = '\t') else line
    if line = mark then ([], rest)
    else
      let (lines, rest) := documentLines stripsTabs mark fuel rest
      (line ++ '\n' :: lines, rest)

/-- The text that a redirection takes from the lines below it, and the script without them. -/
def readDocument (stripsTabs : Bool) (fuel : Nat) (text : List Char) :
    Except String (Word × List Char) := do
  let (mark, rest) ← readPieces .bare fuel (text.dropWhile fun c => c = ' ' || c = '\t')
  let line := rest.takeWhile (· ≠ '\n')
  let (inside, below) := documentLines stripsTabs (literal mark) fuel (rest.drop (line.length + 1))
  let content ← if isQuoted mark then .ok (inside.map fun c => Piece.char c true)
    else (readPieces .document fuel inside).map (·.1)
  return (content, line ++ '\n' :: below)

/-- The number of line ends between a text and what is left of it. -/
def linesPassed (text rest : List Char) : Nat :=
  (text.take (text.length - rest.length)).count '\n'

/-- The tokens of a script from a line on. -/
def tokens : Nat → Nat → List Char → List Lexeme
  | 0, line, _ => [⟨line, .ending⟩]
  | _, line, [] => [⟨line, .ending⟩]
  | fuel + 1, line, c :: rest =>
    if c = ' ' || c = '\t' then tokens fuel line rest
    else if c = '\\' && rest.head? = some '\n' then tokens fuel (line + 1) rest.tail
    -- a word takes its own marks, so this one stands at the beginning of a word and opens a
    -- comment
    else if c = '#' then tokens fuel line (rest.dropWhile (· ≠ '\n'))
    else if c = '\n' then ⟨line, .newline⟩ :: tokens fuel (line + 1) rest
    else
      match operator? (c :: rest), redirect? (c :: rest) with
      | some (operator, rest), _ => ⟨line, .operator operator⟩ :: tokens fuel line rest
      | none, some (stream, sign, rest) =>
        if sign.startsWith "<<" then
          match readDocument (sign = "<<-") (fuel + 1) rest with
          | .ok (text, rest) => ⟨line, .document stream text⟩ :: tokens fuel line rest
          | .error complaint => [⟨line, .fault complaint⟩]
        else ⟨line, .redirect stream sign⟩ :: tokens fuel line rest
      | none, none =>
        match readPieces .bare (fuel + 1) (c :: rest) with
        | .ok (word, after) =>
          ⟨line, .word word⟩ :: tokens fuel (line + linesPassed (c :: rest) after) after
        | .error complaint => [⟨line, .fault complaint⟩]

def tokensOf (script : List Char) : List Lexeme :=
  tokens (script.length + 1) 1 script

end AzcRepair.Scripted.Shell
