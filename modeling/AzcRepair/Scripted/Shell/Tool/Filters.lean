import AzcRepair.Scripted.Shell.Printing
import AzcRepair.Scripted.Shell.Tool.Files

/-!
# Tools for lines

Tools that count, choose, order and change the lines of their input.

A part of the scripted shell, which stands in for other programs when a recorded run is evaluated
(`Scripted/Shell`); the program itself has no shell.
-/

namespace AzcRepair.Scripted.Shell.Tool

/-! ### Counting

The counts come in a fixed order, whatever the order of the flags is. They are written in columns
of one width, which depends on the sizes of all files and so is known only at the end. -/

def countWords (data : List UInt8) : Nat :=
  (data.splitBy fun a b => isBlank a == isBlank b).countP fun run => !(run.head?.any isBlank)
where
  /-- The byte separates words. -/
  isBlank (byte : UInt8) : Bool := byte = 32 || (9 ≤ byte && byte ≤ 13)

/-- The counts that are asked for: lines, words, characters and bytes. -/
def counts (flags : List Char) (data : List UInt8) : List Nat :=
  let shown := if flags.isEmpty then ['l', 'w', 'c'] else flags
  (if shown.contains 'l' then [data.count 10] else []) ++
    (if shown.contains 'w' then [countWords data] else []) ++
    (if shown.contains 'm' then [(textOf data).length] else []) ++
    (if shown.contains 'c' then [data.length] else [])

/-- Counts lines, words and bytes. Columns are as wide as the sizes of the files need. -/
def wc (arguments : List String) : Tool Unit := do
  let flags := flags arguments
  let named := operands arguments
  let mut results : List (List Nat × String) := []
  let mut size := 0
  for file in (if named.isEmpty then ["-"] else named) do
    match ← read file with
    | .ok data =>
      results := results ++ [(counts flags data, if named.isEmpty then "" else " " ++ file)]
      size := size + data.length
    | .error error => complain ("wc: " ++ file ++ ": " ++ shortMessage error)
  let isSingle := named.length ≤ 1 && (counts flags []).length = 1
  let width := if isSingle then 1
    else if named.isEmpty || named.contains "-" then 7
    else (Text.digits size).length
  let line (numbers : List Nat) (name : String) : String :=
    " ".intercalate (numbers.map fun n => padLeft width (Text.decimal n)) ++ name ++ "\n"
  for (numbers, name) in results do print (line numbers name)
  if 1 < named.length then
    let total := results.foldl (fun sums result => List.zipWith (· + ·) sums result.1)
      (counts flags [])
    print (line total " total")

/-! ### Parts

The tools of this section write a part of the lines or bytes of each file. A sign in front of the
number turns its meaning round. -/

/-- The number of lines or bytes that an argument asks for, and the other arguments. An option may
be the number itself. -/
def amount (arguments : List String) : (Bool × String) × List String :=
  match takeOption 'c' arguments, takeOption 'n' arguments with
  | (some text, rest), _ => ((true, text), rest)
  | _, (some text, rest) => ((false, text), rest)
  | _, _ =>
    match arguments with
    | first :: rest =>
      if isOption first && first.toList.tail.all Char.isDigit then
        ((false, String.ofList first.toList.tail), rest)
      else ((false, "10"), arguments)
    | [] => ((false, "10"), [])

/-- Writes a part of each file, with headings when there are several. -/
def parts (name : String) (part : List UInt8 → List UInt8) (files : List String) :
    Tool Unit := do
  for (file, place) in (if files.isEmpty then ["-"] else files).zipIdx do
    match ← read file with
    | .ok data =>
      if 1 < files.length then
        print ((if place = 0 then "" else "\n") ++ "==> " ++ file ++ " <==\n")
      write (part data)
    | .error error =>
      complain (name ++ ": cannot open " ++ inQuotes file ++ " for reading: " ++
        shortMessage error)

def wholeLines (data : List UInt8) : List (List UInt8) :=
  data.splitBy fun a _ => a ≠ 10

/-- The number in a text behind its sign. -/
def unsigned (text : String) : Nat :=
  Text.natOfDigits (text.toList.filter Char.isDigit)

/-- Writes the begin of files. A negative number says how much is left out at the end. -/
def head (arguments : List String) : Tool Unit := do
  let ((isBytes, text), rest) := amount arguments
  let count := unsigned text
  let take {α : Type} (items : List α) : List α :=
    if text.startsWith "-" then items.take (items.length - count) else items.take count
  parts "head" (fun data => if isBytes then take data else (take (wholeLines data)).flatten)
    (operands rest)

/-- Writes the end of files. A number with a plus says where it begins. -/
def tail (arguments : List String) : Tool Unit := do
  let ((isBytes, text), rest) := amount arguments
  let count := unsigned text
  let take {α : Type} (items : List α) : List α :=
    if text.startsWith "+" then items.drop (count - 1) else items.drop (items.length - count)
  parts "tail" (fun data => if isBytes then take data else (take (wholeLines data)).flatten)
    (operands rest)

/-- The numbers of the fields or bytes that a list asks for. A range may be open. -/
def isChosen (list : String) (place : Nat) : Bool :=
  (list.toList.splitOn ',').any fun range =>
    match range.splitOn '-' with
    | [single] => Text.natOfDigits single = place
    | [first, last] =>
      Text.natOfDigits first ≤ place && (last.isEmpty || place ≤ Text.natOfDigits last)
    | _ => false

/-- Writes some of the fields, or of the bytes, of every line. -/
def cut (arguments : List String) : Tool Unit := do
  let (delimiter, arguments) := takeOption 'd' arguments
  let (fields, arguments) := takeOption 'f' arguments
  let (places, arguments) := takeOption 'c' arguments
  let (bytePlaces, arguments) := takeOption 'b' arguments
  let data ← readAll "cut: " (operands arguments)
  let separator := (bytes (delimiter.getD "\t")).headD 9
  let chosen {α : Type} (list : String) (items : List α) : List α :=
    (items.zipIdx.filter fun item => isChosen list (item.2 + 1)).map (·.1)
  for line in lines data do
    match fields, places.or bytePlaces with
    | some list, _ =>
      let pieces := line.splitOn separator
      write ((if pieces.length < 2 then line else [separator].intercalate (chosen list pieces)) ++
        [10])
    | none, some list => write (chosen list line ++ [10])
    | none, none => write (line ++ [10])

/-! ### Order

Lines are compared as bytes, or by the numbers they begin with and only then as bytes, so the
order does not depend on a language. -/

/-- Bytes come before others when their first difference does, or when they end first. -/
def comesBefore : List UInt8 → List UInt8 → Bool
  | [], _ => true
  | _ :: _, [] => false
  | a :: first, b :: second => a < b || (a = b && comesBefore first second)

/-- The number at the begin of a line. -/
def lineNumber (line : List UInt8) : Int :=
  match (textOf line).toList.dropWhile (· = ' ') with
  | '-' :: digits => -(Text.natOfDigits (digits.takeWhile Char.isDigit) : Int)
  | digits => Text.natOfDigits (digits.takeWhile Char.isDigit)

def sort (arguments : List String) : Tool Unit := do
  let flags := flags arguments
  let data ← readAll "sort: cannot read: " (operands arguments)
  let isNotAfter (a b : List UInt8) : Bool :=
    if flags.contains 'n' then
      lineNumber a < lineNumber b || (lineNumber a = lineNumber b && comesBefore a b)
    else comesBefore a b
  let ordered := (lines data).mergeSort fun a b =>
    if flags.contains 'r' then isNotAfter b a else isNotAfter a b
  write (unlines (if flags.contains 'u' then ordered.eraseDups else ordered))

/-- Writes one of several equal lines that follow one another. -/
def uniq (arguments : List String) : Tool Unit := do
  let flags := flags arguments
  let data ← readAll "uniq: " ((operands arguments).take 1)
  for run in (lines data).splitBy (· == ·) do
    if (!flags.contains 'd' || 1 < run.length) && (!flags.contains 'u' || run.length = 1) then
      if flags.contains 'c' then print (padLeft 7 (Text.decimal run.length) ++ " ")
      write (run.headD [] ++ [10])

/-! ### Characters

The sets of `tr` are sets of bytes: a character beyond ASCII is taken for its bytes there. -/

/-- The bytes that a set of `tr` names: ranges, escapes and classes. -/
def byteSet : Nat → List UInt8 → List UInt8
  | 0, _ => []
  | _, [] => []
  | fuel + 1, first :: 45 :: last :: rest =>
    if first ≤ last then
      (List.range (last.toNat - first.toNat + 1)).map (fun n => UInt8.ofNat (first.toNat + n)) ++
        byteSet fuel rest
    else byteSet fuel rest
  | fuel + 1, byte :: rest => byte :: byteSet fuel rest

def setOf (text : String) : List UInt8 :=
  let set := match text with
    | "[:upper:]" => "A-Z"
    | "[:lower:]" => "a-z"
    | "[:digit:]" => "0-9"
    | "[:alpha:]" => "A-Za-z"
    | "[:alnum:]" => "0-9A-Za-z"
    | "[:space:]" => "\\t-\\r "
    | other => other
  let resolved := (unescape false (set.length + 1) set.toList).bytes
  byteSet (resolved.length + 1) resolved

/-- Equal bytes of a set that follow one another become one. -/
def squeeze (set : List UInt8) (data : List UInt8) : List UInt8 :=
  (data.splitBy fun a b => a = b && set.contains a).flatMap (·.take 1)

def tr (arguments : List String) : Tool Unit := do
  let flags := flags arguments
  let sets := (operands arguments).map setOf
  let data ← readInput
  let first := sets.headD []
  let isComplement := flags.contains 'c' || flags.contains 'C'
  let isIn (byte : UInt8) : Bool := first.contains byte != isComplement
  let second := sets.getD 1 []
  let replaced (byte : UInt8) : UInt8 :=
    if !isIn byte then byte
    else if isComplement then second.getLastD byte
    else second.getD (first.idxOf byte) (second.getLastD byte)
  if flags.contains 'd' then write (data.filter (!isIn ·))
  else if second.isEmpty then
    write (if flags.contains 's' then squeeze (data.filter isIn) data else data)
  else
    let result := data.map replaced
    write (if flags.contains 's' then squeeze second result else result)

def rev (arguments : List String) : Tool Unit := do
  for line in lines (← readAll "rev: cannot open " (operands arguments)) do
    print (String.ofList (textOf line).toList.reverse ++ "\n")

def tac (arguments : List String) : Tool Unit := do
  write (wholeLines (← readAll "tac: " (operands arguments))).reverse.flatten

/-! ### Numbers and answers

Tools without an input. The one that would write for ever stops at a fixed number of lines. -/

def seq (arguments : List String) : Tool Unit := do
  let (first, step, last) := match arguments.map argumentNumber with
    | [last] => (1, 1, last)
    | [first, last] => (first, 1, last)
    | [first, step, last] => (first, step, last)
    | _ => ((1 : Int), (1 : Int), (0 : Int))
  let count := if step = 0 then 0 else ((last - first) / step + 1).toNat
  for place in List.range count do
    let value := first + step * (place : Int)
    print ((if value < 0 then "-" else "") ++ Text.decimal value.natAbs ++ "\n")

/-- Answers so often that nobody asks for more. -/
def yes (arguments : List String) : Tool Unit := do
  let line := if arguments.isEmpty then "y\n" else " ".intercalate arguments ++ "\n"
  write (List.replicate 20000 (bytes line)).flatten

/-- The tool for lines that has the name. -/
def forLines? (name : String) : Option (List String → Tool Unit) :=
  match name with
  | "wc" => some wc
  | "head" => some head
  | "tail" => some tail
  | "cut" => some cut
  | "sort" => some sort
  | "uniq" => some uniq
  | "tr" => some (needingOperand name "missing operand" tr)
  | "rev" => some rev
  | "tac" => some tac
  | "seq" => some fun arguments =>
    match arguments.find? fun a => !isNumeric a with
    | some wrong => misused name ("invalid floating point argument: " ++ inQuotes wrong)
    | none => if arguments.isEmpty then misused name "missing operand" else seq arguments
  | "yes" => some yes
  | _ => none

end AzcRepair.Scripted.Shell.Tool
