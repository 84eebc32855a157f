import AzcRepair.Text.Numeral

/-!
# Arithmetic of a shell

Expressions over whole numbers of 64 bits, with the operators and the precedences of C. A variable
that has no value counts as zero.

A part of the scripted shell, which stands in for other programs when a recorded run is evaluated
(`Scripted/Shell`); the program itself has no shell.
-/

namespace AzcRepair.Scripted.Shell.Arithmetic

inductive Token where
  | number (value : Int)
  | name (text : String)
  | operator (text : String)
  deriving DecidableEq, Repr

def modulus : Nat := 18446744073709551616

/-- The value of 64 bits that a number wraps to. -/
def wrap (value : Int) : Int :=
  value.bmod modulus

/-- The value of digits, hexadecimal behind `0x` and octal behind another zero. -/
def number? (text : List Char) : Option Int :=
  let valueOf (base : Nat) (digits : List Char) : Option Int :=
    (digits.foldlM (fun (value : Nat) c => do
      let digit ← Text.hexValue? c
      if digit < base then some (value * base + digit) else none) 0).map fun n => wrap (n : Int)
  match text with
  | [] => none
  | '0' :: 'x' :: digits | '0' :: 'X' :: digits =>
    if digits.isEmpty then none else valueOf 16 digits
  | '0' :: digits => valueOf 8 digits
  | digits => valueOf 10 digits

/-- The operators, longer ones before those that they begin with, so that the first one that fits
is the one that is meant. -/
def operators : List String :=
  ["<<=", ">>=", "<<", ">>", "<=", ">=", "==", "!=", "&&", "||", "+=", "-=", "*=", "/=", "%=", "&=",
    "|=", "^=", "+", "-", "*", "/", "%", "<", ">", "=", "!", "~", "&", "|", "^", "?", ":", "(", ")",
    ","]

/-- A character of a name or of a number. -/
def isWordChar (c : Char) : Bool :=
  c.isAlphanum || c = '_'

def tokens : Nat → List Char → Option (List Token)
  | 0, _ => none
  | _, [] => some []
  | fuel + 1, c :: rest =>
    if c = ' ' || c = '\t' || c = '\n' then tokens fuel rest
    else if isWordChar c then
      let text := (c :: rest).takeWhile isWordChar
      let after := (c :: rest).drop text.length
      if c.isDigit then
        match number? text with
        | some value => return .number value :: (← tokens fuel after)
        -- two values side by side, which no expression can be: the complaint comes when they are
        -- read
        | none => return [.number 0, .number 0]
      else return .name (String.ofList text) :: (← tokens fuel after)
    else do
      let operator ← operators.find? fun operator => operator.toList.isPrefixOf (c :: rest)
      return .operator operator :: (← tokens fuel ((c :: rest).drop operator.length))

/-- Values given to variables, the last one first. -/
abbrev Values := List (String × Int)

/-- What is wrong with an expression. -/
inductive Fault where
  | form
  /-- Something follows the expression. -/
  | excess
  | divisionByZero
  deriving DecidableEq, Repr

/-- A reader of tokens that evaluates what it reads. -/
abbrev Evaluating := StateT (List Token × Values) (Except Fault)

def truth (value : Bool) : Int :=
  if value then 1 else 0

/-- The binary operators from the loosest to the tightest. -/
def levels : List (List String) :=
  [["||"], ["&&"], ["|"], ["^"], ["&"], ["==", "!="], ["<", ">", "<=", ">="], ["<<", ">>"],
    ["+", "-"], ["*", "/", "%"]]

def bits (value : Int) : Nat :=
  (value % (modulus : Int)).toNat

def combine (operator : String) (a b : Int) : Except Fault Int :=
  match operator with
  | "||" => .ok (truth (a ≠ 0 || b ≠ 0))
  | "&&" => .ok (truth (a ≠ 0 && b ≠ 0))
  | "|" => .ok (wrap (bits a ||| bits b : Nat))
  | "^" => .ok (wrap (bits a ^^^ bits b : Nat))
  | "&" => .ok (wrap (bits a &&& bits b : Nat))
  | "==" => .ok (truth (a = b))
  | "!=" => .ok (truth (a ≠ b))
  | "<" => .ok (truth (a < b))
  | ">" => .ok (truth (b < a))
  | "<=" => .ok (truth (a ≤ b))
  | ">=" => .ok (truth (b ≤ a))
  | "<<" => .ok (wrap ((bits a <<< (bits b % 64) : Nat) : Int))
  | ">>" => .ok (a >>> (bits b % 64))
  | "+" => .ok (wrap (a + b))
  | "-" => .ok (wrap (a - b))
  | "*" => .ok (wrap (a * b))
  | "/" => if b = 0 then .error .divisionByZero else .ok (wrap (a.tdiv b))
  | "%" => if b = 0 then .error .divisionByZero else .ok (a.tmod b)
  | _ => .error .form

/-- The value of digits, which have to be some. -/
def number (text : List Char) : Except Fault Int :=
  match number? text with
  | some value => .ok value
  | none => .error .form

def valueOf (lookup : String → Option String) (values : Values) (name : String) :
    Except Fault Int :=
  match values.lookup name, lookup name with
  | some value, _ => .ok value
  | none, none => .ok 0
  | none, some text =>
    let text := (text.toList.dropWhile (· = ' ')).reverse.dropWhile (· = ' ') |>.reverse
    match text with
    | [] => .ok 0
    | '-' :: digits => (number digits).map (- ·)
    | digits => number digits

mutual

def expression (lookup : String → Option String) : Nat → Evaluating Int
  | 0 => throw .form
  | fuel + 1 => do
    let (tokens, values) ← get
    match tokens with
    | .name name :: .operator operator :: rest =>
      if operator = "=" then do
        set (rest, values)
        let value ← expression lookup fuel
        modify fun (tokens, values) => (tokens, (name, value) :: values)
        return value
      else if operator.endsWith "=" && !(["==", "!=", "<=", ">="].contains operator) then do
        set (rest, values)
        let right ← expression lookup fuel
        let left ← valueOf lookup (← get).2 name
        let value ← combine (String.ofList operator.toList.dropLast) left right
        modify fun (tokens, values) => (tokens, (name, value) :: values)
        return value
      else choice lookup fuel
    | _ => choice lookup fuel

def choice (lookup : String → Option String) : Nat → Evaluating Int
  | 0 => throw .form
  | fuel + 1 => do
    let test ← binary lookup fuel levels
    match (← get).1 with
    | .operator "?" :: rest =>
      modify fun (_, values) => (rest, values)
      let first ← expression lookup fuel
      match (← get).1 with
      | .operator ":" :: rest =>
        modify fun (_, values) => (rest, values)
        let second ← choice lookup fuel
        -- both sides are evaluated, with the values that they give to variables
        return if test ≠ 0 then first else second
      | _ => throw .form
    | _ => return test

def binary (lookup : String → Option String) : Nat → List (List String) → Evaluating Int
  | 0, _ => throw .form
  | fuel + 1, [] => unary lookup fuel
  | fuel + 1, level :: tighter => do
    let first ← binary lookup fuel tighter
    binaryRest lookup fuel level tighter first

/-- What is joined to a value by the operators of a level. -/
def binaryRest (lookup : String → Option String) :
    Nat → List String → List (List String) → Int → Evaluating Int
  | 0, _, _, _ => throw .form
  | fuel + 1, level, tighter, first => do
    match (← get).1 with
    | .operator operator :: rest =>
      if level.contains operator then do
        modify fun (_, values) => (rest, values)
        let second ← binary lookup fuel tighter
        let value ← combine operator first second
        binaryRest lookup fuel level tighter value
      else return first
    | _ => return first

/-- A value with operators in front of it. -/
def unary (lookup : String → Option String) : Nat → Evaluating Int
  | 0 => throw .form
  | fuel + 1 => do
    let (tokens, values) ← get
    match tokens with
    | .number value :: rest => set (rest, values); return value
    | .name name :: rest => set (rest, values); valueOf lookup values name
    | .operator operator :: rest =>
      set (rest, values)
      match operator with
      | "(" =>
        let value ← expression lookup fuel
        match (← get).1 with
        | .operator ")" :: rest => modify fun (_, values) => (rest, values); return value
        | _ => throw .form
      | "-" => return wrap (- (← unary lookup fuel))
      | "+" => unary lookup fuel
      | "!" => return truth ((← unary lookup fuel) = 0)
      | "~" => return -1 - (← unary lookup fuel)
      | _ => throw .form
    | [] => throw .form

end

/-- The value of an expression, and the values that it gives to variables. -/
def evaluate (lookup : String → Option String) (text : String) : Except Fault (Int × Values) :=
  match tokens (text.length + 1) text.toList with
  | none => .error .form
  | some [] => .ok (0, [])
  | some tokens =>
    match expression lookup (16 * tokens.length + 16) (tokens, []) with
    | .ok (value, [], values) => .ok (value, values)
    | .ok _ => .error .excess
    | .error fault => .error fault

end AzcRepair.Scripted.Shell.Arithmetic
