import AzcRepair.Scripted.Shell.State

/-!
# Conditions

What `test` decides: facts about files, texts and numbers, joined by `!`, `-a`, `-o` and
parentheses.

A part of the scripted shell, which stands in for other programs when a recorded run is evaluated
(`Scripted/Shell`); the program itself has no shell.
-/

namespace AzcRepair.Scripted.Shell.Condition

/-- What a condition asks. -/
structure Site where
  tree : FileTree
  cwd : Route

/-- The condition is not well formed, for the reason given. -/
abbrev Judging := StateT (List String) (Except String)

/-- The whole number that an operand has to be. -/
def wholeNumber (text : String) : Except String Int :=
  let trimmed := ((text.toList.dropWhile (· = ' ')).reverse.dropWhile (· = ' ')).reverse
  let (isNegative, digits) := match trimmed with
    | '-' :: digits => (true, digits)
    | '+' :: digits => (false, digits)
    | digits => (false, digits)
  if digits.isEmpty || !digits.all Char.isDigit then .error ("Illegal number: " ++ text)
  else
    let value : Int := Text.natOfDigits digits
    .ok (if isNegative then -value else value)

def unaryOperators : List String :=
  ["-n", "-z", "-e", "-f", "-d", "-s", "-r", "-w", "-x", "-h", "-L", "-t", "-p", "-b", "-c", "-S"]

/-- Whether what is at a path is as an operator asks. -/
def fileIs (site : Site) (operator path : String) : Bool :=
  match site.tree.find site.cwd ⟨path⟩ with
  | .error _ => false
  | .ok (.file content) =>
    ["-e", "-f", "-r", "-w"].contains operator || (operator = "-s" && 0 < content.data.size)
  | .ok (.directory _) => ["-e", "-d", "-r", "-w", "-x", "-s"].contains operator

/-- The answer of an operator about one operand. -/
def unary (site : Site) (operator operand : String) : Bool :=
  match operator with
  | "-n" => !operand.isEmpty
  | "-z" => operand.isEmpty
  | _ => fileIs site operator operand

/-- The answer of an operator about two operands, if it is one. -/
def binary? (first operator second : String) : Option (Except String Bool) :=
  let numbers (holds : Int → Int → Bool) : Option (Except String Bool) := some do
    return holds (← wholeNumber first) (← wholeNumber second)
  match operator with
  | "=" => some (.ok (first = second))
  | "!=" => some (.ok (first ≠ second))
  | "<" => some (.ok (first < second))
  | ">" => some (.ok (second < first))
  | "-eq" => numbers fun a b => a = b
  | "-ne" => numbers fun a b => a ≠ b
  | "-lt" => numbers fun a b => a < b
  | "-le" => numbers fun a b => a ≤ b
  | "-gt" => numbers fun a b => b < a
  | "-ge" => numbers fun a b => b ≤ a
  | _ => none

mutual

/-- A condition and those joined to it by `-o`. -/
def disjunction (site : Site) : Nat → Judging Bool
  | 0 => throw "too many arguments"
  | fuel + 1 => do
    let first ← conjunction site fuel
    match ← get with
    | "-o" :: next :: rest =>
      set (next :: rest)
      let second ← disjunction site fuel
      return first || second
    | _ => return first

/-- A condition and those joined to it by `-a`. -/
def conjunction (site : Site) : Nat → Judging Bool
  | 0 => throw "too many arguments"
  | fuel + 1 => do
    let first ← primary site fuel
    match ← get with
    | "-a" :: next :: rest =>
      set (next :: rest)
      let second ← conjunction site fuel
      return first && second
    | _ => return first

def primary (site : Site) : Nat → Judging Bool
  | 0 => throw "too many arguments"
  | fuel + 1 => do
    match ← get with
    | [] => throw "argument expected"
    | [first, operator] =>
      match binary? first operator "" with
      | some _ => throw (operator ++ ": argument expected")
      | none => single site fuel first [operator]
    | first :: operator :: second :: rest =>
      match binary? first operator second with
      | some answer =>
        set rest
        answer
      | none => single site fuel first (operator :: second :: rest)
    | first :: rest => single site fuel first rest

/-- A condition that does not begin with the first operand of an operator. -/
def single (site : Site) : Nat → String → List String → Judging Bool
  | 0, _, _ => throw "too many arguments"
  | fuel + 1, first, rest => do
    match first, rest with
    -- with nothing behind them these two are texts like any other
    | "!", _ :: _ =>
      set rest
      return !(← primary site fuel)
    | "(", _ :: _ =>
      set rest
      let answer ← disjunction site fuel
      match ← get with
      | ")" :: rest =>
        set rest
        return answer
      | _ => throw "closing paren expected"
    | _, operand :: others =>
      if unaryOperators.contains first then
        set others
        return unary site first operand
      else
        set rest
        return !first.isEmpty
    | _, [] =>
      set rest
      return !first.isEmpty

end

/-- What `test` decides about its arguments, or what is wrong with them. -/
def judge (site : Site) (arguments : List String) : Except String Bool :=
  if arguments.isEmpty then .ok false
  else
    match disjunction site (4 * arguments.length + 4) arguments with
    | .ok (answer, rest) =>
      -- an operator without a second side: nothing is added to the answer by `-o`, and `-a` fails
      if rest.isEmpty || rest = ["-o"] then .ok answer
      else if rest = ["-a"] then .ok false
      else
        .error (arguments.getD (arguments.length - rest.length - 1) "" ++ ": unexpected operator")
    | .error reason => .error reason

end AzcRepair.Scripted.Shell.Condition
