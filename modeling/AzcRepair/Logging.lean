import AzcRepair.Text.Letters
import AzcRepair.Text.Numeral

/-!
# Log settings

The names under which the log is set up, and how a secret may appear in it.
-/

namespace AzcRepair.Logging

/-- How grave a log entry is; the graver the later. -/
inductive Level where
  | trace
  | debug
  | info
  | warn
  | error
  deriving DecidableEq, Repr

/-- How log entries are written. -/
inductive Format where
  | json
  | pretty
  deriving DecidableEq, Repr

/-- When a log file is closed and the next one begun. -/
inductive Rotation where
  | daily
  | hourly
  | never
  deriving DecidableEq, Repr

/-- The place of a level among the others. An entry is written when its rank is at least that of
the level that is set. -/
def Level.rank : Level → Nat
  | trace => 0
  | debug => 1
  | info => 2
  | warn => 3
  | error => 4

/-- The name of a level in log entries. -/
def Level.label : Level → String
  | trace => "TRACE"
  | debug => "DEBUG"
  | info => "INFO"
  | warn => "WARN"
  | error => "ERROR"

/-- The level of that name, in any ASCII case. -/
def Level.ofName? (name : String) : Option Level :=
  match Text.lowerAscii name with
  | "trace" => some trace
  | "debug" => some debug
  | "info" => some info
  | "warn" => some warn
  | "error" => some error
  | _ => none

/-- The format of that name, in any ASCII case. -/
def Format.ofName? (name : String) : Option Format :=
  match Text.lowerAscii name with
  | "json" => some json
  | "pretty" => some pretty
  | _ => none

/-- The rotation of that name, in any ASCII case. -/
def Rotation.ofName? (name : String) : Option Rotation :=
  match Text.lowerAscii name with
  | "daily" => some daily
  | "hourly" => some hourly
  | "never" => some never
  | _ => none

/-- A log entry, without its time and its fields. -/
structure Entry where
  level : Level
  text : String
  deriving DecidableEq, Repr

/-- The number of characters of a secret that a log may show. -/
def shownOfSecret : Nat := 4

/-- A secret as it may appear in a log: a long one by its first characters and its length, a short
one not at all. -/
def redact (secret : String) : String :=
  let chars := secret.toList
  -- what is shown of a secret must not be all of it
  if chars.length ≤ shownOfSecret then "[REDACTED]"
  else String.ofList (chars.take shownOfSecret) ++ "…[REDACTED, " ++
    Text.decimal chars.length ++ " chars]"

end AzcRepair.Logging
