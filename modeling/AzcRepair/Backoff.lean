import AzcRepair.Settings
import AzcRepair.Worker.Failure

/-!
# Retries

A transient failure is tried again after a wait that doubles from one attempt to the next, up to a
bound on the wait and a bound on the number of attempts. Every other failure is final.
-/

namespace AzcRepair

/-- How often and after which waits an attempt is repeated. -/
structure Backoff where
  maxRetries : UInt32
  initialMs : UInt64
  maxMs : UInt64
  deriving DecidableEq, Repr

namespace Backoff

def ofSettings (retry : Settings.Retry) : Backoff :=
  ⟨retry.maxRetries, retry.initialBackoffMs, retry.maxBackoffMs⟩

/-! ### Waits

Milliseconds are counted in 64 bits. A wait that outgrows them stays at the largest number there is,
which no bound on the wait exceeds. -/

/-- The largest number of 64 bits. -/
def largest : UInt64 := 0xFFFFFFFFFFFFFFFF

/-- The product, or the largest number when the product does not fit. -/
def saturatingMul (a b : UInt64) : UInt64 :=
  if a.toNat * b.toNat < UInt64.size then a * b else largest

/-- The power, or the largest number when the power does not fit. -/
def saturatingPow (base : UInt64) : Nat → UInt64
  | 0 => 1
  | exponent + 1 => saturatingMul (saturatingPow base exponent) base

/-- Milliseconds to wait after an attempt; the first one has the number zero. The wait is doubled
from one attempt to the next and is never above the bound, however many attempts were made. -/
def waitMs (backoff : Backoff) (attempt : UInt32) : Nat :=
  min (saturatingMul backoff.initialMs (saturatingPow 2 attempt.toNat)).toNat backoff.maxMs.toNat

/-! ### Attempts

An attempt is made in any monad: the client makes it with the token that it keeps, and a pause is
a request of its own. -/

/-- Repeats an attempt while it fails transiently; `left` more repetitions are allowed, and `made`
were made, which are counted in 32 bits. -/
def repeatFrom {M : Type → Type} [Monad M] {α : Type} (backoff : Backoff) (pause : Nat → M Unit)
    (attempt : M (Except Worker.Failure α)) : Nat → UInt32 → M (Except Worker.Failure α)
  -- the last attempt: its failure is final, whatever it is
  | 0, _ => attempt
  | left + 1, made => do
    match ← attempt with
    | .ok value => return .ok value
    | .error failure =>
      if failure.isTransient then
        -- the wait grows with the attempts that were made, not with those that are left
        pause (backoff.waitMs made)
        backoff.repeatFrom pause attempt left (made + 1)
      else return .error failure

/-- Makes an attempt and repeats it as the policy allows. -/
def run {M : Type → Type} [Monad M] {α : Type} (backoff : Backoff) (pause : Nat → M Unit)
    (attempt : M (Except Worker.Failure α)) : M (Except Worker.Failure α) :=
  backoff.repeatFrom pause attempt backoff.maxRetries.toNat 0

theorem toNat_largest : largest.toNat = UInt64.size - 1 := rfl

theorem toNat_saturatingMul (a b : UInt64) :
    (saturatingMul a b).toNat = min (a.toNat * b.toNat) (UInt64.size - 1) := by
  unfold saturatingMul
  split
  · next fits =>
    have exact : (a * b).toNat = a.toNat * b.toNat := by
      rw [UInt64.toNat_mul, Nat.mod_eq_of_lt fits]
    omega
  · rw [toNat_largest]
    omega

end Backoff

end AzcRepair
