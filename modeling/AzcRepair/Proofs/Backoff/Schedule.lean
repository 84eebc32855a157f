import AzcRepair.Backoff
import AzcRepair.Proofs.Procedure.Layers
import Mathlib.Algebra.Group.Nat.Defs
import Mathlib.Data.List.Pairwise

/-!
# The schedule of retries

When an operation is tried again and after which waits, for every sequence of results that its
attempts can have. The policy counts attempts in 32 bits and milliseconds in 64; the schedule is
said in numbers without a bound.

* `waitMs_eq` — a wait in exact numbers: what does not fit into 64 bits is above the bound anyway.
* `Trial`, `trials` — repeating an operation asks for attempts and for waits, and nothing else;
  `run_eq_handle` says so of any operation, whatever its attempts do.
* `schedule` — so many retries, each behind its wait.
* `replay_trialsFrom` — by induction on the retries that are left, the rest of the schedule.
* `schedule_exact` — the whole schedule.
-/

namespace AzcRepair.Backoff

open Procedure (History ask)

variable {α : Type} {M : Type → Type} [Monad M]

/-! ## Waits

The policy multiplies in 64 bits and stops at the largest number there is. Its bound is such a
number too, so nothing is lost: whatever does not fit is above the bound, and the bound is what
counts. The waits are therefore those of exact arithmetic. -/

/-- Stopping at the largest number on the way is stopping there at the end. -/
theorem toNat_saturatingPow {base : UInt64} (positive : 0 < base.toNat) (exponent : Nat) :
    (saturatingPow base exponent).toNat = min (base.toNat ^ exponent) (UInt64.size - 1) := by
  induction exponent with
  | zero => rfl
  | succ exponent ih =>
    rw [saturatingPow, toNat_saturatingMul, ih, Nat.pow_succ]
    -- the power before it fits, or it stopped already and stays where it is
    rcases Nat.le_total (base.toNat ^ exponent) (UInt64.size - 1) with fits | large
    · rw [Nat.min_eq_left fits]
    · rw [Nat.min_eq_right large, Nat.min_eq_right (Nat.le_mul_of_pos_right _ positive),
        Nat.min_eq_right (Nat.le_trans large (Nat.le_mul_of_pos_right _ positive))]

/-- The wait doubles from one attempt to the next until it reaches its bound: a product or a power
that does not fit into 64 bits is above it. -/
theorem waitMs_eq (backoff : Backoff) (attempt : UInt32) :
    backoff.waitMs attempt =
      min (backoff.initialMs.toNat * 2 ^ attempt.toNat) backoff.maxMs.toNat := by
  have bound : backoff.maxMs.toNat ≤ UInt64.size - 1 := Nat.le_sub_one_of_lt backoff.maxMs.toNat_lt
  have two : (2 : UInt64).toNat = 2 := rfl
  have power := @toNat_saturatingPow 2 (by decide) attempt.toNat
  rw [two] at power
  rw [waitMs, toNat_saturatingMul, power]
  generalize attempt.toNat = exponent
  generalize UInt64.size - 1 = last at bound ⊢
  -- without a first wait there is none at all; otherwise the power fits, or it exceeds the
  -- bound
  rcases Nat.eq_zero_or_pos backoff.initialMs.toNat with none | some
  · rw [none]
    omega
  rcases Nat.le_total (2 ^ exponent) last with fits | large
  · rw [Nat.min_eq_left fits]
    omega
  · have product : 2 ^ exponent ≤ backoff.initialMs.toNat * 2 ^ exponent :=
      Nat.le_mul_of_pos_left _ some
    have saturated : last ≤ backoff.initialMs.toNat * last :=
      Nat.le_mul_of_pos_left _ some
    rw [Nat.min_eq_right large]
    omega

/-! ## Attempts and waits

What is repeated may do anything: the policy only looks at its result. So the repetition is taken
as a procedure that asks for attempts and for waits, and every operation is an answer to those
requests. -/

/-- What the repetition of an operation asks for. -/
inductive Trial where
  | attempt
  | pause (ms : Nat)

@[reducible] def Trial.Answer (α : Type) : Trial → Type
  | .attempt => Except Worker.Failure α
  | .pause _ => Unit

/-- The repetition of an operation that is not given yet, when `made` attempts are behind it and
`left` retries allowed. -/
def trialsFrom (backoff : Backoff) (α : Type) (left : Nat) (made : UInt32) :
    Procedure Trial (Trial.Answer α) (Except Worker.Failure α) :=
  backoff.repeatFrom (fun ms => ask (Trial.pause ms)) (ask Trial.attempt) left made

def trials (backoff : Backoff) (α : Type) :
    Procedure Trial (Trial.Answer α) (Except Worker.Failure α) :=
  backoff.trialsFrom α backoff.maxRetries.toNat 0

/-- What the trials are of an operation, with the way in which it waits. -/
def carryOut (pause : Nat → M Unit) (attempt : M (Except Worker.Failure α)) :
    (trial : Trial) → M (Trial.Answer α trial)
  | .attempt => attempt
  | .pause ms => pause ms

/-- The result ends the repetition: a value, or a failure that is not transient. -/
def isFinal : Except Worker.Failure α → Bool
  | .ok _ => true
  | .error failure => !failure.isTransient

/-- As long as retries are allowed, a result that is not final is followed by a wait and another
attempt. -/
theorem repeatFrom_succ (backoff : Backoff) (pause : Nat → M Unit)
    (attempt : M (Except Worker.Failure α)) (left : Nat) (made : UInt32) :
    backoff.repeatFrom pause attempt (left + 1) made = attempt >>= fun result =>
      if isFinal result then pure result
      else pause (backoff.waitMs made) >>= fun _ =>
        backoff.repeatFrom pause attempt left (made + 1) := by
  rw [repeatFrom]
  congr 1
  funext result
  cases result with
  | ok value => rfl
  | error failure => cases again : failure.isTransient <;> simp [isFinal, again]

/-- Repeating an operation carries out its trials. -/
theorem run_eq_handle [LawfulMonad M] (backoff : Backoff) (pause : Nat → M Unit)
    (attempt : M (Except Worker.Failure α)) :
    backoff.run pause attempt = (backoff.trials α).handle (carryOut pause attempt) := by
  have asks (trial : Trial) :
      (ask trial).handle (carryOut pause attempt) = carryOut pause attempt trial := bind_pure _
  -- the same number of retries is left on both sides, and the same attempts are behind
  have repeats (left : Nat) (made : UInt32) : backoff.repeatFrom pause attempt left made =
      (backoff.trialsFrom α left made).handle (carryOut pause attempt) := by
    induction left generalizing made with
    | zero => exact (asks Trial.attempt).symm
    | succ left ih =>
      rw [trialsFrom, repeatFrom_succ, repeatFrom_succ, Procedure.handle_bind, asks]
      congr 1
      funext result
      split
      · rfl
      · rw [Procedure.handle_bind, asks]
        congr 1
        funext _
        exact ih (made + 1)
  exact repeats backoff.maxRetries.toNat 0

/-! ## The schedule

A sequence of results decides how the repetition goes. It is laid out in advance: the attempts in
their order with the waits between them. Then the repetition is shown to follow it, from any
attempt to the last one. -/

/-- The first attempts, each with the wait behind it. -/
def retried (backoff : Backoff) (results : Nat → Except Worker.Failure α) (attempts : Nat) :
    History Trial (Trial.Answer α) :=
  (List.range attempts).flatMap fun i =>
    [⟨.attempt, results i⟩,
      ⟨.pause (min (backoff.initialMs.toNat * 2 ^ i) backoff.maxMs.toNat), ()⟩]

/-- An attempt and so many retries. -/
def schedule (backoff : Backoff) (results : Nat → Except Worker.Failure α) (retries : Nat) :
    History Trial (Trial.Answer α) :=
  backoff.retried results retries ++ [⟨.attempt, results retries⟩]

def isAttempt : Procedure.Event Trial (Trial.Answer α) → Bool
  | ⟨.attempt, _⟩ => true
  | ⟨.pause _, _⟩ => false

/-- The milliseconds that are waited. -/
def waits (history : History Trial (Trial.Answer α)) : List Nat :=
  history.filterMap fun
    | ⟨.pause ms, _⟩ => some ms
    | ⟨.attempt, _⟩ => none

/-- The attempts have these results, one after the other. -/
def answering (results : Nat → Except Worker.Failure α) (past : History Trial (Trial.Answer α)) :
    (trial : Trial) → Trial.Answer α trial
  | .attempt => results (past.countP isAttempt)
  | .pause _ => ()

variable (backoff : Backoff) (results : Nat → Except Worker.Failure α)

/-- One attempt more, and the wait that stands behind it in the schedule. -/
theorem retried_succ (attempts : Nat) :
    backoff.retried results (attempts + 1) = backoff.retried results attempts ++
      [⟨.attempt, results attempts⟩,
        ⟨.pause (min (backoff.initialMs.toNat * 2 ^ attempts) backoff.maxMs.toNat), ()⟩] := by
  simp [retried, List.range_succ]

theorem countP_retried (attempts : Nat) :
    (backoff.retried results attempts).countP isAttempt = attempts := by
  induction attempts with
  | zero => rfl
  | succ attempts ih =>
    rw [retried_succ, List.countP_append, ih]
    rfl

/-- Besides the first attempt there is one for each of the retries. -/
theorem countP_schedule (retries : Nat) :
    (backoff.schedule results retries).countP isAttempt = retries + 1 := by
  rw [schedule, List.countP_append, countP_retried]
  rfl

/-- The waits of a schedule double, up to the bound, and there is one for each of the retries. -/
theorem waits_schedule (retries : Nat) : waits (backoff.schedule results retries) =
    (List.range retries).map fun i => min (backoff.initialMs.toNat * 2 ^ i) backoff.maxMs.toNat := by
  have behind : waits (backoff.retried results retries) =
      (List.range retries).map fun i =>
        min (backoff.initialMs.toNat * 2 ^ i) backoff.maxMs.toNat := by
    induction retries with
    | zero => rfl
    | succ retries ih =>
      have split (first second : History Trial (Trial.Answer α)) :
          waits (first ++ second) = waits first ++ waits second := List.filterMap_append
      rw [retried_succ, split, ih, List.range_succ, List.map_append]
      rfl
  have last : waits (backoff.schedule results retries) =
      waits (backoff.retried results retries) ++ [] := List.filterMap_append
  rw [last, behind, List.append_nil]

/-- No number of retries that is allowed outgrows the counter. -/
theorem toNat_counter {retries : Nat} (allowed : retries ≤ backoff.maxRetries.toNat) :
    (UInt32.ofNat retries).toNat = retries :=
  UInt32.toNat_ofNat_of_lt' (Nat.lt_of_le_of_lt allowed backoff.maxRetries.toNat_lt)

variable {backoff results}

theorem replay_zero (made : UInt32) (past : History Trial (Trial.Answer α)) :
    (backoff.trialsFrom α 0 made).replay (answering results) past =
      (past ++ [⟨.attempt, results (past.countP isAttempt)⟩], results (past.countP isAttempt)) :=
  rfl

theorem replay_succ (left : Nat) (made : UInt32) (past : History Trial (Trial.Answer α)) :
    (backoff.trialsFrom α (left + 1) made).replay (answering results) past =
      if isFinal (results (past.countP isAttempt)) then
        (past ++ [⟨.attempt, results (past.countP isAttempt)⟩], results (past.countP isAttempt))
      else (backoff.trialsFrom α left (made + 1)).replay (answering results)
        (past ++ [⟨.attempt, results (past.countP isAttempt)⟩, ⟨.pause (backoff.waitMs made), ()⟩]) := by
  have parts : past ++ [⟨.attempt, results (past.countP isAttempt)⟩,
      ⟨.pause (backoff.waitMs made), ()⟩] =
        past ++ [⟨.attempt, results (past.countP isAttempt)⟩] ++
          [⟨.pause (backoff.waitMs made), ()⟩] := by simp
  rw [trialsFrom, repeatFrom_succ, parts]
  show Procedure.replay _ (if isFinal (results _) then _ else _) _ = _
  split <;> rfl

/-- With `made` attempts behind it and `left` retries allowed, the repetition goes on up to the first
result that is final, or else up to the last retry. -/
theorem replay_trialsFrom {left made retries : Nat}
    (allowed : made + left = backoff.maxRetries.toNat) (later : made ≤ retries)
    (within : retries ≤ made + left)
    (transient : ∀ i, made ≤ i → i < retries → isFinal (results i) = false)
    (ends : retries < made + left → isFinal (results retries) = true) :
    (backoff.trialsFrom α left (UInt32.ofNat made)).replay (answering results)
      (backoff.retried results made) = (backoff.schedule results retries, results retries) := by
  -- the induction is on the retries that are left; the attempts behind them are what was
  -- replayed
  induction left generalizing made with
  | zero =>
    have last : retries = made := by omega
    rw [replay_zero, countP_retried, last, schedule]
  | succ left ih =>
    have retry : made < backoff.maxRetries.toNat := by omega
    rw [replay_succ, countP_retried]
    -- this attempt is the last of the schedule, or it failed transiently and another one
    -- follows
    rcases Nat.eq_or_lt_of_le later with last | more
    · have final : isFinal (results made) = true := last ▸ ends (by omega)
      rw [if_pos final, ← last, schedule]
    · have passed : isFinal (results made) = false := transient made (by omega) more
      have counter : UInt32.ofNat (made + 1) = UInt32.ofNat made + 1 := UInt32.ofNat_add made 1
      have wait : backoff.waitMs (UInt32.ofNat made) =
          min (backoff.initialMs.toNat * 2 ^ made) backoff.maxMs.toNat := by
        rw [waitMs_eq, toNat_counter backoff (Nat.le_of_lt retry)]
      have fewer : made + 1 + left = backoff.maxRetries.toNat := by omega
      have further := ih fewer more (by omega) (fun i first => transient i (by omega))
        (fun early => ends (by omega))
      rw [if_neg (by simp [passed]), wait, ← counter, ← retried_succ, further]

theorem pairwise_waits (retries : Nat) :
    (waits (backoff.schedule results retries)).Pairwise (· ≤ ·) := by
  rw [waits_schedule, List.pairwise_map]
  refine List.pairwise_lt_range.imp fun {i j} earlier => ?_
  have grows : backoff.initialMs.toNat * 2 ^ i ≤ backoff.initialMs.toNat * 2 ^ j :=
    Nat.mul_le_mul_left _ (Nat.pow_le_pow_right (by decide) (Nat.le_of_lt earlier))
  omega

theorem le_of_mem_waits {retries ms : Nat} (waited : ms ∈ waits (backoff.schedule results retries)) :
    ms ≤ backoff.maxMs.toNat := by
  rw [waits_schedule] at waited
  obtain ⟨i, -, rfl⟩ := List.mem_map.mp waited
  exact Nat.min_le_right _ _

/-- **The schedule of retries.** Repeating an operation, whatever its attempts do, asks for attempts
and waits only. When the first result that is a value or a failure that is not transient has the
index `k`, the operation is tried once and then as often as the smaller of `k` and the bound on
retries, and when there is none, as often as the bound. The result is that of the last attempt. The
wait after the attempt with the index `i` is the first wait times `2 ^ i`, or the bound on the wait
if that is less, in exact numbers; so waits never decrease and never exceed their bound. The counter
of attempts does not wrap. -/
theorem schedule_exact [LawfulMonad M] (backoff : Backoff) (pause : Nat → M Unit)
    (attempt : M (Except Worker.Failure α)) (results : Nat → Except Worker.Failure α) :
    backoff.run pause attempt = (backoff.trials α).handle (carryOut pause attempt) ∧
      (∀ k, isFinal (results k) = true → (∀ i < k, isFinal (results i) = false) →
        (backoff.trials α).replay (answering results) [] =
          (backoff.schedule results (min k backoff.maxRetries.toNat),
            results (min k backoff.maxRetries.toNat))) ∧
      ((∀ i, isFinal (results i) = false) →
        (backoff.trials α).replay (answering results) [] =
          (backoff.schedule results backoff.maxRetries.toNat, results backoff.maxRetries.toNat)) ∧
      (∀ retries, (backoff.schedule results retries).countP isAttempt = retries + 1 ∧
        (waits (backoff.schedule results retries)).Pairwise (· ≤ ·) ∧
        ∀ ms ∈ waits (backoff.schedule results retries), ms ≤ backoff.maxMs.toNat) ∧
      ∀ made < backoff.maxRetries.toNat, (UInt32.ofNat made + 1).toNat = made + 1 := by
  -- the two cases of the schedule differ only in what makes an attempt the last one
  have whole (retries : Nat) (within : retries ≤ backoff.maxRetries.toNat)
      (transient : ∀ i < retries, isFinal (results i) = false)
      (ends : retries < backoff.maxRetries.toNat → isFinal (results retries) = true) :
      (backoff.trials α).replay (answering results) [] =
        (backoff.schedule results retries, results retries) :=
    replay_trialsFrom (Nat.zero_add _) (Nat.zero_le _) (by omega) (fun i _ => transient i)
      (fun early => ends (by rwa [Nat.zero_add] at early))
  refine ⟨run_eq_handle backoff pause attempt, fun k final first => ?_, fun none => ?_,
    fun retries => ?_, fun made allowed => ?_⟩
  · refine whole _ (Nat.min_le_right _ _) (fun i early => first i (by omega)) fun early => ?_
    have settled : min k backoff.maxRetries.toNat = k := by omega
    rw [settled]
    exact final
  · exact whole _ (Nat.le_refl _) (fun i _ => none i) (fun early => absurd early (Nat.lt_irrefl _))
  · exact ⟨countP_schedule backoff results retries, pairwise_waits retries, fun _ => le_of_mem_waits⟩
  · have next : UInt32.ofNat (made + 1) = UInt32.ofNat made + 1 := UInt32.ofNat_add made 1
    rw [← next, toNat_counter backoff allowed]

def busy : Worker.Failure :=
  .api 503 "busy"

/-- Three retries; the first wait is half of what 64 bits hold, and the bound is all of it. -/
def patient : Backoff :=
  ⟨3, 0x8000000000000000, 0xFFFFFFFFFFFFFFFF⟩

def thirdTime (attempt : Nat) : Except Worker.Failure Unit :=
  if attempt < 2 then .error busy else .ok ()

/-- The second wait, doubled, is just past 64 bits, and is the bound. -/
theorem schedule_exact_patient :
    isFinal (thirdTime 2) = true ∧ (∀ i < 2, isFinal (thirdTime i) = false) ∧
      (patient.trials Unit).replay (answering thirdTime) [] =
        ([⟨.attempt, .error busy⟩, ⟨.pause 0x8000000000000000, ()⟩, ⟨.attempt, .error busy⟩,
          ⟨.pause 0xFFFFFFFFFFFFFFFF, ()⟩, ⟨.attempt, .ok ()⟩], .ok ()) := by
  have final : isFinal (thirdTime 2) = true := rfl
  have transient : ∀ i < 2, isFinal (thirdTime i) = false := by decide
  have exact := schedule_exact (M := Id) patient (fun _ => ()) (thirdTime 0) thirdTime
  exact ⟨final, transient, exact.2.1 2 final transient⟩

end AzcRepair.Backoff
