import AzcRepair.Proofs.Run.Walk

/-!
# The counters of a run

`Run.passes` and `Run.recover` are recursive on what is left: iterations that may still be made, and
repairs that may still be asked for. A program that runs counts the other way. It counts what it has
done, compares that with a bound before it goes on, and reports the count. Here the two ways of
counting are shown to be one.

* `passesFrom`, `recoverFrom` — the two loops, begun with a count of what was done.
* `hasBudget_iff` — there is budget as long as something is left.
* `passesFrom_eq` — one turn of the passes, with the question for the budget and the count going on.
* `recoverFrom_eq` — one turn of the repairs; the count is what is reported when they are given up.

Each equation describes its loop turn by turn, so the two of them leave nothing open about what the
program counts.
-/

namespace AzcRepair

/-! ## Progress within the budget

The count of iterations is compared with the budget before it goes on, so it never passes the
budget, and the sum that makes it go on never passes 32 bits. -/

namespace Progress

variable {progress : Progress}

/-- There is budget as long as the run did not converge and some iteration is left. -/
theorem hasBudget_iff :
    progress.hasBudget = true ↔
      progress.converged = false ∧ progress.maxIterations.toNat - progress.index.toNat ≠ 0 := by
  simp only [hasBudget, Bool.and_eq_true, Bool.not_eq_true', decide_eq_true_eq,
    UInt32.lt_iff_toNat_lt, Nat.sub_ne_zero_iff_lt]

/-- Within the budget the count goes on by one, without a panic. -/
theorem index_advance (budget : progress.hasBudget = true) :
    Run.Panic.add progress.index 1 = .ok progress.advance.index ∧
      progress.advance.index.toNat = progress.index.toNat + 1 := by
  have left : progress.maxIterations.toNat - progress.index.toNat ≠ 0 := (hasBudget_iff.mp budget).2
  have bound : progress.maxIterations.toNat < UInt32.size := progress.maxIterations.toNat_lt
  rcases Run.Panic.add_one_cases progress.index with ⟨-, sum, more⟩ | ⟨greatest, -⟩
  · exact ⟨sum, more⟩
  · -- a count at the greatest number has no greater budget
    omega

end Progress

namespace Run

variable {run : Run} {progress : Progress}

open Worker (Session)

/-! ## Passes

The passes that are left are those of the budget that were not made. A pass that finds violations
asks for the budget, and `Run.passes` tells by its argument what the answer is. -/

/-- The passes after so many iterations. -/
def passesFrom (run : Run) (progress : Progress) : Attempt Outcome :=
  run.passes progress (progress.maxIterations.toNat - progress.index.toNat)

/-- What a pass does about the violations that it found: without budget the run ends with them, else
an iteration is made, and when that gives no outcome the count goes on. -/
def afterBuild (run : Run) (progress : Progress) (iteration : UInt32) (violations : List Violation)
    (further : Progress → Attempt Outcome) : Attempt Outcome := do
  if !progress.hasBudget then return .maxIterationsReached violations
  match ← run.iterate iteration violations with
  | some outcome => return outcome
  | none => further progress.advance

/-- One turn of the passes: the switch, the number of the pass, the build, and what comes of it. The
outcome of a run that converges is read off its progress. -/
def pass (run : Run) (progress : Progress) (further : Progress → Attempt Outcome) :
    Attempt Outcome := do
  if ← always (ask .cancelled) then return .cancelled progress.index
  let iteration ← count progress
  match ← run.inspect with
  | .broken diagnostics => return .compileFailed diagnostics
  | .built [] => return .converged progress.converge.index
  | .built violations => run.afterBuild progress iteration violations further

/-- **The passes of a run, counted up.** Between two passes a run did not converge, and then counting
down what is left of the budget comes to the same as asking whether there is any. -/
theorem passesFrom_eq (going : progress.converged = false) :
    run.passesFrom progress = run.pass progress run.passesFrom := by
  unfold passesFrom
  cases left : progress.maxIterations.toNat - progress.index.toNat with
  | zero =>
    have spent : progress.hasBudget = false := by
      rw [Bool.eq_false_iff, ne_eq, Progress.hasBudget_iff]
      exact fun budget => budget.2 left
    -- without budget the number of the pass is counted all the same
    have counts (rest : Attempt Outcome) :
        (discard (count progress) >>= fun _ => rest) = (count progress >>= fun _ => rest) :=
      bind_map_left (fun _ => ()) (count progress) fun _ => rest
    rw [passes, pass]
    simp only [afterBuild, spent, counts]
    rfl
  | succ more =>
    have budget : progress.hasBudget = true := Progress.hasBudget_iff.mpr ⟨going, by omega⟩
    have next : progress.advance.maxIterations.toNat - progress.advance.index.toNat = more := by
      rw [(Progress.index_advance budget).2]
      change progress.maxIterations.toNat - (progress.index.toNat + 1) = more
      omega
    rw [passes, pass]
    simp only [afterBuild, budget, next]
    rfl

/-- A run begins with the whole budget. -/
example : run.passesFrom (.start run.maxIterations) =
    run.passes (.start run.maxIterations) run.maxIterations.toNat := rfl

/-! ## Repairs

The repairs that are left are those that were not asked for. When none is left and the fix still
does not compile, the repairs are given up, and the outcome tells how many there were. -/

/-- The repairs of an iteration after so many of them. -/
def recoverFrom (run : Run) (session : Session) (iteration attempts : UInt32) :
    Attempt (Option Outcome) :=
  run.recover session iteration (run.maxRecoveryAttempts.toNat - attempts.toNat)

/-- One turn of the repairs: the fix is compiled, and when it does not compile the count is compared
with its bound, goes on, and a repair is asked for. -/
def repair (run : Run) (session : Session) (iteration attempts : UInt32)
    (further : UInt32 → Attempt (Option Outcome)) : Attempt (Option Outcome) := do
  let diagnostics ← compile
  if Text.isBlankText diagnostics then return none
  if run.maxRecoveryAttempts ≤ attempts then
    return some (.recoveryExhausted iteration attempts diagnostics)
  let attempts ← orFail .panic (return Panic.add attempts 1)
  run.exchange session .compileRecovery (.recovery diagnostics)
  further attempts

/-- **The repairs of an iteration, counted up.** The outcome of repairs that are given up reports the
count itself, which is the bound there. -/
theorem recoverFrom_eq (session : Session) (iteration : UInt32) {attempts : UInt32}
    (within : attempts ≤ run.maxRecoveryAttempts) :
    run.recoverFrom session iteration attempts =
      run.repair session iteration attempts (run.recoverFrom session iteration) := by
  have bound : attempts.toNat ≤ run.maxRecoveryAttempts.toNat := UInt32.le_iff_toNat_le.mp within
  have small : run.maxRecoveryAttempts.toNat < UInt32.size := run.maxRecoveryAttempts.toNat_lt
  unfold recoverFrom
  cases left : run.maxRecoveryAttempts.toNat - attempts.toNat with
  | zero =>
    -- nothing is left, so the count is the bound
    obtain rfl : attempts = run.maxRecoveryAttempts := UInt32.toNat.inj (by omega)
    rw [recover, repair]
    simp only [UInt32.le_refl, if_true]
  | succ more =>
    have going : ¬ run.maxRecoveryAttempts ≤ attempts := by
      rw [UInt32.le_iff_toNat_le]
      omega
    -- below the bound the count goes on without a panic, and one repair less is left
    obtain ⟨-, sum, next⟩ := (Panic.add_one_cases attempts).resolve_right fun beyond => by omega
    have fewer : run.maxRecoveryAttempts.toNat - (attempts + 1).toNat = more := by omega
    rw [recover, repair]
    simp only [going, if_false, sum]
    rw [← fewer]
    rfl

/-- An iteration begins with the count of no repair. -/
example (session : Session) (iteration : UInt32) :
    run.recoverFrom session iteration 0 =
      run.recover session iteration run.maxRecoveryAttempts.toNat := rfl

end Run

end AzcRepair
