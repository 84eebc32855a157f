import AzcRepair.Settings.Check

/-!
# What is demanded of settings

Checking settings asks for one thing after the other and stops at the first that is missing.

* `Settings.demands` — what is asked for, in this order.
* `check_eq_ok_iff` — settings are accepted when every demand is met.
* `of_check_eq_error` — a problem that is reported is that of a demand which is not met.
-/

namespace AzcRepair.Settings

/-- What is asked of settings, and the problem that is reported where it is missing. -/
def demands (settings : Settings) : List (Bool × Problem) :=
  let worker := settings.worker
  let keyed := worker.usableKey?.isSome
  let limits := settings.convergence
  let log := settings.logging
  let retry := worker.retry
  [(!Text.isBlankText worker.endpoint, .missingEndpoint),
    (!Text.isBlankText worker.model, .emptyModel),
    (keyed || worker.auth.method ≠ .apiKey, .missingApiKey),
    (keyed || worker.auth.method = .apiKey || !Text.isBlankText worker.auth.cliProgram,
      .emptyCliProgram),
    (!settings.workspace.root.text.isEmpty, .emptyWorkspaceRoot),
    (!Text.isBlankText settings.workspace.targetFile, .emptyTargetFile),
    (limits.maxIterations ≠ 0, .invalidMaxIterations limits.maxIterations),
    (limits.maxRecoveryAttempts ≠ 0, .invalidMaxRecoveryAttempts limits.maxRecoveryAttempts),
    (worker.maxPollAttempts ≠ 0, .invalidMaxPollAttempts worker.maxPollAttempts),
    (worker.pollIntervalSecs ≠ 0, .invalidPollInterval worker.pollIntervalSecs),
    ((Logging.Level.ofName? log.level).isSome, .invalidLogLevel log.level),
    ((Logging.Format.ofName? log.format).isSome, .invalidLogFormat log.format),
    ((Logging.Rotation.ofName? log.rotation).isSome, .invalidRotation log.rotation),
    (retry.maxRetries ≠ 0, .invalidMaxRetries retry.maxRetries),
    (retry.initialBackoffMs < retry.maxBackoffMs,
      .invalidBackoff retry.initialBackoffMs retry.maxBackoffMs)]

/-- Asks for one thing after the other. -/
def ensureAll (demands : List (Bool × Problem)) : Except Problem Unit :=
  demands.forM fun demand => ensure demand.1 demand.2

theorem ensureAll_cons (demand : Bool × Problem) (rest : List (Bool × Problem)) :
    ensureAll (demand :: rest) = (ensure demand.1 demand.2 >>= fun _ => ensureAll rest) :=
  rfl

theorem ensureAll_nil : ensureAll [] = pure () := rfl

theorem check_eq_ensureAll (settings : Settings) : settings.check = ensureAll settings.demands := by
  -- the check is written as a list of demands in the order of its lines
  simp only [demands, ensureAll_cons, ensureAll_nil, bind_pure_unit]
  rfl

theorem ensureAll_eq_ok_iff {demands : List (Bool × Problem)} :
    ensureAll demands = .ok () ↔ ∀ demand ∈ demands, demand.1 = true := by
  induction demands with
  | nil => exact ⟨nofun, fun _ => rfl⟩
  | cons demand rest ih =>
    obtain ⟨met, problem⟩ := demand
    rw [List.forall_mem_cons, ← ih]
    cases met with
    | false => exact ⟨nofun, fun h => nomatch h.1⟩
    | true => exact (and_iff_right rfl).symm

/-- Where something is missing, the first problem is reported. -/
theorem of_ensureAll_eq_error {demands : List (Bool × Problem)} {problem : Problem}
    (h : ensureAll demands = .error problem) : (false, problem) ∈ demands := by
  induction demands with
  | nil => cases h
  | cons demand rest ih =>
    -- the first demand is missing, or it is met and the problem is one of the rest
    obtain ⟨_ | _, first⟩ := demand
    · obtain rfl := Except.error.inj h
      exact List.mem_cons_self
    · exact List.mem_cons_of_mem _ (ih h)

theorem check_eq_ok_iff {settings : Settings} :
    settings.check = .ok () ↔ ∀ demand ∈ settings.demands, demand.1 = true := by
  rw [check_eq_ensureAll, ensureAll_eq_ok_iff]

theorem of_check_eq_error {settings : Settings} {problem : Problem}
    (h : settings.check = .error problem) : (false, problem) ∈ settings.demands :=
  of_ensureAll_eq_error (check_eq_ensureAll settings ▸ h)

end AzcRepair.Settings
