import AzcRepair.Access.Source
import AzcRepair.Proofs.Settings.Demands

/-!
# The check of the token settings

The check of settings and the choice of a source decide by the same data: the method, the key and the
name of the program.

* `Source.IsUsable` — the key or the program of a source is not blank.
* `source_of_accepted` — accepted settings have a source, which can be used but for one case.
* `unusable_of_refused` — settings that are refused for their token settings have none.
* `check_agrees_with_source` — both together, at a blank key in `check_agrees_behind_blank_key`.
* `check_ignores_program_behind_key` — the one case: a blank program that a key hides.
-/

namespace AzcRepair.Access.Source

open Settings (Worker Problem)

variable {settings : Settings} {worker : Worker}

/-- What is asked for a token is not blank: the key, or the name of the program. -/
def IsUsable : Source → Prop
  | key secret => Text.isBlankText secret = false
  | cli program _ => Text.isBlankText program = false

/-- The command line tool is asked for although there is a key, and its program is blank. -/
def KeyHidesProgram (worker : Worker) : Prop :=
  worker.auth.method = .azureCli ∧ worker.usableKey?.isSome = true ∧
    Text.isBlankText worker.auth.cliProgram = true

theorem usable_of_usableKey? {secret : String} (given : worker.usableKey? = some secret) :
    (key secret).IsUsable := by
  obtain ⟨-, filled⟩ := Option.filter_eq_some_iff.mp given
  simpa [IsUsable] using filled

/-- The key that is chosen is the one of the settings. -/
theorem of_ofSettings?_key {secret : String} (chosen : ofSettings? worker = some (key secret)) :
    worker.usableKey? = some secret := by
  unfold ofSettings? at chosen
  split at chosen <;> cases chosen
  all_goals assumption

/-- The command line tool is the one of the settings. -/
theorem of_ofSettings?_cli {program resource : String}
    (chosen : ofSettings? worker = some (cli program resource)) :
    program = worker.auth.cliProgram ∧ resource = worker.auth.resource := by
  unfold ofSettings? at chosen
  split at chosen <;> cases chosen
  all_goals exact ⟨rfl, rfl⟩

/-- There is a source unless the key is asked for and there is none. -/
theorem ofSettings?_eq_none_iff :
    ofSettings? worker = none ↔ worker.auth.method = .apiKey ∧ worker.usableKey? = none := by
  unfold ofSettings?
  split <;> simp_all

/-- Accepted settings have a source. It can be used, unless the settings name a blank program and hide
it from the check behind a key. -/
theorem source_of_accepted (accepted : settings.check = .ok ()) :
    ∃ source, ofSettings? settings.worker = some source ∧
      (source.IsUsable ↔ ¬ KeyHidesProgram settings.worker) := by
  have met := Settings.check_eq_ok_iff.mp accepted
  simp only [Settings.demands, List.forall_mem_cons] at met
  obtain ⟨-, -, keyed, named, -⟩ := met
  unfold ofSettings? KeyHidesProgram
  -- by the method, and whether there is a key: the check and the choice look at the same two
  -- things
  cases method : settings.worker.auth.method with
  | auto =>
    cases given : settings.worker.usableKey? with
    | none => exact ⟨_, rfl, by simpa [IsUsable, method, given] using named⟩
    | some secret => exact ⟨_, rfl, by simpa using usable_of_usableKey? given⟩
  | apiKey =>
    cases given : settings.worker.usableKey? with
    | none => simp [method, given] at keyed
    | some secret => exact ⟨_, rfl, by simpa using usable_of_usableKey? given⟩
  -- the program is chosen in any case, but it is only looked at when there is no key
  | azureCli =>
    cases given : settings.worker.usableKey? with
    | none => exact ⟨_, rfl, by simpa [IsUsable, method, given] using named⟩
    | some secret => exact ⟨_, rfl, by simp [IsUsable]⟩

/-- Settings that are refused for their token settings have no source, or none that can be used. -/
theorem unusable_of_refused {problem : Problem} (refused : settings.check = .error problem)
    (access : problem = .missingApiKey ∨ problem = .emptyCliProgram) {source : Source}
    (chosen : ofSettings? settings.worker = some source) : ¬ source.IsUsable := by
  have missing := Settings.of_check_eq_error refused
  -- a key was missing, or the program has no name
  obtain rfl | rfl := access
  · obtain ⟨keyless, method⟩ : settings.worker.usableKey? = none ∧
        settings.worker.auth.method = .apiKey := by
      simpa [Settings.demands] using missing
    cases (ofSettings?_eq_none_iff.mpr ⟨method, keyless⟩).symm.trans chosen
  · obtain ⟨⟨keyless, method⟩, blank⟩ : (settings.worker.usableKey? = none ∧
        settings.worker.auth.method ≠ .apiKey) ∧
        Text.isBlankText settings.worker.auth.cliProgram = true := by
      simpa [Settings.demands] using missing
    cases source with
    | key secret => cases keyless.symm.trans (of_ofSettings?_key chosen)
    | cli program resource =>
      obtain ⟨rfl, -⟩ := of_ofSettings?_cli chosen
      simp [IsUsable, blank]

/-- The check and the choice agree, but for a blank program behind a key: accepted settings have a
source that can be used, and settings refused for their token settings have none. -/
theorem check_agrees_with_source (settings : Settings) :
    (settings.check = .ok () → ∃ source, ofSettings? settings.worker = some source ∧
      (∀ secret, source = key secret → Text.isBlankText secret = false) ∧
      ∀ program resource, source = cli program resource →
        program = settings.worker.auth.cliProgram ∧
          (Text.isBlankText program = false ↔ ¬ KeyHidesProgram settings.worker)) ∧
    ∀ problem, settings.check = .error problem →
      problem = .missingApiKey ∨ problem = .emptyCliProgram →
      ∀ source, ofSettings? settings.worker = some source → ¬ source.IsUsable := by
  refine ⟨fun accepted => ?_, fun problem refused access source => unusable_of_refused refused access⟩
  obtain ⟨source, chosen, usable⟩ := source_of_accepted accepted
  refine ⟨source, chosen, ?_, ?_⟩
  · rintro secret rfl
    exact usable_of_usableKey? (of_ofSettings?_key chosen)
  · rintro program resource rfl
    exact ⟨(of_ofSettings?_cli chosen).1, usable⟩

/-- A key of one no-break space is blank: the command line tool is chosen, and it has a name. -/
theorem check_agrees_behind_blank_key :
    let settings : Settings :=
      { worker := { endpoint := "http://localhost", apiKey := some "\u00a0" } }
    settings.check = .ok () ∧ ofSettings? settings.worker = some (cli "az" "https://ai.azure.com") ∧
      (cli "az" "https://ai.azure.com").IsUsable := by
  intro settings
  have accepted : settings.check = .ok () := Settings.check_eq_ok_iff.mpr (by decide +kernel)
  have chosen : ofSettings? settings.worker = some (cli "az" "https://ai.azure.com") := by
    decide +kernel
  refine ⟨accepted, chosen, ?_⟩
  obtain ⟨source, same, -, named⟩ := (check_agrees_with_source settings).1 accepted
  obtain rfl := Option.some.inj (same.symm.trans chosen)
  obtain ⟨-, usable⟩ := named "az" "https://ai.azure.com" rfl
  exact usable.mpr fun hidden => nomatch hidden.1

/-- Accepted settings that ask for the command line tool and give its program no name: the key, which
is not asked for, stands before the program. -/
theorem check_ignores_program_behind_key :
    let settings : Settings :=
      { worker := { endpoint := "http://localhost", apiKey := some "k",
                    auth := { method := .azureCli, cliProgram := "" } } }
    settings.check = .ok () ∧
      ofSettings? settings.worker = some (cli "" "https://ai.azure.com") :=
  ⟨rfl, rfl⟩

end AzcRepair.Access.Source
