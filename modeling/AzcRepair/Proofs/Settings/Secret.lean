import AzcRepair.Proofs.Settings.Demands
import AzcRepair.Proofs.Settings.Replacement
import AzcRepair.Proofs.Settings.Values

/-!
# Secrets from the environment

The key of the worker is set by a variable, whose text may be a value rather than the key itself.
What is loaded with one text decides what is loaded with every other: all but the key is the same.

* `Surroundings` — all that decides what is loaded but for the text of the variable.
* `load_of_string`, `load_of_typed` — a text that means a key, and one that means another value.
* `check_withKey` — a key that is not blank passes the check.
* `secret_arrives_iff` — which secrets are loaded as they stand, and what becomes of the others.
-/

namespace AzcRepair.Settings

open Json (Distinct Field)

/-- All that decides what is loaded but for one text: that of a variable which sets the key of the
worker, and behind which no other variable sets it. -/
structure Surroundings where
  disk : (call : Disk.Call) → Disk.Answer call
  workingDirectory : Path
  directory : Path
  before : List (String × String)
  name : String
  after : List (String × String)
  named : Environment.keys? name = some ["worker", "api_key"]
  last : ∀ entry ∈ after, Environment.leadsTo ["worker", "api_key"] entry = false

/-- What is loaded when the variable has this text. -/
def Surroundings.load (around : Surroundings) (text : String) : Except LoadFailure Settings :=
  on around.disk (Settings.load around.workingDirectory around.directory
    (around.before ++ (around.name, text) :: around.after))

/-- Settings that were read are loaded when they pass the check. -/
def accepted (settings : Settings) : Except LoadFailure Settings :=
  (settings.check.mapError .invalid).map fun _ => settings

variable {around : Surroundings} {text other key secret : String} {settings : Settings}
  {holds : Json → Prop}

/-! ## Another text for the variable

That settings are loaded with one text says that both files are read, that the layers have the
shape of settings, and that every other value passes. Hence only the key remains to be looked at
when the text changes. -/

/-- Where settings are loaded with one text, all but the key is loaded alike with another. -/
theorem load_replaced (closed : ∀ base value, holds value → holds (overlay base value))
    (works : around.load other = .ok settings) (replacement : holds (Environment.ofText text)) :
    ∃ given, holds given ∧ around.load text =
      (((Field.given given).optional Json.string?).elim (.error (.project .value))
        fun key => accepted (settings.withKey key)) := by
  obtain ⟨disk, workingDirectory, directory, before, name, after, named, last⟩ := around
  unfold Surroundings.load at works ⊢
  rw [on_load] at works ⊢
  obtain ⟨layers, found, read⟩ := ofLayers_eq_ok works
  cases readShared : layerOn disk workingDirectory (directory / "config.yaml") with
  | error cause =>
    rw [readShared] at found
    cases found
  | ok shared =>
    cases readOwn : layerOn disk workingDirectory (directory / "local.yaml") with
    | error cause =>
      rw [readShared, readOwn] at found
      cases found
    | ok own =>
      rw [readShared, readOwn] at found
      obtain rfl := Except.ok.inj found
      have distinctBelow : Distinct (overlay (overlay ({} : Settings).toJson shared) own) :=
        distinct_overlay (distinct_layerOn readOwn).2
          (distinct_overlay (distinct_layerOn readShared).2 distinct_defaults)
      have distinct (text : String) := Environment.distinct_layer (before ++ (name, text) :: after)
      have replaced := (Environment.replaced_layer closed named last replacement other).over closed
        (distinct other) (distinct text) distinctBelow
      obtain ⟨given, holds, readOther⟩ := ofJson?_replaced replaced
        (distinct_overlay (distinct other) distinctBelow)
        (distinct_overlay (distinct text) distinctBelow) read
      refine ⟨given, holds, ?_⟩
      -- both files are found as before, so all that is left is to read the layers
      show ofLayers .project (.ok [shared, own, _]) = _
      have settings : ofLayers? [shared, own, Environment.layer (before ++ (name, text) :: after)] =
        _ := readOther
      rw [ofLayers_ok, settings]
      cases (Field.given given).optional Json.string? <;> rfl

/-- A text of the variable that means a text is the key that is loaded. -/
theorem load_of_string (works : around.load other = .ok settings)
    (meant : Environment.ofText text = .string key) :
    around.load text = accepted (settings.withKey (some key)) := by
  have closed (base value : Json) (isKey : value = .string key) :
      overlay base value = .string key := by
    rw [isKey]
    exact overlay_of_isObject_eq_false rfl
  obtain ⟨_, rfl, loaded⟩ := load_replaced closed works meant
  exact loaded

/-- A text of the variable that means something else cannot be a key. -/
theorem load_of_typed (works : around.load other = .ok settings)
    (noText : (Environment.ofText text).string? = none) :
    around.load text = .error (.project .value) := by
  -- null would be read as no key, so what is laid over other values must not become null either
  have closed (base value : Json) (typed : value.string? = none ∧ value ≠ .null) :
      (overlay base value).string? = none ∧ overlay base value ≠ .null := by
    cases object : value.isObject with
    | false =>
      rw [overlay_of_isObject_eq_false object]
      exact typed
    | true =>
      have stays : (overlay base value).isObject = true := isObject_overlay object
      generalize overlay base value = laid at stays
      cases laid with
      | object members => exact ⟨rfl, nofun⟩
      | null | bool | integer | decimal | string | array | unreadable => cases stays
  obtain ⟨given, ⟨noText, notNull⟩, loaded⟩ :=
    load_replaced closed works ⟨noText, Environment.ofText_ne_null text⟩
  have unread : (Field.given given).optional Json.string? = none := by
    cases given with
    | null => exact absurd rfl notNull
    | string key => cases noText
    | bool | integer | decimal | array | object | unreadable => rfl
  rw [loaded, unread, Option.elim_none]

/-! ## The check

Of all demands only those on the key and on the program that fetches one depend on the key, and a
key that is not blank meets both. -/

theorem accepted_eq_ok_iff {loaded : Settings} :
    accepted settings = .ok loaded ↔ settings.check = .ok () ∧ settings = loaded := by
  unfold accepted
  cases settings.check with
  | error problem => simp [Except.mapError, Except.map]
  | ok _ => simp [Except.mapError, Except.map]

theorem check_of_load (works : around.load other = .ok settings) : settings.check = .ok () := by
  unfold Surroundings.load at works
  rw [on_load] at works
  obtain ⟨layers, found, read⟩ := ofLayers_eq_ok works
  rw [found, ofLayers_ok, read] at works
  exact (accepted_eq_ok_iff.mp works).1

/-- A key that is not blank is no reason to refuse settings. -/
theorem check_withKey (checked : settings.check = .ok ())
    (notBlank : Text.isBlankText key = false) :
    (settings.withKey (some key)).check = .ok () := by
  have keyed : (settings.withKey (some key)).worker.usableKey?.isSome = true := by
    simp [withKey, Worker.usableKey?, notBlank]
  rw [check_eq_ok_iff, demands] at checked ⊢
  simp only [List.forall_mem_cons] at checked ⊢
  obtain ⟨endpoint, model, -, -, others⟩ := checked
  exact ⟨endpoint, model, by rw [keyed]; rfl, by rw [keyed]; rfl, others⟩

/-! ## Secrets

What arrives depends on what the text of the variable means as a value. A secret that means itself
arrives; one that means another text arrives changed, and one that means no text is refused. -/

/-- **Which secrets arrive.** Where settings are loaded with some key, a secret that is not blank is
loaded as it stands exactly when it is a word without blanks around it that is no number, or no
value at all. A secret that is a value is what the value is: another text arrives as the key, and a
truth value, a number, a list or entries are refused. -/
theorem secret_arrives_iff (works : around.load other = .ok settings)
    (notBlank : Text.isBlankText secret = false) :
    ((∃ loaded, around.load secret = .ok loaded ∧ loaded.worker.apiKey = some secret) ↔
      Environment.Literal secret) ∧
    (Environment.Literal secret → around.load secret = .ok (settings.withKey (some secret))) ∧
    ∀ value, Environment.Value secret.toList value → around.load secret =
      value.string?.elim (.error (.project .value)) fun key =>
        accepted (settings.withKey (some key)) := by
  have arrives (literal : Environment.Literal secret) :
      around.load secret = .ok (settings.withKey (some secret)) := by
    rw [load_of_string works (Environment.ofText_eq_self_iff.mpr literal)]
    exact accepted_eq_ok_iff.mpr ⟨check_withKey (check_of_load works) notBlank, rfl⟩
  have means : around.load secret = (Environment.ofText secret).string?.elim
      (.error (.project .value)) fun key => accepted (settings.withKey (some key)) := by
    -- no text is refused, and a text arrives as it is meant
    cases meant : (Environment.ofText secret).string? with
    | none => exact load_of_typed works meant
    | some key => exact load_of_string works (faithful_string.written meant)
  refine ⟨⟨?_, fun literal => ⟨_, arrives literal, rfl⟩⟩, arrives, fun value given => ?_⟩
  · rintro ⟨loaded, found, isSecret⟩
    cases meant : (Environment.ofText secret).string? with
    | none =>
      rw [means, meant] at found
      cases found
    | some key =>
      rw [means, meant, Option.elim_some] at found
      obtain ⟨-, rfl⟩ := accepted_eq_ok_iff.mp found
      obtain rfl : key = secret := Option.some.inj isSecret
      exact Environment.ofText_eq_self_iff.mp (faithful_string.written meant)
  · rw [means, Environment.ofText_of_value given]

/-- A project without files, whose endpoint is set in the environment. -/
def addressedOnly : Surroundings where
  disk := diskOf []
  workingDirectory := ⟨"/"⟩
  directory := ⟨"/p"⟩
  before := [("AZC_FIXER_WORKER__ENDPOINT", "https://e.example/p")]
  name := "AZC_FIXER_WORKER__API_KEY"
  after := []
  named := by decide +kernel
  last := nofun

theorem exists_load_addressedOnly :
    ∃ settings, addressedOnly.load "k" = .ok settings ∧ settings.worker.apiKey = some "k" := by
  have found : (addressedOnly.load "k").map (·.worker.apiKey) = .ok (some "k") := by
    decide +kernel
  cases works : addressedOnly.load "k" with
  | error failure =>
    rw [works] at found
    cases found
  | ok settings =>
    rw [works] at found
    exact ⟨settings, rfl, Except.ok.inj found⟩

/-- A secret that no bracket opens arrives with its blanks, a character in quotes arrives without
them, and a list is refused. -/
theorem secret_arrives_iff_brackets :
    (∃ loaded, addressedOnly.load " s]1" = .ok loaded ∧ loaded.worker.apiKey = some " s]1") ∧
      (∃ loaded, addressedOnly.load "'7'" = .ok loaded ∧ loaded.worker.apiKey = some "7") ∧
      addressedOnly.load "[s, 1]" = .error (.project .value) := by
  obtain ⟨settings, works, -⟩ := exists_load_addressedOnly
  have literal : Environment.Literal " s]1" := Environment.ofText_eq_self_iff.mp (by rfl)
  have character : Environment.Value "'7'".toList (.string "7") :=
    Environment.value?_eq_some_iff.mp (by rfl)
  have list : Environment.Value "[s, 1]".toList (.array [.string "s", .integer 1]) :=
    Environment.value?_eq_some_iff.mp (by rfl)
  have checked := @check_withKey "7" settings (check_of_load works) (by decide)
  refine ⟨(secret_arrives_iff works (by decide)).1.mpr literal, ?_,
    (secret_arrives_iff works (by decide)).2.2 _ list⟩
  exact ⟨_, ((secret_arrives_iff works (by decide)).2.2 _ character).trans
    (accepted_eq_ok_iff.mpr ⟨checked, rfl⟩), rfl⟩

/-- A secret of digits is refused where another one is loaded. -/
theorem secret_of_digits_refused :
    (∃ settings, addressedOnly.load "k" = .ok settings ∧ settings.worker.apiKey = some "k") ∧
      addressedOnly.load "12345678" = .error (.project .value) := by
  obtain ⟨settings, works, isKey⟩ := exists_load_addressedOnly
  exact ⟨⟨settings, works, isKey⟩, load_of_typed works (by rfl)⟩

end AzcRepair.Settings
