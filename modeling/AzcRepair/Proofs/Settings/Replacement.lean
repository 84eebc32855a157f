import AzcRepair.Proofs.Settings.Precedence

/-!
# Settings that differ in one place

What stands at one place of a layer is replaced. The layers above and below it then come to values
that differ in that place only, and so do the settings that are read of them.

* `Replaced` — two values that differ in one place only.
* `Replaced.over`, `Replaced.under` — they still do when they are laid over a value, or under one
  that is silent at the place.
* `Environment.replaced_layer` — two environments that differ in the text of one variable.
* `record?_replaced` — a record of which one field differs is read alike in the others.
* `ofJson?_replaced` — settings of which the key of the worker differs.
-/

namespace AzcRepair

open Json (Distinct Field last? last?_cons member? names)

variable {holds : Json → Prop} {place : List String} {value other base top : Json} {key : String}

namespace Json

theorem Distinct.of_member? (distinct : Distinct value) {field : Json}
    (found : member? key value = some field) : Distinct field := by
  cases value with
  | object members => exact distinct.member found
  | null | bool | integer | decimal | string | array | unreadable => cases found

end Json

namespace Settings

/-! ## Values

To compare what two texts of one variable lead to, nothing need be known of the settings around
it: the two layers differ in one place, and laying them over and under other layers keeps it so.
-/

/-- Both values have something at a place and are alike elsewhere, and `holds` is true of what the
second one has there. -/
def Replaced (holds : Json → Prop) : List String → Json → Json → Prop
  | [], _, other => holds other
  | key :: place, value, other =>
    value.isObject = true ∧ other.isObject = true ∧
      (∀ name, name ≠ key → member? name value = member? name other) ∧
      ∃ inner replaced, member? key value = some inner ∧ member? key other = some replaced ∧
        Replaced holds place inner replaced

theorem replaced_nest {replaced : Json} (replacement : holds replaced) (place : List String)
    (inner : Json) : Replaced holds place (Json.nest place inner) (Json.nest place replaced) := by
  induction place with
  | nil => exact replacement
  | cons key place ih =>
    have member (name : String) (value : Json) : member? name (Json.nest (key :: place) value) =
        if key = name then some (Json.nest place value) else none := by
      show last? name [(key, Json.nest place value)] = _
      rw [last?_cons]
      rfl
    refine ⟨rfl, rfl, fun name ne => ?_, _, _, ?_, ?_, ih⟩
    · rw [member, member, if_neg (Ne.symm ne), if_neg (Ne.symm ne)]
    · rw [member, if_pos rfl]
    · rw [member, if_pos rfl]

/-- Laid over the same value, they still differ in that place only. -/
theorem Replaced.over (closed : ∀ base value, holds value → holds (overlay base value))
    (replaced : Replaced holds place value other) (distinct : Distinct value)
    (distinctOther : Distinct other) (distinctBase : Distinct base) :
    Replaced holds place (overlay base value) (overlay base other) := by
  induction place generalizing value other base with
  | nil => exact closed base other replaced
  | cons key place ih =>
    obtain ⟨object, objectOther, elsewhere, inner, instead, found, foundInstead, below⟩ := replaced
    cases objectBase : base.isObject with
    | false =>
      have same {top : Json} (isObject : top.isObject = true) : overlay base top = top := by
        cases top with
        | object members => exact overlay_hides objectBase members
        | null | bool | integer | decimal | string | array | unreadable => cases isObject
      rw [same object, same objectOther]
      exact ⟨object, objectOther, elsewhere, inner, instead, found, foundInstead, below⟩
    | true =>
      -- both are merged into the base, member by member
      have member (name : String) :=
        @member?_overlay base value name objectBase object distinctBase distinct
      have memberOther (name : String) :=
        @member?_overlay base other name objectBase objectOther distinctBase distinctOther
      refine ⟨isObject_overlay object, isObject_overlay objectOther, fun name ne => ?_,
        onto (member? key base) inner, onto (member? key base) instead, ?_, ?_, ?_⟩
      · rw [member, memberOther, elsewhere name ne]
      · rw [member, found]
      · rw [memberOther, foundInstead]
      · cases underneath : member? key base with
        | none => exact below
        | some lower =>
          exact ih below (distinct.of_member? found) (distinctOther.of_member? foundInstead)
            (distinctBase.of_member? underneath)

/-- What is silent at the place is laid over both alike. -/
theorem Replaced.under (replaced : Replaced holds place value other) (distinct : Distinct value)
    (distinctOther : Distinct other) (silent : Silent place top) (distinctTop : Distinct top) :
    Replaced holds place (overlay value top) (overlay other top) := by
  induction place generalizing value other top with
  | nil => exact silent.elim
  | cons key place ih =>
    obtain ⟨object, objectOther, elsewhere, inner, instead, found, foundInstead, below⟩ := replaced
    obtain ⟨objectTop, silent⟩ := silent
    have member (name : String) :=
      @member?_overlay value top name object objectTop distinct distinctTop
    have memberOther (name : String) :=
      @member?_overlay other top name objectOther objectTop distinctOther distinctTop
    have same (name : String) (ne : name ≠ key) :
        member? name (overlay value top) = member? name (overlay other top) := by
      rw [member, memberOther, elsewhere name ne]
    -- the layer on top may say something of this section, but nothing of the place in it
    cases above : member? key top with
    | none =>
      refine ⟨isObject_overlay objectTop, isObject_overlay objectTop, same, inner, instead, ?_, ?_,
        below⟩
      · rw [member, above, found]
      · rw [memberOther, above, foundInstead]
    | some field =>
      refine ⟨isObject_overlay objectTop, isObject_overlay objectTop, same, overlay inner field,
        overlay instead field, ?_, ?_, ?_⟩
      · rw [member, above, found]
        rfl
      · rw [memberOther, above, foundInstead]
        rfl
      · exact ih below (distinct.of_member? found) (distinctOther.of_member? foundInstead)
          (silent field above) (distinctTop.of_member? above)

theorem Replaced.under_all {tops : List Json} (replaced : Replaced holds place value other)
    (distinct : Distinct value) (distinctOther : Distinct other)
    (silent : ∀ top ∈ tops, Silent place top ∧ Distinct top) :
    Replaced holds place (tops.foldl overlay value) (tops.foldl overlay other) := by
  induction tops generalizing value other with
  | nil => exact replaced
  | cons top tops ih =>
    obtain ⟨⟨silentTop, distinctTop⟩, silent⟩ := List.forall_mem_cons.mp silent
    exact ih (replaced.under distinct distinctOther silentTop distinctTop)
      (distinct_overlay distinctTop distinct) (distinct_overlay distinctTop distinctOther) silent

/-! ## Environments

Of an environment the variables before the one in question are laid below it and those behind it
on top. Behind it none may lead to the same place, or it would not matter. -/

namespace Environment

variable {before after : List (String × String)} {name : String}

theorem layer_of_named (named : keys? name = some place) (text : String) :
    layer (before ++ (name, text) :: after) =
      (after.filterMap set?).foldl overlay
        (overlay (layer before) (Json.nest place (ofText text))) := by
  have set : set? (name, text) = some (Json.nest place (ofText text)) := by
    rw [set?, named]
    rfl
  have all (environment : List (String × String)) :
      layer environment = (environment.filterMap set?).foldl overlay (.object []) := rfl
  rw [all, List.filterMap_append, List.filterMap_cons_some set, List.foldl_append, List.foldl_cons,
    ← all]

/-- Environments that give a variable other texts differ in the place that it leads to, when no
later variable leads there. -/
theorem replaced_layer (closed : ∀ base value, holds value → holds (overlay base value))
    (named : keys? name = some place) (aside : ∀ entry ∈ after, leadsTo place entry = false)
    {text : String} (replacement : holds (ofText text)) (other : String) :
    Replaced holds place (layer (before ++ (name, other) :: after))
      (layer (before ++ (name, text) :: after)) := by
  have distinct (text : String) : Distinct (Json.nest place (ofText text)) :=
    (distinct_ofText text).nest place
  have later : ∀ top ∈ after.filterMap set?, Silent place top ∧ Distinct top := by
    intro top set
    obtain ⟨entry, mem, set⟩ := List.mem_filterMap.mp set
    refine ⟨silent_set (aside entry mem) set, ?_⟩
    obtain ⟨keys, -, rfl⟩ := Option.map_eq_some_iff.mp set
    exact (distinct_ofText entry.2).nest keys
  rw [layer_of_named named, layer_of_named named]
  have here := (replaced_nest replacement place (ofText other)).over closed (distinct other)
    (distinct text) (distinct_layer before)
  exact here.under_all (distinct_overlay (distinct other) (distinct_layer before))
    (distinct_overlay (distinct text) (distinct_layer before)) later

end Environment

/-! ## Records

Two values that differ in one place are read as records that differ in one field. The key of the
worker stands two sections deep, so this is applied twice. -/

/-- What an object says of a field once it is prepared, by the member of its name. -/
def fieldOf (prepare : String → Json → Json) (value : Json) (key : String) : Field :=
  ((member? key value).map (prepare key)).elim .absent .given

theorem namedField?_of_nodup {members : List (String × Json)} (once : (names members).Nodup)
    (key : String) :
    Json.namedField? members [key] = some ((last? key members).elim .absent .given) := by
  rw [Json.namedField?_single, last?_eq_getLast?]
  -- at most one member has the name
  have kept : (names (members.filter (·.1 == key))).Nodup :=
    once.sublist (List.filter_sublist.map _)
  have same : ∀ m ∈ members.filter (·.1 == key), m.1 = key := by simp
  generalize members.filter (·.1 == key) = found at kept same
  match found with
  | [] => rfl
  | [m] => rfl
  | first :: second :: _ =>
    have here : first.1 = key := same first (by simp)
    have next : second.1 = key := same second (by simp)
    simp [names, here, next] at kept

theorem mapM_namedField? {members : List (String × Json)} (once : (names members).Nodup)
    (fields : List String) : (fields.map ([·])).mapM (Json.namedField? members) =
      some (fields.map fun key => (last? key members).elim .absent .given) := by
  induction fields with
  | nil => rfl
  | cons key fields ih =>
    rw [List.map_cons, List.mapM_cons, namedField?_of_nodup once, ih]
    rfl

/-- An object that names nothing twice is read by its members. -/
theorem record?_prepareRecord (fields : List String) (prepare : String → Json → Json)
    (object : value.isObject = true) (distinct : Distinct value) :
    (prepareRecord fields prepare value).record? fields =
      some (fields.map (fieldOf prepare value)) := by
  cases distinct with
  | @object members once each =>
    have same : names (members.map fun m => (m.1, prepare m.1 m.2)) = names members := by
      unfold names
      rw [List.map_map]
      rfl
    have read := mapM_namedField? (same ▸ once) fields
    simp only [last?_map_field] at read
    exact read
  | array | null | bool | integer | decimal | string | unreadable => cases object

/-- Of a record with another value in one field, the other fields are read alike. -/
theorem record?_replaced (replaced : Replaced holds (key :: place) value other)
    (distinct : Distinct value) (distinctOther : Distinct other) (fields : List String)
    (prepare : String → Json → Json) :
    ∃ (said : String → Field) (inner given : Json), Replaced holds place inner given ∧
      Distinct inner ∧ Distinct given ∧ said key = .given (prepare key inner) ∧
      (prepareRecord fields prepare value).record? fields = some (fields.map said) ∧
      (prepareRecord fields prepare other).record? fields = some (fields.map fun name =>
        if name = key then .given (prepare key given) else said name) := by
  obtain ⟨object, objectOther, elsewhere, inner, given, found, foundOther, below⟩ := replaced
  refine ⟨fieldOf prepare value, inner, given, below, distinct.of_member? found,
    distinctOther.of_member? foundOther, ?_,
    record?_prepareRecord fields prepare object distinct, ?_⟩
  · rw [fieldOf, found]
    rfl
  · rw [record?_prepareRecord fields prepare objectOther distinctOther]
    refine congrArg some (List.map_congr_left fun name _ => ?_)
    -- the field of the key is the one that was replaced
    split
    · next same =>
      rw [same, fieldOf, foundOther]
      rfl
    · next ne => rw [fieldOf, fieldOf, elsewhere name ne]

/-- Of worker settings with another key, the key alone is read otherwise. -/
theorem Worker.ofJson?_replaced {worker : Worker}
    (replaced : Replaced holds ["api_key"] value other) (distinct : Distinct value)
    (distinctOther : Distinct other) (read : ofJson? (prepareWorker value) = some worker) :
    ∃ given, holds given ∧ ofJson? (prepareWorker other) =
      ((Field.given given).optional Json.string?).map fun key => { worker with apiKey := key } := by
  obtain ⟨said, _, given, holds, -, -, -, record, recordOther⟩ :=
    record?_replaced replaced distinct distinctOther fieldNames _
  refine ⟨given, holds, ?_⟩
  obtain ⟨_, fields, read⟩ := Option.bind_eq_some_iff.mp read
  split at read
  · dsimp only [Option.bind_eq_bind] at read
    simp only [↓Option.bind_eq_some_iff, Option.pure_def, Option.some.injEq] at read
    obtain ⟨_, endpoint, _, version, _, keyed, _, authed, _, model, _, agent, _, interval, _,
      polls, _, delay, _, retries, _, timeout, _, purge, _, retried, rfl⟩ := read
    cases record.symm.trans fields
    simp only [fieldNames, List.map_cons, List.map_nil, String.reduceEq, reduceIte] at recordOther
    refine (congrArg (Option.bind · _) recordOther).trans ?_
    -- the fields are at hand, so the record is read field by field
    change ((said "endpoint").orDefault _ _).bind _ = _
    simp only [Option.bind_eq_bind, Option.bind_some, endpoint, version, authed, model, agent,
      interval, polls, delay, retries, timeout, purge, retried]
    change ((Field.given given).optional Json.string?).bind _ = _
    cases (Field.given given).optional Json.string? <;> rfl
  · cases read

/-- Settings with another key of the worker. -/
def withKey (settings : Settings) (key : Option String) : Settings :=
  { settings with worker := { settings.worker with apiKey := key } }

/-- Of settings with another key of the worker, this key alone is read otherwise. -/
theorem ofJson?_replaced {settings : Settings}
    (replaced : Replaced holds ["worker", "api_key"] value other) (distinct : Distinct value)
    (distinctOther : Distinct other) (read : ofJson? (prepare value) = some settings) :
    ∃ given, holds given ∧ ofJson? (prepare other) =
      ((Field.given given).optional Json.string?).map settings.withKey := by
  obtain ⟨said, inner, outer, below, distinctInner, distinctOuter, isWorker, record, recordOther⟩ :=
    record?_replaced replaced distinct distinctOther fieldNames _
  obtain ⟨_, fields, read⟩ := Option.bind_eq_some_iff.mp read
  split at read
  · dsimp only [Option.bind_eq_bind] at read
    simp only [↓Option.bind_eq_some_iff, Option.pure_def, Option.some.injEq] at read
    obtain ⟨_, workspace, _, toolchain, _, worker, _, convergence, _, build, _, logging, rfl⟩ :=
      read
    cases record.symm.trans fields
    rw [isWorker] at worker
    obtain ⟨given, holds, readOther⟩ :=
      Worker.ofJson?_replaced below distinctInner distinctOuter worker
    refine ⟨given, holds, ?_⟩
    simp only [fieldNames, List.map_cons, List.map_nil, String.reduceEq, reduceIte] at recordOther
    refine (congrArg (Option.bind · _) recordOther).trans ?_
    have workerOther (default : Worker) : (Field.given (prepareWorker outer)).orDefault default
        Worker.ofJson? = _ := readOther
    change ((said "workspace").orDefault _ _).bind _ = _
    simp only [Option.bind_eq_bind, Option.bind_some, workspace, toolchain, convergence, build,
      logging, workerOther]
    cases (Field.given given).optional Json.string? <;> rfl
  · cases read

end Settings

end AzcRepair
