import AzcRepair.Json

/-!
# Members of structured values

Finding a member by its name, and values whose objects name no member twice.

* `last?_cons` — the last member of a name, from the front.
* `Distinct` — at every depth, no object names a member twice.
* `distinct_collapse` — a value is such when repeated members were dropped.
* `member?_collapse` — dropping them changes no member that is found.
* `at?` — the value below a path of names.
-/

namespace AzcRepair.Json

variable {name : String} {value : Json} {members : List (String × Json)}

/-- The names of members. -/
def names (members : List (String × Json)) : List String :=
  members.map (·.1)

@[simp] theorem last?_nil : last? name [] = none := rfl

/-- A member at the front is found when none behind it has its name. -/
theorem last?_cons (m : String × Json) (rest : List (String × Json)) :
    last? name (m :: rest) = (last? name rest).or (if m.1 = name then some m.2 else none) := by
  unfold last?
  rw [List.reverse_cons, List.find?_append, Option.map_or]
  by_cases same : m.1 = name <;> simp [same]

theorem last?_eq_none_iff : last? name members = none ↔ name ∉ names members := by
  induction members with
  | nil => simp [names]
  | cons m rest ih =>
    rw [last?_cons, Option.or_eq_none_iff, ih]
    by_cases same : m.1 = name
    · simp [names, same]
    · simp [names, same, Ne.symm same]

theorem mem_of_last?_eq_some (found : last? name members = some value) :
    (name, value) ∈ members := by
  induction members with
  | nil => cases found
  | cons m rest ih =>
    rw [last?_cons, Option.or_eq_some_iff] at found
    rcases found with later | ⟨-, here⟩
    · exact List.mem_cons_of_mem _ (ih later)
    · obtain ⟨rfl, same⟩ := Option.ite_none_right_eq_some.mp here
      rw [← Option.some.inj same]
      exact List.mem_cons_self

/-! ## Values without repeated names

Two readers of one text may differ in which of several members of a name they take. On values
without repeated names they cannot, and `collapse` makes such a value of every other. -/

/-- At every depth, no object names a member twice. -/
inductive Distinct : Json → Prop
  | object {members : List (String × Json)} (once : (names members).Nodup)
    (each : ∀ m ∈ members, Distinct m.2) : Distinct (.object members)
  | array {items : List Json} (each : ∀ item ∈ items, Distinct item) : Distinct (.array items)
  | null : Distinct .null
  | bool (value : Bool) : Distinct (.bool value)
  | integer (value : Int) : Distinct (.integer value)
  | decimal (mantissa exponent : Int) : Distinct (.decimal mantissa exponent)
  | string (value : String) : Distinct (.string value)
  | unreadable : Distinct .unreadable

theorem Distinct.member (distinct : Distinct (.object members))
    (found : last? name members = some value) : Distinct value := by
  cases distinct with
  | object once each => exact each _ (mem_of_last?_eq_some found)

theorem Distinct.nest (distinct : Distinct value) (path : List String) :
    Distinct (nest path value) := by
  induction path with
  | nil => exact distinct
  | cons key path ih =>
    have once : (names [(key, Json.nest path value)]).Nodup := by simp [names]
    exact .object once (List.forall_mem_singleton.mpr ih)

theorem mem_of_mem_lastOfEach {m : String × Json} (mem : m ∈ lastOfEach members) :
    m ∈ members := by
  induction members with
  | nil => exact mem
  | cons first rest ih =>
    rw [lastOfEach] at mem
    split at mem
    · exact List.mem_cons_of_mem _ (ih mem)
    · rcases List.mem_cons.mp mem with rfl | mem
      · exact List.mem_cons_self
      · exact List.mem_cons_of_mem _ (ih mem)

theorem nodup_lastOfEach (members : List (String × Json)) : (names (lastOfEach members)).Nodup := by
  induction members with
  | nil => exact List.nodup_nil
  | cons m rest ih =>
    rw [lastOfEach]
    -- either a later member has the name of the first, or none of those that stay has it
    split
    · exact ih
    · next unnamed =>
      refine List.nodup_cons.mpr ⟨fun named => unnamed ?_, ih⟩
      obtain ⟨later, mem, same⟩ := List.mem_map.mp named
      exact List.any_eq_true.mpr ⟨later, mem_of_mem_lastOfEach mem, beq_iff_eq.mpr same⟩

theorem distinct_lastOfEach (each : ∀ m ∈ members, Distinct m.2) :
    Distinct (.object (lastOfEach members)) :=
  .object (nodup_lastOfEach members) fun m mem => each m (mem_of_mem_lastOfEach mem)

mutual

theorem distinct_collapse : ∀ value : Json, Distinct (collapse value)
  | .array items => by
    rw [collapse]
    exact .array (distinct_collapseItems items)
  | .object members => by
    rw [collapse]
    exact distinct_lastOfEach (distinct_collapseMembers members)
  | .null => .null
  | .bool value => .bool value
  | .integer value => .integer value
  | .decimal mantissa exponent => .decimal mantissa exponent
  | .string value => .string value
  | .unreadable => .unreadable

theorem distinct_collapseItems : ∀ items : List Json, ∀ item ∈ collapseItems items, Distinct item
  | [] => List.forall_mem_nil _
  | item :: rest => List.forall_mem_cons.mpr ⟨distinct_collapse item, distinct_collapseItems rest⟩

theorem distinct_collapseMembers :
    ∀ members : List (String × Json), ∀ m ∈ collapseMembers members, Distinct m.2
  | [] => List.forall_mem_nil _
  | m :: rest => List.forall_mem_cons.mpr ⟨distinct_collapse m.2, distinct_collapseMembers rest⟩

end

/-! ## Dropped members

Dropping must not change what is found: of several members of a name the last one counts, and it
is the one that stays. -/

/-- Of several members with one name, the last is not dropped. -/
theorem last?_lastOfEach (name : String) (members : List (String × Json)) :
    last? name (lastOfEach members) = last? name members := by
  induction members with
  | nil => rfl
  | cons m rest ih =>
    rw [lastOfEach]
    -- a first member that is dropped is not the one that is found: a later one has its name
    split
    · next named =>
      rw [ih, last?_cons]
      by_cases same : m.1 = name
      · obtain ⟨later, mem, again⟩ := List.any_eq_true.mp named
        have found : last? name rest ≠ none := fun missing =>
          last?_eq_none_iff.mp missing
            (List.mem_map.mpr ⟨later, mem, (beq_iff_eq.mp again).trans same⟩)
        obtain ⟨value, found⟩ := Option.ne_none_iff_exists'.mp found
        rw [found, Option.some_or]
      · rw [if_neg same, Option.or_none]
    · rw [last?_cons, last?_cons, ih]

theorem last?_collapseMembers (name : String) (members : List (String × Json)) :
    last? name (collapseMembers members) = (last? name members).map collapse := by
  induction members with
  | nil => simp [collapseMembers]
  | cons m rest ih =>
    rw [collapseMembers, last?_cons, last?_cons, ih]
    by_cases same : m.1 = name <;> cases last? name rest <;> simp [same]

/-- A member that is found in a value is found where repeated members were dropped. -/
theorem member?_collapse (name : String) (value : Json) :
    value.collapse.member? name = (value.member? name).map collapse := by
  cases value with
  | object members =>
    rw [collapse]
    exact (last?_lastOfEach name _).trans (last?_collapseMembers name members)
  | _ => simp [collapse, member?]

theorem isObject_collapse (value : Json) : value.collapse.isObject = value.isObject := by
  cases value <;> simp [collapse, isObject]

theorem string?_collapse (value : Json) : value.collapse.string? = value.string? := by
  cases value <;> simp [collapse, string?]

/-! ## Paths

A setting stands below the names of its sections. -/

/-- The value below a path of names. -/
def at? : List String → Json → Option Json
  | [], value => some value
  | name :: path, value => (value.member? name).bind (at? path)

end AzcRepair.Json
