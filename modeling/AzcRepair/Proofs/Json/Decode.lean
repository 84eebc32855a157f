import AzcRepair.Json.Decode

/-!
# Typed values and their structured forms

How lists and texts come back from their structured form, and which values `collapse` leaves alone:
those whose objects name every member once.
-/

namespace AzcRepair.Json

variable {α : Type}

/-- A field of one name is read from the members of that name. -/
theorem namedField?_single (members : List (String × Json)) (name : String) :
    namedField? members [name] =
      match members.filter (·.1 == name) with
      | [] => some .absent
      | [m] => some (.given m.2)
      | _ => none := by
  have one (m : String × Json) : [name].contains m.1 = (m.1 == name) := by
    rw [List.contains_cons, List.contains_nil, Bool.or_false]
  -- absent, given once, or given again and refused: the three results of a field
  cases found : members.filter (·.1 == name) with
  | nil => simp only [namedField?, one, found]
  | cons m more => cases more <;> simp only [namedField?, one, found]

/-- A list comes back when each of its items does. -/
theorem list?_map {decode : Json → Option α} {encode : α → Json} {items : List α}
    (each : ∀ item ∈ items, decode (encode item) = some item) :
    list? decode (.array (items.map encode)) = some items := by
  rw [list?]
  induction items with
  | nil => rfl
  | cons item items ih =>
    rw [List.map_cons, List.mapM_cons, each item List.mem_cons_self,
      ih fun other mem => each other (List.mem_cons_of_mem _ mem)]
    rfl

theorem list?_map_string (texts : List String) :
    list? string? (.array (texts.map .string)) = some texts :=
  list?_map fun _ _ => rfl

theorem nullable_ofText? (text : Option String) :
    (Field.given (ofText? text)).nullable string? = some text := by
  cases text <;> rfl

/-! ## Members that are named once

Where no member has the name of a later one, dropping repeated members drops nothing. The values
that the program writes are all of this kind, so reading them does not depend on what a reader
does with repetitions. -/

theorem lastOfEach_of_nodup {members : List (String × Json)}
    (distinct : (members.map (·.1)).Nodup) : lastOfEach members = members := by
  induction members with
  | nil => rfl
  | cons m members ih =>
    obtain ⟨other, rest⟩ := List.nodup_cons.mp distinct
    have unnamed : members.any (·.1 == m.1) = false := by
      refine Bool.eq_false_iff.mpr fun named => ?_
      obtain ⟨later, mem, same⟩ := List.any_eq_true.mp named
      exact other (List.mem_map.mpr ⟨later, mem, beq_iff_eq.mp same⟩)
    rw [lastOfEach, unnamed, ih rest]
    rfl

/-- An object that names its members once is left alone when its members are. -/
theorem collapse_object {members : List (String × Json)}
    (distinct : (members.map (·.1)).Nodup) (each : ∀ m ∈ members, collapse m.2 = m.2) :
    collapse (.object members) = .object members := by
  -- the members are left alone one by one, then none of them is dropped
  have same : collapseMembers members = members := by
    clear distinct
    induction members with
    | nil => rfl
    | cons m members ih =>
      rw [collapseMembers, each m List.mem_cons_self,
        ih fun other mem => each other (List.mem_cons_of_mem _ mem)]
  rw [collapse, same, lastOfEach_of_nodup distinct]

theorem collapse_map {encode : α → Json} {items : List α}
    (each : ∀ item ∈ items, collapse (encode item) = encode item) :
    collapse (.array (items.map encode)) = .array (items.map encode) := by
  have same : collapseItems (items.map encode) = items.map encode := by
    induction items with
    | nil => rfl
    | cons item items ih =>
      rw [List.map_cons, collapseItems, each item List.mem_cons_self,
        ih fun other mem => each other (List.mem_cons_of_mem _ mem)]
  rw [collapse, same]

@[simp] theorem collapse_string (text : String) : collapse (.string text) = .string text := by
  simp [collapse]

@[simp] theorem collapse_ofText? (text : Option String) :
    collapse (ofText? text) = ofText? text := by
  cases text <;> simp [ofText?, collapse]

@[simp] theorem collapse_ofWord32 (n : UInt32) : collapse (ofWord32 n) = ofWord32 n := by
  simp [ofWord32, collapse]

end AzcRepair.Json
