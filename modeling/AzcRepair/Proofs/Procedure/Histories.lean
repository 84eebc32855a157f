import AzcRepair.Procedure

/-!
# The histories of procedures, step by step

Which histories a procedure can have, by the first thing that it does. Read from left to right these
take a history apart, and from right to left they put one together.
-/

namespace AzcRepair.Procedure

variable {C : Type} {A : C → Type} {α β : Type} {history : History C A}

/-- A procedure that is done has the empty history only. -/
theorem yields_done_iff {ended value : α} :
    Yields (.done ended : Procedure C A α) history value ↔ history = [] ∧ value = ended := by
  constructor
  · rintro ⟨⟩
    exact ⟨rfl, rfl⟩
  · rintro ⟨rfl, rfl⟩
    exact .done value

/-- The history of a call begins with it, and the rest goes on with the answer. -/
theorem yields_call_iff {c : C} {next : A c → Procedure C A α} {value : α} :
    Yields (.call c next) history value ↔
      ∃ answer rest, history = ⟨c, answer⟩ :: rest ∧ Yields (next answer) rest value := by
  constructor
  · rintro (_ | ⟨answer, rest⟩)
    exact ⟨answer, _, rfl, rest⟩
  · rintro ⟨answer, rest, rfl, yields⟩
    exact .call answer yields

/-- A call at the front: it is the first event, and the rest goes on with its answer. -/
theorem yields_ask_bind_iff {c : C} {next : A c → Procedure C A α} {value : α} :
    Yields (ask c >>= next) history value ↔
      ∃ answer rest, history = ⟨c, answer⟩ :: rest ∧ Yields (next answer) rest value :=
  yields_call_iff

/-- The same from right to left, as a rule to put a history together with. -/
theorem Yields.ask_bind {c : C} {next : A c → Procedure C A α} {answer : A c} {value : α}
    (rest : Yields (next answer) history value) :
    Yields (ask c >>= next) (⟨c, answer⟩ :: history) value :=
  .call answer rest

/-- Two parts that follow each other share a history out between them. -/
theorem yields_bind_iff {p : Procedure C A α} {next : α → Procedure C A β} {value : β} :
    Yields (p >>= next) history value ↔
      ∃ first second middle, history = first ++ second ∧ Yields p first middle ∧
        Yields (next middle) second value := by
  constructor
  · exact Yields.of_bind
  · rintro ⟨first, second, middle, rfl, begins, goesOn⟩
    exact begins.bind goesOn

end AzcRepair.Procedure
