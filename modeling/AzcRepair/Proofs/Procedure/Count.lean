import AzcRepair.Proofs.Procedure.Monitor

/-!
# Counting events

How many events of a kind a procedure can have, whatever the answers are.

* `AtMost` — no history of the procedure has more events of this kind than that.
* `AtMost.bind` — the bounds of two parts add up when one follows on the other.
* `AtMost.sound` — the bound speaks about every history.
-/

namespace AzcRepair

open Procedure (Event History Yields)

namespace Monitor

variable {C : Type} {A : C → Type} {α β : Type} {counted : Event C A → Bool}

/-- The monitor that permits everything and counts the events of one kind. -/
def counter (counted : Event C A → Bool) : Monitor C A Nat where
  note sum c answer := if counted ⟨c, answer⟩ then sum + 1 else sum
  permits _ _ := True

/-- The state of the counter is the number of the events it counts. -/
theorem counter_after (sum : Nat) (history : History C A) :
    (counter counted).after sum history = sum + history.countP counted := by
  induction history generalizing sum with
  | nil => rfl
  | cons event history ih =>
    rw [after_cons, ih, List.countP_cons]
    obtain ⟨c, answer⟩ := event
    simp only [counter]
    split <;> omega

/-- No history of the procedure has more events of this kind than that. -/
def AtMost (counted : Event C A → Bool) (most : Nat) (p : Procedure C A α) : Prop :=
  ∀ sum, (counter counted).Ensures p sum fun _ after => after ≤ sum + most

theorem AtMost.sound {most : Nat} {p : Procedure C A α} {history : History C A} {value : α}
    (h : AtMost counted most p) (hy : Yields p history value) : history.countP counted ≤ most := by
  have bound := ((h 0).sound hy).2
  rw [counter_after] at bound
  omega

/-- A bound on a walk is the same as a bound on every history. -/
theorem atMost_iff {most : Nat} {p : Procedure C A α} :
    AtMost counted most p ↔
      ∀ history value, Yields p history value → history.countP counted ≤ most := by
  refine ⟨fun h _ _ => h.sound, fun h sum => ?_⟩
  refine ensures_of_yields (fun _ _ => trivial) fun _ _ hy => ?_
  rw [counter_after]
  exact Nat.add_le_add_left (h _ _ hy) sum

/-- Of some of these events there are no more than of all of them. -/
theorem AtMost.narrow {some : Event C A → Bool} {most : Nat} {p : Procedure C A α}
    (h : AtMost counted most p) (among : ∀ event, some event = true → counted event = true) :
    AtMost some most p :=
  -- over histories and not over the tree: there the library's lemma on counts applies
  atMost_iff.mpr fun _ _ hy =>
    Nat.le_trans (List.countP_mono_left fun event _ => among event) (h.sound hy)

theorem AtMost.mono {few many : Nat} {p : Procedure C A α} (h : AtMost counted few p)
    (le : few ≤ many) : AtMost counted many p :=
  fun sum => (h sum).mono fun _ after bound => by omega

/-- A procedure that is done has no event to count. -/
theorem atMost_done (most : Nat) (value : α) :
    AtMost counted most (.done value : Procedure C A α) :=
  fun sum => Nat.le_add_right sum most

/-- A call adds its own events to those of the rest. -/
theorem atMost_call {one rest : Nat} {c : C} {next : A c → Procedure C A α}
    (first : ∀ answer, (counted ⟨c, answer⟩).toNat ≤ one)
    (later : ∀ answer, AtMost counted rest (next answer)) :
    AtMost counted (one + rest) (.call c next) := by
  intro sum
  refine ⟨trivial, fun answer => (later answer _).mono fun _ after bound => ?_⟩
  have own := first answer
  have noted : (counter counted).note sum c answer = sum + (counted ⟨c, answer⟩).toNat := by
    simp only [counter]
    cases counted ⟨c, answer⟩ <;> rfl
  omega

theorem atMost_ask {one : Nat} {c : C} (first : ∀ answer, (counted ⟨c, answer⟩).toNat ≤ one) :
    AtMost counted one (Procedure.ask c : Procedure C A (A c)) :=
  atMost_call first fun answer => atMost_done 0 answer

/-- The bounds of two parts that follow each other add up. -/
theorem AtMost.bind {first rest : Nat} {p : Procedure C A α} {next : α → Procedure C A β}
    (hp : AtMost counted first p) (hn : ∀ value, AtMost counted rest (next value)) :
    AtMost counted (first + rest) (p >>= next) := by
  intro sum
  refine ensures_bind.mpr ((hp sum).mono fun value middle before => ?_)
  exact (hn value middle).mono fun _ after bound => by omega

/-- A procedure of calls of other kinds leaves the count alone. -/
theorem ensures_uncounted {kind : C → Prop} {p : Procedure C A α} {sum : Nat}
    {post : α → Nat → Prop} (calls : Only kind p)
    (other : ∀ c answer, kind c → counted ⟨c, answer⟩ = false) (ends : ∀ value, post value sum) :
    (counter counted).Ensures p sum post := by
  refine ensures_of_only calls (fun c ofKind => ⟨trivial, fun answer => ?_⟩) ends
  simp [counter, other c answer ofKind]

end Monitor

end AzcRepair
