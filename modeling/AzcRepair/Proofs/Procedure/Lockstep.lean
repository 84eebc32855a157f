import AzcRepair.Proofs.Procedure.Monitor
import Mathlib.Data.List.Forall2

/-!
# Procedures in lockstep

Two procedures that make calls which are alike, as long as the answers are alike, until both end
alike or the first one stops early. Run in two worlds that answer alike, the first has a history
that is alike to the beginning of the other's, and to all of it unless it stopped early.

* `Likeness` — which calls and which events count as the same.
* `Lockstep` — the relation of two procedures, with one rule for each way to go on or to end.
* `Lockstep.bind` — procedures stay in lockstep when they go on in lockstep.
* `Lockstep.replay` — what lockstep says about two worlds that answer alike.
-/

namespace AzcRepair

namespace Procedure

variable {C : Type} {A : C → Type} {α β : Type}

/-- What counts as the same call and as the same event. -/
structure Likeness (C : Type) (A : C → Type) where
  calls : C → C → Prop
  events : Event C A → Event C A → Prop

/-- The procedures make calls that are alike, whatever they are answered as long as the events are
alike, and end in values that are related. The first one may stop early. -/
inductive Lockstep (like : Likeness C A) (ends : α → α → Prop) (stops : α → Prop) :
    Procedure C A α → Procedure C A α → Prop
  | done {value other : α} (both : ends value other) :
    Lockstep like ends stops (.done value) (.done other)
  | stopped {value : α} {other : Procedure C A α} (stop : stops value) :
    Lockstep like ends stops (.done value) other
  | call {c d : C} {next : A c → Procedure C A α} {later : A d → Procedure C A α}
    (calls : like.calls c d)
    (step : ∀ answer reply, like.events ⟨c, answer⟩ ⟨d, reply⟩ →
      Lockstep like ends stops (next answer) (later reply)) :
    Lockstep like ends stops (.call c next) (.call d later)

namespace Lockstep

variable {like : Likeness C A} {ends meets : α → α → Prop} {stops : α → Prop}
  {p q : Procedure C A α}

/-- Lockstep does not depend on how much is demanded of the ends. -/
theorem mono (h : Lockstep like meets stops p q)
    (imp : ∀ value other, meets value other → ends value other) :
    Lockstep like ends stops p q := by
  induction h with
  | done both => exact .done (imp _ _ both)
  | stopped stop => exact .stopped stop
  | call calls _ ih => exact .call calls ih

/-- Parts that do not stop early may be followed by further parts. -/
theorem bind {agree : β → β → Prop} {halts : β → Prop} {next later : α → Procedure C A β}
    (h : Lockstep like meets (fun _ => False) p q)
    (rest : ∀ value other, meets value other →
      Lockstep like agree halts (next value) (later other)) :
    Lockstep like agree halts (p >>= next) (q >>= later) := by
  induction h with
  | done both => exact rest _ _ both
  | stopped stop => exact stop.elim
  | call calls _ ih => exact .call calls ih

/-- A procedure is in lockstep with itself when its calls tell like answers apart. -/
theorem refl_of_only {kind : C → Prop} (calls : Monitor.Only kind p)
    (like_refl : ∀ c, kind c → like.calls c c)
    (tells : ∀ c answer reply, kind c → like.events ⟨c, answer⟩ ⟨c, reply⟩ → answer = reply) :
    Lockstep like Eq (fun _ => False) p p := by
  induction p with
  | done value => exact .done rfl
  | call c next ih =>
    refine .call (like_refl c calls.1) fun answer reply events => ?_
    obtain rfl := tells c answer reply calls.1 events
    exact ih answer (calls.2 answer)

/-- In two worlds that answer alike the histories are alike, and so are the ends, or the first
procedure stopped early and its history is alike to a beginning of the other one. -/
theorem replay {one other : History C A → (c : C) → A c}
    (respects : ∀ past before c d, List.Forall₂ like.events past before → like.calls c d →
      like.events ⟨c, one past c⟩ ⟨d, other before d⟩)
    (h : Lockstep like ends stops p q) {past before : History C A}
    (same : List.Forall₂ like.events past before) :
    (List.Forall₂ like.events (p.replay one past).1 (q.replay other before).1 ∧
        ends (p.replay one past).2 (q.replay other before).2) ∨
      (stops (p.replay one past).2 ∧ ∃ shared rest,
        (q.replay other before).1 = shared ++ rest ∧
          List.Forall₂ like.events (p.replay one past).1 shared) := by
  -- the induction is on the rules; the pasts grow by events that are alike
  induction h generalizing past before with
  | done both => exact .inl ⟨same, both⟩
  -- the other procedure goes on alone, and what it had in common is the past
  | @stopped value other stop =>
    obtain ⟨history, starts, -⟩ := replay_yields _ other before
    exact .inr ⟨stop, before, history, starts, same⟩
  | @call c d next later calls _ ih =>
    have events := respects past before c d same calls
    have further : List.Forall₂ like.events (past ++ [⟨c, one past c⟩])
        (before ++ [⟨d, other before d⟩]) :=
      List.rel_append same (.cons events .nil)
    exact ih _ _ events further

end Lockstep

end Procedure

end AzcRepair
