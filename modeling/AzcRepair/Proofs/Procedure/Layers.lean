import AzcRepair.Proofs.Procedure.Monitor

/-!
# Procedures in layers

A procedure whose calls are carried out by procedures over other calls. A monitor of the lower calls
follows a walk through the upper ones: where carrying out one upper call keeps the states of the two
monitors related, carrying out the whole procedure does.

* `Monitor.ensures_embed` — calls under other names.
* `Monitor.Ensures.interpret` — the walk through the lower layer.
* `Procedure.handle_bind`, `Procedure.handle_embed` — answering the calls of a part and of its names.
-/

namespace AzcRepair

open Procedure (Event History Yields)

variable {C D : Type} {A : C → Type} {B : D → Type} {α β : Type}

namespace Monitor

variable {ρ σ τ : Type}

/-- The monitor of calls that are known under other names. -/
def rename (m : Monitor D B σ) (name : C → D) (forth : (c : C) → A c → B (name c)) :
    Monitor C A σ where
  note s c answer := m.note s (name c) (forth c answer)
  permits s c := m.permits s (name c)

/-- Calls are walked through as those that they are the names of. -/
theorem ensures_embed {m : Monitor D B σ} {name : C → D} {back : (c : C) → B (name c) → A c}
    {forth : (c : C) → A c → B (name c)} (inverse : ∀ c answer, forth c (back c answer) = answer)
    {p : Procedure C A α} {s : σ} {post : α → σ → Prop}
    (h : (m.rename name forth).Ensures p s post) : m.Ensures (p.embed name back) s post := by
  induction p generalizing s with
  | done value => exact h
  | call c next ih =>
    refine ⟨h.1, fun answer => ?_⟩
    have rest := ih (back c answer) (h.2 (back c answer))
    simp only [rename, inverse] at rest
    exact rest

/-- When carrying out a permitted call keeps the states of two monitors related, whatever is
answered, then carrying out a procedure does. -/
theorem Ensures.interpret {upper : Monitor C A ρ} {lower : Monitor D B σ}
    {answer : (c : C) → τ → Procedure D B (A c × τ)} (related : ρ → σ → τ → Prop)
    (carries : ∀ r s state c, related r s state → upper.permits r c →
      lower.Ensures (answer c state) s fun reply s =>
        related (upper.note r c reply.1) s reply.2)
    {p : Procedure C A α} {r : ρ} {s : σ} {state : τ} {post : α → ρ → Prop}
    (h : upper.Ensures p r post) (start : related r s state) :
    lower.Ensures (p.interpret answer state) s fun value s =>
      ∃ r, post value.1 r ∧ related r s value.2 := by
  -- the induction is on the upper procedure; below each of its calls stands a whole lower one
  induction p generalizing r s state with
  | done value => exact ⟨r, h, start⟩
  | call c next ih =>
    refine ensures_bind.mpr ((carries r s state c start h.1).mono ?_)
    rintro ⟨reply, state⟩ s kept
    exact ih reply (h.2 reply) kept

end Monitor

namespace Procedure

variable {M : Type → Type} [Monad M] [LawfulMonad M]

/-- Answering a part and then the rest is answering both in turn. -/
theorem handle_bind (answer : (c : C) → M (A c)) (p : Procedure C A α)
    (next : α → Procedure C A β) :
    (p >>= next).handle answer = p.handle answer >>= fun value => (next value).handle answer := by
  induction p with
  | done value => simp [handle]
  | call c rest ih =>
    simp only [call_bind, handle, LawfulMonad.bind_assoc]
    congr 1
    funext reply
    exact ih reply

/-- Calls under other names are answered as those that they are the names of. -/
theorem handle_embed (answer : (d : D) → M (B d)) (name : C → D) (back : (c : C) → B (name c) → A c)
    (p : Procedure C A α) :
    (p.embed name back).handle answer = p.handle fun c => back c <$> answer (name c) := by
  induction p with
  | done value => rfl
  | call c next ih =>
    simp only [embed, handle, bind_map_left]
    congr 1
    funext reply
    exact ih _

end Procedure

end AzcRepair
