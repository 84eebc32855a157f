import AzcRepair.Procedure

/-!
# Monitors of procedures

A monitor follows a history event by event: it keeps a state, and in every state it permits some
calls and not others. What a procedure does in every world is then shown by walking through the
tree once, with the state of the monitor beside it.

* `Monitor.Accepts` — every call of a history was permitted when it was made.
* `Monitor.Ensures` — the walk through a procedure: every call is permitted, and whatever the
  answers are, the value and the last state are as promised.
* `Monitor.Ensures.sound` — the walk speaks about every history that the procedure can have.
* `Monitor.ensures_bind` — walks compose as procedures do.
* `Monitor.Accepts.invariant` — what permitted calls keep holds at every moment.
* `Monitor.upon` — the monitor whose state is the history: it permits a call by what happened before.
-/

namespace AzcRepair

open Procedure (Event History Yields)

/-- A reader of histories that may object to a call. -/
structure Monitor (C : Type) (A : C → Type) (σ : Type) where
  /-- The state after a call and its answer. -/
  note : σ → (c : C) → A c → σ
  /-- The call may be made in this state. -/
  permits : σ → C → Prop

namespace Monitor

variable {C : Type} {A : C → Type} {σ α β : Type} {m : Monitor C A σ}

/-! ## Histories

A monitor reads a history from left to right. Its state after a part of a history is all that the
rest depends on, so histories are taken apart by `after_append` and `accepts_append`. -/

/-- The state after a history. -/
def after (m : Monitor C A σ) (s : σ) (history : History C A) : σ :=
  history.foldl (fun s event => m.note s event.1 event.2) s

@[simp] theorem after_nil (s : σ) : m.after s [] = s := rfl

@[simp] theorem after_cons (s : σ) (event : Event C A) (history : History C A) :
    m.after s (event :: history) = m.after (m.note s event.1 event.2) history := rfl

@[simp] theorem after_append (s : σ) (first second : History C A) :
    m.after s (first ++ second) = m.after (m.after s first) second :=
  List.foldl_append

/-- Every call of the history was permitted when it was made. -/
def Accepts (m : Monitor C A σ) : σ → History C A → Prop
  | _, [] => True
  | s, event :: history =>
    m.permits s event.1 ∧ m.Accepts (m.note s event.1 event.2) history

/-- A history is accepted in parts, the second one in the state that the first one leaves. -/
theorem accepts_append {s : σ} {first second : History C A} :
    m.Accepts s (first ++ second) ↔ m.Accepts s first ∧ m.Accepts (m.after s first) second := by
  induction first generalizing s with
  | nil => simp [Accepts]
  | cons event history ih =>
    simp only [List.cons_append, Accepts, after_cons, ih, and_assoc]

/-- The call between two parts of an accepted history was permitted after the first part. -/
theorem Accepts.permits {s : σ} {before after : History C A} {event : Event C A}
    (h : m.Accepts s (before ++ event :: after)) : m.permits (m.after s before) event.1 :=
  (accepts_append.mp h).2.1

theorem Accepts.of_prefix {s : σ} {before history : History C A} (h : m.Accepts s history)
    (hp : before <+: history) : m.Accepts s before := by
  obtain ⟨rest, rfl⟩ := hp
  exact (accepts_append.mp h).1

/-- What permitted calls keep holds after every accepted history. -/
theorem Accepts.invariant {inv : σ → Prop} {s : σ} {history : History C A}
    (h : m.Accepts s history) (start : inv s)
    (step : ∀ s c answer, inv s → m.permits s c → inv (m.note s c answer)) :
    inv (m.after s history) := by
  induction history generalizing s with
  | nil => exact start
  | cons event history ih => exact ih h.2 (step s event.1 event.2 start h.1)

/-! ## Procedures

`Ensures` goes down the tree of a procedure, through all answers at once. It obeys the laws of a
weakest precondition, with `ensures_bind` for procedures that follow each other. A walk is made
part by part for this reason, and `Ensures.sound` turns it into a statement about histories at the
end. -/

/-- Every call of the procedure is permitted, whatever the answers are, and the value it ends in
and the state at its end are as promised. -/
def Ensures (m : Monitor C A σ) : Procedure C A α → σ → (α → σ → Prop) → Prop
  | .done value, s, post => post value s
  | .call c next, s, post =>
    m.permits s c ∧ ∀ answer, m.Ensures (next answer) (m.note s c answer) post

@[simp] theorem ensures_done (value : α) (s : σ) (post : α → σ → Prop) :
    m.Ensures (.done value) s post ↔ post value s := Iff.rfl

@[simp] theorem ensures_pure (value : α) (s : σ) (post : α → σ → Prop) :
    m.Ensures (pure value) s post ↔ post value s := Iff.rfl

@[simp] theorem ensures_call (c : C) (next : A c → Procedure C A α) (s : σ)
    (post : α → σ → Prop) :
    m.Ensures (.call c next) s post ↔
      m.permits s c ∧ ∀ answer, m.Ensures (next answer) (m.note s c answer) post := Iff.rfl

@[simp] theorem ensures_ask (c : C) (s : σ) (post : A c → σ → Prop) :
    m.Ensures (Procedure.ask c) s post ↔
      m.permits s c ∧ ∀ answer, post answer (m.note s c answer) := Iff.rfl

/-- Walks compose as procedures do: the second part starts in the state that the first ends in. -/
theorem ensures_bind {p : Procedure C A α} {next : α → Procedure C A β} {s : σ}
    {post : β → σ → Prop} :
    m.Ensures (p >>= next) s post ↔
      m.Ensures p s fun value s => m.Ensures (next value) s post := by
  induction p generalizing s with
  | done value => exact Iff.rfl
  | call c rest ih => simp only [Procedure.call_bind, ensures_call, ih]

/-- A call at the front: it has to be permitted, and the walk goes on with every answer. -/
theorem ensures_ask_bind {c : C} {next : A c → Procedure C A β} {s : σ} {post : β → σ → Prop} :
    m.Ensures (Procedure.ask c >>= next) s post ↔
      m.permits s c ∧ ∀ answer, m.Ensures (next answer) (m.note s c answer) post := Iff.rfl

/-- What is promised at the end may be weakened. -/
theorem Ensures.mono {p : Procedure C A α} {s : σ} {strong weak : α → σ → Prop}
    (h : m.Ensures p s strong) (imp : ∀ value s, strong value s → weak value s) :
    m.Ensures p s weak := by
  induction p generalizing s with
  | done value => exact imp value s h
  | call c rest ih => exact ⟨h.1, fun answer => ih answer (h.2 answer)⟩

/-- Promises that say the same are the same promise. -/
theorem ensures_congr {p : Procedure C A α} {s : σ} {one other : α → σ → Prop}
    (same : ∀ value s, one value s ↔ other value s) :
    m.Ensures p s one ↔ m.Ensures p s other :=
  ⟨fun h => h.mono fun value s => (same value s).mp, fun h => h.mono fun value s =>
    (same value s).mpr⟩

/-- A value that is changed at the end changes what is promised of it. -/
theorem ensures_map {p : Procedure C A α} {f : α → β} {s : σ} {post : β → σ → Prop} :
    m.Ensures (f <$> p) s post ↔ m.Ensures p s fun value s => post (f value) s := by
  rw [map_eq_pure_bind, ensures_bind]
  rfl

/-- The walk speaks about every history of the procedure. -/
theorem Ensures.sound {p : Procedure C A α} {s : σ} {post : α → σ → Prop}
    {history : History C A} {value : α} (h : m.Ensures p s post)
    (hy : Yields p history value) :
    m.Accepts s history ∧ post value (m.after s history) := by
  -- the induction is on the history: every event of it is one step down the tree
  induction hy generalizing s with
  | done value => exact ⟨trivial, h⟩
  | call answer _ ih =>
    obtain ⟨accepted, ends⟩ := ih (h.2 answer)
    exact ⟨⟨h.1, accepted⟩, ends⟩

/-- A monitor that permits everything ensures what holds at the end of every history. -/
theorem ensures_of_yields {p : Procedure C A α} {s : σ} {post : α → σ → Prop}
    (free : ∀ s c, m.permits s c)
    (h : ∀ history value, Yields p history value → post value (m.after s history)) :
    m.Ensures p s post := by
  induction p generalizing s with
  | done value => exact h [] value (.done value)
  | call c rest ih =>
    exact ⟨free s c, fun answer => ih answer fun history value hy => h _ value (.call answer hy)⟩

/-! ## Calls that leave the state alone

Most calls of a procedure are of no interest to a given monitor. Such parts are walked through in
one step, by the kind of their calls (`ensures_of_only`), or by what all calls of a kind keep
(`ensures_of_kept`). -/

/-- The call is permitted in the state and no answer to it changes the state. -/
def Idle (m : Monitor C A σ) (s : σ) (c : C) : Prop :=
  m.permits s c ∧ ∀ answer, m.note s c answer = s

/-- The monitor that permits the calls of one kind and remembers nothing. -/
def only (kind : C → Prop) : Monitor C A Unit where
  note _ _ _ := ()
  permits _ := kind

/-- Every call of the procedure, whatever the answers are, is of this kind. -/
def Only (kind : C → Prop) (p : Procedure C A α) : Prop :=
  (only kind).Ensures p () fun _ _ => True

/-- Two parts with calls of one kind have no others together. -/
theorem Only.bind {kind : C → Prop} {p : Procedure C A α} {next : α → Procedure C A β}
    (first : Only kind p) (rest : ∀ value, Only kind (next value)) : Only kind (p >>= next) :=
  ensures_bind.mpr (first.mono fun value _ _ => rest value)

theorem Only.widen {narrow wide : C → Prop} {p : Procedure C A α} (h : Only narrow p)
    (imp : ∀ c, narrow c → wide c) : Only wide p := by
  induction p with
  | done value => trivial
  | call c rest ih => exact ⟨imp c h.1, fun answer => ih answer (h.2 answer)⟩

/-- The history of a procedure of such calls holds no others. -/
theorem Only.of_mem {kind : C → Prop} {p : Procedure C A α} {history : History C A} {value : α}
    (calls : Only kind p) (hy : Yields p history value) : ∀ event ∈ history, kind event.1 := by
  induction hy with
  | done value => exact List.forall_mem_nil _
  | call answer _ ih => exact List.forall_mem_cons.mpr ⟨calls.1, ih (calls.2 answer)⟩

/-- What calls of one kind keep, a procedure of such calls keeps. -/
theorem ensures_of_kept {kind : C → Prop} {p : Procedure C A α} {s : σ} {post : α → σ → Prop}
    (inv : σ → Prop) (calls : Only kind p) (start : inv s)
    (step : ∀ s c, kind c → inv s → m.permits s c ∧ ∀ answer, inv (m.note s c answer))
    (ends : ∀ value s, inv s → post value s) : m.Ensures p s post := by
  induction p generalizing s with
  | done value => exact ends value s start
  | call c rest ih =>
    obtain ⟨permitted, kept⟩ := step s c calls.1 start
    exact ⟨permitted, fun answer => ih answer (calls.2 answer) (kept answer)⟩

/-- What calls of one kind keep, a history of such calls keeps. -/
theorem accepts_of_kept {kind : C → Prop} {s : σ} {history : History C A} (inv : σ → Prop)
    (calls : ∀ event ∈ history, kind event.1) (start : inv s)
    (step : ∀ s c, kind c → inv s → m.permits s c ∧ ∀ answer, inv (m.note s c answer)) :
    m.Accepts s history ∧ inv (m.after s history) := by
  induction history generalizing s with
  | nil => exact ⟨trivial, start⟩
  | cons event history ih =>
    obtain ⟨first, rest⟩ := List.forall_mem_cons.mp calls
    obtain ⟨permitted, kept⟩ := step s event.1 first start
    obtain ⟨accepted, ends⟩ := ih rest (kept event.2)
    exact ⟨⟨permitted, accepted⟩, ends⟩

/-- A part whose calls the monitor does not mind leaves its state alone. -/
theorem ensures_of_only {kind : C → Prop} {p : Procedure C A α} {s : σ} {post : α → σ → Prop}
    (calls : Only kind p) (idle : ∀ c, kind c → m.Idle s c) (ends : ∀ value, post value s) :
    m.Ensures p s post := by
  refine ensures_of_kept (· = s) calls rfl ?_ ?_
  · rintro _ c ofKind rfl
    exact idle c ofKind
  · rintro value _ rfl
    exact ends value

/-! ## Histories as states

With the history itself as the state a walk can speak about everything that happened.
`of_recording` proves a property of histories by a walk, and `upon` makes a permission of any
condition on the past. -/

/-- The monitor that permits everything and remembers the history. -/
def recording : Monitor C A (History C A) where
  note past c answer := past ++ [⟨c, answer⟩]
  permits _ _ := True

theorem recording_after (past history : History C A) :
    recording.after past history = past ++ history := by
  induction history generalizing past with
  | nil => simp
  | cons event history ih =>
    rw [after_cons, ih]
    simp [recording]

/-- A walk that remembers the history speaks about all histories. -/
theorem ensures_recording {p : Procedure C A α} {past : History C A}
    {post : α → History C A → Prop} :
    recording.Ensures p past post ↔
      ∀ history value, Yields p history value → post value (past ++ history) := by
  refine ⟨fun h history value hy => ?_, fun h => ?_⟩
  · rw [← recording_after]
    exact (h.sound hy).2
  · refine ensures_of_yields (fun _ _ => trivial) fun history value hy => ?_
    rw [recording_after]
    exact h history value hy

/-- What a walk that remembers the history promises at its end, the history itself has. -/
@[elab_as_elim]
theorem of_recording {p : Procedure C A α} {motive : α → History C A → Prop}
    {history : History C A} {value : α} (hy : Yields p history value)
    (h : recording.Ensures p [] motive) : motive value history :=
  ensures_recording.mp h history value hy

/-- The monitor that remembers the history and permits a call by what happened before it. -/
def upon (permits : History C A → C → Prop) : Monitor C A (History C A) where
  note past c answer := past ++ [⟨c, answer⟩]
  permits := permits

/-- The state of such a monitor is the history so far. -/
theorem upon_after {permits : History C A → C → Prop} (past history : History C A) :
    (upon permits).after past history = past ++ history :=
  recording_after past history

/-- Such a monitor accepts a history when every call in it was permitted by what happened before. -/
theorem accepts_upon {permits : History C A → C → Prop} {past history : History C A} :
    (upon permits).Accepts past history ↔
      ∀ before event after, history = before ++ event :: after →
        permits (past ++ before) event.1 := by
  constructor
  · rintro accepted before event after rfl
    have permitted := accepted.permits
    rw [upon_after] at permitted
    exact permitted
  · intro everywhere
    -- the condition at a later event is that of the rest, with one more event in the past
    induction history generalizing past with
    | nil => trivial
    | cons event history ih =>
      have first : permits past event.1 := by simpa using everywhere [] event history rfl
      refine ⟨first, ih fun before next after parts => ?_⟩
      have later := everywhere (event :: before) next after (by rw [parts, List.cons_append])
      rw [← List.singleton_append, ← List.append_assoc] at later
      exact later

end Monitor

namespace Procedure

variable {C : Type} {A : C → Type} {α : Type}

/-- The history and the value found by supplying answers belong together. -/
theorem yields_replay (answers : History C A → (c : C) → A c) (p : Procedure C A α) :
    Yields p (p.replay answers []).1 (p.replay answers []).2 := by
  obtain ⟨history, starts, yields⟩ := replay_yields answers p []
  rw [starts]
  exact yields

/-- Every call of the history that is found got the answer for some past. -/
theorem of_mem_replay {answers : History C A → (c : C) → A c} {p : Procedure C A α}
    {past : History C A} {event : Event C A} (h : event ∈ (p.replay answers past).1) :
    event ∈ past ∨ ∃ before, event.2 = answers before event.1 := by
  induction p generalizing past with
  | done value => exact .inl h
  | call c next ih =>
    rcases ih _ h with hpast | hlater
    · rcases List.mem_append.mp hpast with hpast | hhere
      · exact .inl hpast
      · rw [List.mem_singleton.mp hhere]
        exact .inr ⟨past, rfl⟩
    · exact .inr hlater

end Procedure

end AzcRepair
