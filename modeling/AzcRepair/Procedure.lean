/-!
# Procedures

A procedure is a computation that makes calls to the world around it and goes on with the answers.
It is a tree: every possible answer to a call has its branch. What a procedure does in a particular
world is found by supplying the answers.

* `Procedure.handle` runs a procedure in a monad that answers the calls.
* `Procedure.interpret` replaces every call by a procedure over other calls.
* `Procedure.Yields` relates a procedure to the histories it can have and the values it ends in;
  `Procedure.replay` finds the history for given answers.
-/

namespace AzcRepair

/-- A computation that makes calls of type `C`; a call `c` is answered by a value of `A c`.
Nothing is said of who answers: the same procedure runs against the world, against a script and in
a proof. -/
inductive Procedure (C : Type) (A : C → Type) (α : Type) where
  | done (value : α)
  | call (c : C) (next : A c → Procedure C A α)

namespace Procedure

variable {C D : Type} {A : C → Type} {B : D → Type} {α β γ : Type}

/-- Goes on with the value that a procedure ends in. -/
def andThen : Procedure C A α → (α → Procedure C A β) → Procedure C A β
  | done value, next => next value
  | call c rest, next => call c fun answer => (rest answer).andThen next

instance : Monad (Procedure C A) where
  pure := done
  bind := andThen

def ask (c : C) : Procedure C A (A c) :=
  call c done

@[simp] theorem pure_eq (value : α) : (pure value : Procedure C A α) = done value := rfl

@[simp] theorem done_bind (value : α) (next : α → Procedure C A β) :
    done value >>= next = next value := rfl

@[simp] theorem call_bind (c : C) (rest : A c → Procedure C A α) (next : α → Procedure C A β) :
    call c rest >>= next = call c fun answer => rest answer >>= next := rfl

@[simp] theorem ask_bind (c : C) (next : A c → Procedure C A β) :
    ask c >>= next = call c next := rfl

@[simp] theorem bind_done (p : Procedure C A α) : p >>= done = p := by
  induction p with
  | done value => rfl
  | call c rest ih => simp only [call_bind, ih]

@[simp] theorem bind_assoc (p : Procedure C A α) (f : α → Procedure C A β)
    (g : β → Procedure C A γ) : p >>= f >>= g = p >>= fun value => f value >>= g := by
  induction p with
  | done value => rfl
  | call c rest ih => simp only [call_bind, ih]

instance : LawfulMonad (Procedure C A) :=
  LawfulMonad.mk' _ bind_done done_bind bind_assoc

/-- Runs a procedure in a monad that answers its calls. -/
def handle {M : Type → Type} [Monad M] (answer : (c : C) → M (A c)) : Procedure C A α → M α
  | done value => pure value
  | call c next => do (next (← answer c)).handle answer

/-- Replaces every call by a procedure over other calls that passes a state on. -/
def interpret {σ : Type} (answer : (c : C) → σ → Procedure D B (A c × σ)) :
    Procedure C A α → σ → Procedure D B (α × σ)
  | done value, state => done (value, state)
  | call c next, state => do
    -- the state is that of the one who answers; the procedure does not see it
    let (reply, state) ← answer c state
    (next reply).interpret answer state

/-- The same procedure with other names for its calls, to be part of a procedure that may also ask
for something else. The answers are taken back to those that it expects. -/
def embed (name : C → D) (back : (c : C) → B (name c) → A c) : Procedure C A α → Procedure D B α
  | done value => done value
  | call c next => call (name c) fun answer => (next (back c answer)).embed name back

/-- A call together with the answer it got. -/
abbrev Event (C : Type) (A : C → Type) := (c : C) × A c

/-- The events of a computation in their order. -/
abbrev History (C : Type) (A : C → Type) := List (Event C A)

/-- The procedure can have this history and ends in this value. -/
inductive Yields : Procedure C A α → History C A → α → Prop where
  | done (value : α) : Yields (.done value) [] value
  | call {c : C} {next : A c → Procedure C A α} {history : History C A} {value : α}
      (answer : A c) (rest : Yields (next answer) history value) :
      Yields (.call c next) (⟨c, answer⟩ :: history) value

/-- The history and the value when every answer depends on what happened before. -/
def replay (answers : History C A → (c : C) → A c) :
    Procedure C A α → History C A → History C A × α
  | done value, past => (past, value)
  | call c next, past =>
    let answer := answers past c
    -- the answer may depend on all that came before, so the past is carried along
    (next answer).replay answers (past ++ [⟨c, answer⟩])

theorem Yields.bind {p : Procedure C A α} {next : α → Procedure C A β} {first second : History C A}
    {a : α} {b : β} (hp : Yields p first a) (hn : Yields (next a) second b) :
    Yields (p >>= next) (first ++ second) b := by
  induction hp with
  | done value => exact hn
  | call answer _ ih => exact .call answer (ih hn)

/-- A history of a composed procedure splits into the histories of its parts. -/
theorem Yields.of_bind {p : Procedure C A α} {next : α → Procedure C A β} {history : History C A}
    {b : β} (h : Yields (p >>= next) history b) :
    ∃ first second a, history = first ++ second ∧ Yields p first a ∧ Yields (next a) second b := by
  induction p generalizing history with
  | done value => exact ⟨[], history, value, rfl, .done value, h⟩
  | call c rest ih =>
    cases h with
    | call answer h =>
      obtain ⟨first, second, a, rfl, hp, hn⟩ := ih answer h
      exact ⟨⟨c, answer⟩ :: first, second, a, rfl, .call answer hp, hn⟩

/-- Every choice of answers leads to a history. -/
theorem replay_yields (answers : History C A → (c : C) → A c) (p : Procedure C A α)
    (past : History C A) :
    ∃ history, (p.replay answers past).1 = past ++ history ∧
      Yields p history (p.replay answers past).2 := by
  induction p generalizing past with
  | done value => exact ⟨[], by simp [replay], .done value⟩
  | call c next ih =>
    obtain ⟨history, h₁, h₂⟩ := ih (answers past c) (past ++ [⟨c, answers past c⟩])
    exact ⟨⟨c, answers past c⟩ :: history, by simp [replay, h₁], .call _ h₂⟩

end Procedure

end AzcRepair
