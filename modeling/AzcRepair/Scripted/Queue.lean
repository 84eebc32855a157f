/-!
# Queues of answers

Answers that are given in order. The last one is given again and again.

The scripted toolchain takes its answers from such queues, and so does a worker of which nothing but
answers is recorded. The program itself has no queues.
-/

namespace AzcRepair.Scripted

/-- The answers to come; an empty queue has none to give. -/
structure Queue (α : Type) where
  answers : List α
  /-- How many answers were given. -/
  given : Nat := 0
  deriving Repr

namespace Queue

variable {α : Type}

def take (queue : Queue α) : Option α × Queue α :=
  match queue.answers with
  | [] => (none, { queue with given := queue.given + 1 })
  | [last] => (some last, ⟨[last], queue.given + 1⟩)
  | first :: rest => (some first, ⟨rest, queue.given + 1⟩)

end Queue

end AzcRepair.Scripted
