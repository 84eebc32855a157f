import AzcRepair.Worker.Job

/-!
# Jobs freeze

A job follows what is done to it until its status is terminal for the first time. From then on it
stays as it is, whatever is done.

* `perform`, `after`, `answers` — one operation on a job, and a sequence of them.
* `perform_of_isPending`, `perform_of_isTerminal` — all that one operation can do.
* `followed` — the operations that count: those up to the first one that ends the job.
* `freezes` — what a sequence leaves behind, and how each of its operations is answered.
-/

namespace AzcRepair.Worker.Job

/-- Something that is done to a job. -/
inductive Operation where
  /-- It is shown a snapshot. -/
  | observe (snapshot : Snapshot)
  | giveUp
  deriving DecidableEq, Repr

namespace Operation

/-- The status of a pending job behind the operation. -/
def status : Operation → Status
  | observe snapshot => snapshot.status
  | giveUp => .timedOut

/-- The snapshot that is shown to the job, if one is. -/
def snapshot? : Operation → Option Snapshot
  | observe snapshot => some snapshot
  | giveUp => none

/-- The operation leaves a pending job pending. -/
def isPending (operation : Operation) : Bool :=
  operation.status.isPending

end Operation

variable {job : Job}

/-! ## Operations

What a sequence of operations leaves, how it is answered, and which snapshots it has accepted:
each of the three goes through concatenation, the last two from the job that the first part
leaves. -/

/-- The answer to an operation, and the job behind it. A refused snapshot leaves the job alone. -/
def perform (job : Job) : Operation → Except Failure Unit × Job
  | .observe snapshot =>
    match job.observe snapshot with
    | .ok seen => (.ok (), seen)
    | .error failure => (.error failure, job)
  | .giveUp => (.ok (), job.giveUp)

/-- The job behind a sequence of operations. -/
def after (job : Job) (operations : List Operation) : Job :=
  operations.foldl (fun job operation => (job.perform operation).2) job

/-- The answers to a sequence of operations. -/
def answers (job : Job) : List Operation → List (Except Failure Unit)
  | [] => []
  | operation :: rest => (job.perform operation).1 :: (job.perform operation).2.answers rest

/-- The snapshots of a sequence that are not refused. -/
def accepted (job : Job) : List Operation → List Snapshot
  | [] => []
  | operation :: rest =>
    match job.perform operation with
    | (.ok (), next) => operation.snapshot?.toList ++ next.accepted rest
    | (.error _, next) => next.accepted rest

@[simp] theorem after_nil (job : Job) : job.after [] = job := rfl

theorem after_cons (job : Job) (operation : Operation) (rest : List Operation) :
    job.after (operation :: rest) = (job.perform operation).2.after rest := rfl

theorem after_append (job : Job) (past later : List Operation) :
    job.after (past ++ later) = (job.after past).after later :=
  List.foldl_append

/-- The second part is answered by the job that the first part leaves. -/
theorem answers_append (job : Job) (past later : List Operation) :
    job.answers (past ++ later) = job.answers past ++ (job.after past).answers later := by
  induction past generalizing job with
  | nil => rfl
  | cons operation rest ih => rw [List.cons_append, answers, answers, ih, List.cons_append]; rfl

/-- The second part is accepted by the job that the first part leaves. -/
theorem accepted_append (job : Job) (past later : List Operation) :
    job.accepted (past ++ later) = job.accepted past ++ (job.after past).accepted later := by
  induction past generalizing job with
  | nil => rfl
  | cons operation rest ih =>
    rw [List.cons_append, accepted, accepted, after_cons]
    rcases job.perform operation with ⟨_ | _, next⟩
    · exact ih next
    · dsimp only
      rw [ih next, List.append_assoc]

/-! ## One operation

A job is either pending or terminal, and these two lemmas say everything that an operation can do
to it. What follows uses nothing else of `observe` and `giveUp`. -/

/-- How a terminal job answers: it refuses every snapshot, and giving it up does nothing. -/
def refusal (job : Job) : Operation → Except Failure Unit
  | .observe snapshot => .error (.unexpected ("job " ++ job.id ++ " already " ++ job.status.name ++
      ", cannot move to " ++ snapshot.status.name))
  | .giveUp => .ok ()

/-- What is known about a job is that of the last of these snapshots. -/
def reasonOf (reason : Option String) (snapshots : List Snapshot) : Option String :=
  (snapshots.map (·.reason)).getLastD reason

/-- A pending job behind an operation. -/
def noted (job : Job) (operation : Operation) : Job :=
  { job with
    status := operation.status
    reason := reasonOf job.reason operation.snapshot?.toList }

/-- A pending job takes note of every operation. -/
theorem perform_of_isPending (pending : job.status.isPending = true) (operation : Operation) :
    job.perform operation = (.ok (), job.noted operation) := by
  cases operation with
  | observe snapshot =>
    rw [perform, observe_of_isPending snapshot pending]
    rfl
  | giveUp =>
    rw [perform, giveUp, if_pos pending]
    rfl

/-- A terminal job stays as it is. -/
theorem perform_of_isTerminal (terminal : job.status.isTerminal = true) (operation : Operation) :
    job.perform operation = (job.refusal operation, job) := by
  cases operation with
  | observe snapshot =>
    rw [perform, observe, if_pos terminal]
    rfl
  | giveUp => rw [perform, giveUp_of_isTerminal terminal, refusal]

/-! ## A terminal job

It stays as it is, refuses every snapshot and accepts none. -/

/-- Nothing that is done to a terminal job changes it. -/
theorem after_of_isTerminal (terminal : job.status.isTerminal = true)
    (operations : List Operation) : job.after operations = job := by
  induction operations with
  | nil => rfl
  | cons operation rest ih => rw [after_cons, perform_of_isTerminal terminal, ih]

/-- Everything that is done to a terminal job is answered by a refusal. -/
theorem answers_of_isTerminal (terminal : job.status.isTerminal = true)
    (operations : List Operation) : job.answers operations = operations.map job.refusal := by
  induction operations with
  | nil => rfl
  | cons operation rest ih => rw [answers, perform_of_isTerminal terminal, ih, List.map_cons]

theorem accepted_of_isTerminal (terminal : job.status.isTerminal = true)
    (operations : List Operation) : job.accepted operations = [] := by
  induction operations with
  | nil => rfl
  | cons operation rest ih =>
    rw [accepted, perform_of_isTerminal terminal]
    cases operation with
    | observe snapshot => exact ih
    | giveUp => exact ih

/-! ## A pending job

It takes note of every operation until one of them ends it. That operation still counts, so the
sequence is cut behind it. -/

/-- The operations that count for a pending job: those that leave it pending, and the next one. -/
def followed (operations : List Operation) : List Operation :=
  operations.takeWhile Operation.isPending ++ (operations.dropWhile Operation.isPending).take 1

/-- An operation that leaves the job pending counts, and so does what follows it. -/
theorem followed_cons_of_isPending {operation : Operation} (pending : operation.isPending = true)
    (rest : List Operation) : followed (operation :: rest) = operation :: followed rest := by
  rw [followed, List.takeWhile_cons_of_pos pending, List.dropWhile_cons_of_pos pending]
  rfl

/-- An operation that ends the job is the last one that counts. -/
theorem followed_cons_of_ends {operation : Operation} (ends : operation.isPending = false)
    (rest : List Operation) : followed (operation :: rest) = [operation] := by
  have other : ¬ operation.isPending = true := Bool.eq_false_iff.mp ends
  rw [followed, List.takeWhile_cons_of_neg other, List.dropWhile_cons_of_neg other]
  rfl

/-- What is behind the first terminal status does not count. -/
theorem exists_followed_append (operations : List Operation) :
    ∃ rest, operations = followed operations ++ rest := by
  refine ⟨(operations.dropWhile Operation.isPending).drop 1, ?_⟩
  rw [followed, List.append_assoc, List.take_append_drop, List.takeWhile_append_dropWhile]

/-- A snapshot says what is known where no other one follows it. -/
theorem reasonOf_append (reason : Option String) (operation : Operation)
    (later : List Snapshot) :
    reasonOf reason (operation.snapshot?.toList ++ later) =
      reasonOf (reasonOf reason operation.snapshot?.toList) later := by
  cases operation with
  | observe snapshot => exact List.getLastD_cons ..
  | giveUp => rfl

/-- The snapshots of a sequence, one operation at a time. -/
theorem filterMap_cons_snapshot? (operation : Operation) (rest : List Operation) :
    (operation :: rest).filterMap Operation.snapshot? =
      operation.snapshot?.toList ++ rest.filterMap Operation.snapshot? := by
  cases operation <;> rfl

/-- **A pending job follows what counts, and refuses the rest.** -/
theorem run_of_isPending (pending : job.status.isPending = true) (operations : List Operation) :
    job.after operations = { job with
        status := ((followed operations).map Operation.status).getLastD job.status
        reason := reasonOf job.reason ((followed operations).filterMap Operation.snapshot?) } ∧
      job.accepted operations = (followed operations).filterMap Operation.snapshot? ∧
      job.answers operations = (followed operations).map (fun _ => .ok ()) ++
        (operations.drop (followed operations).length).map (job.after operations).refusal := by
  -- the induction is on the operations, for any pending job, since each of them changes the
  -- job
  induction operations generalizing job with
  | nil => exact ⟨rfl, rfl, rfl⟩
  | cons operation rest ih =>
    rw [after_cons, accepted, answers, perform_of_isPending pending]
    dsimp only
    cases goesOn : operation.isPending with
    | true =>
      have still : (job.noted operation).status.isPending = true := goesOn
      obtain ⟨behind, accepted, answers⟩ := ih still
      rw [followed_cons_of_isPending goesOn, filterMap_cons_snapshot?, accepted, answers, behind,
        reasonOf_append, List.map_cons, List.getLastD_cons]
      exact ⟨rfl, rfl, rfl⟩
    | false =>
      -- the job is terminal behind the operation, so nothing that follows counts
      have terminal : (job.noted operation).status.isTerminal = true := by
        rw [Status.isTerminal]
        exact congrArg not goesOn
      rw [followed_cons_of_ends goesOn, filterMap_cons_snapshot?, after_of_isTerminal terminal,
        answers_of_isTerminal terminal, accepted_of_isTerminal terminal, reasonOf_append]
      exact ⟨rfl, rfl, rfl⟩

/-! ## Any job

For a job that is terminal from the beginning no operation counts, and otherwise those of the last
section do. -/

/-- The operations of a sequence that count. -/
def counted (job : Job) (operations : List Operation) : List Operation :=
  if job.status.isPending then followed operations else []

theorem exists_counted_append (job : Job) (operations : List Operation) :
    ∃ rest, operations = job.counted operations ++ rest := by
  rw [counted]
  split
  · exact exists_followed_append operations
  · exact ⟨operations, rfl⟩

/-- A job follows what counts, and refuses the rest. -/
theorem run_counted (job : Job) (operations : List Operation) :
    job.after operations = { job with
        status := ((job.counted operations).map Operation.status).getLastD job.status
        reason := reasonOf job.reason ((job.counted operations).filterMap Operation.snapshot?) } ∧
      job.accepted operations = (job.counted operations).filterMap Operation.snapshot? ∧
      job.answers operations = (job.counted operations).map (fun _ => .ok ()) ++
        (operations.drop (job.counted operations).length).map (job.after operations).refusal := by
  cases pending : job.status.isPending with
  | true =>
    rw [counted, if_pos pending]
    exact run_of_isPending pending operations
  | false =>
    have terminal : job.status.isTerminal = true := congrArg not pending
    rw [counted, if_neg (Bool.eq_false_iff.mp pending), after_of_isTerminal terminal,
      accepted_of_isTerminal terminal, answers_of_isTerminal terminal]
    exact ⟨rfl, rfl, rfl⟩

/-- Without a reason at the start, what is known is that of the last snapshot. -/
theorem reasonOf_none (snapshots : List Snapshot) :
    reasonOf none snapshots = snapshots.getLast?.bind (·.reason) := by
  rw [reasonOf, List.getLastD_eq_getLast?, List.getLast?_map]
  cases snapshots.getLast? <;> rfl

/-- **Jobs freeze.** A job has the status of the last operation that counts: those up to the first
one that ends it. What is known about it is what the last snapshot says that it accepted, and the
snapshots that it accepts are those that count. Once the status is terminal, nothing that follows
changes the job, and every snapshot is refused. -/
theorem freezes (job : Job) (operations later : List Operation) :
    (∃ rest, operations = job.counted operations ++ rest) ∧
    job.accepted operations = (job.counted operations).filterMap Operation.snapshot? ∧
    job.after operations = { job with
      status := ((job.counted operations).map Operation.status).getLastD job.status
      reason := reasonOf job.reason (job.accepted operations) } ∧
    job.answers operations = (job.counted operations).map (fun _ => .ok ()) ++
      (operations.drop (job.counted operations).length).map (job.after operations).refusal ∧
    ((job.after operations).status.isTerminal = true →
      job.after (operations ++ later) = job.after operations ∧
      job.accepted (operations ++ later) = job.accepted operations ∧
      job.answers (operations ++ later) =
        job.answers operations ++ later.map (job.after operations).refusal) ∧
    ∀ id session, ((start id session).after operations).reason =
      ((start id session).accepted operations).getLast?.bind (·.reason) := by
  obtain ⟨behind, accepted, answers⟩ := run_counted job operations
  refine ⟨exists_counted_append job operations, accepted, ?leaves, answers, ?frozen, ?fresh⟩
  case leaves =>
    rw [accepted]
    exact behind
  case frozen =>
    intro terminal
    rw [after_append, after_of_isTerminal terminal, accepted_append,
      accepted_of_isTerminal terminal, List.append_nil, answers_append,
      answers_of_isTerminal terminal]
    exact ⟨rfl, rfl, rfl⟩
  case fresh =>
    intro id session
    obtain ⟨behind, accepted, -⟩ := run_counted (start id session) operations
    rw [behind, accepted]
    exact reasonOf_none _

/-- A job that failed stays failed, with the reason that it failed for. -/
theorem freezes_behind_failure :
    let operations : List Operation :=
      [.observe ⟨.running, none⟩, .observe ⟨.failed, some "quota"⟩]
    let later : List Operation := [.giveUp, .observe ⟨.completed, none⟩]
    ((start "run_1" "thread_1").after operations).status.isTerminal = true ∧
      (start "run_1" "thread_1").after (operations ++ later) =
        ⟨"run_1", "thread_1", .failed, some "quota"⟩ ∧
      (start "run_1" "thread_1").answers (operations ++ later) =
        [.ok (), .ok (), .ok (),
          .error (.unexpected "job run_1 already failed, cannot move to completed")] := by
  intro operations later
  have terminal : ((start "run_1" "thread_1").after operations).status.isTerminal = true := rfl
  obtain ⟨-, -, -, -, frozen, -⟩ := freezes (start "run_1" "thread_1") operations later
  obtain ⟨same, -, answers⟩ := frozen terminal
  exact ⟨terminal, same, answers⟩

end AzcRepair.Worker.Job
