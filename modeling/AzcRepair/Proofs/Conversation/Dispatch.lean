import AzcRepair.Conversation
import AzcRepair.Proofs.Procedure.Histories

/-!
# What a dispatch does

The histories that a dispatch can have and what it comes to, as relations on lists of events with
one rule for each place at which it can end.

* `Awaits` — waiting for a job: polls that saw it pending, and the one that did not.
* `Replies` — what a transcript holds after a message.
* `Dispatches` — the whole dispatch.
* `waitForJob_succ` — a pending job refuses no observation, so waiting is a poll and what follows.
* `awaits_of_yields`, `waitsFor_of_awaits` — waiting follows the rules, and can do what they allow.
* `dispatch_exact` — the same of a whole dispatch, if the worker reports no job as timed out.
-/

namespace AzcRepair

open Procedure (Event History Yields yields_ask_bind_iff yields_bind_iff yields_done_iff)

theorem Worker.Job.id_giveUp (job : Worker.Job) : job.giveUp.id = job.id := by
  unfold giveUp
  split <;> rfl

namespace Conversation

open Run (Answer Call)
open Worker (Session Message Job Snapshot Failure)

variable {conversation : Conversation} {session : Session} {left : Nat}
  {history : History Call Answer}

/-! ## Waiting for a job

The histories of a wait are described by what was seen, not by how the loop computes it: some
polls that all saw the job pending and then, while a poll is left, at most one more that ends the
wait. Each way to end is a rule of `Awaits`, and `Awaits.later` is the step of the induction on
the polls that are left. -/

/-- One poll: a wait, and then a question about the job. -/
def poll (conversation : Conversation) (session : Session) (job : String)
    (answer : Except Failure Snapshot) : History Call Answer :=
  [⟨.pause conversation.pollIntervalMs, ()⟩, ⟨.worker (.pollJob session job), answer⟩]

/-- Polls that were answered with these observations. -/
def polls (conversation : Conversation) (session : Session) (job : String)
    (seen : List Snapshot) : History Call Answer :=
  seen.flatMap fun snapshot => conversation.poll session job (.ok snapshot)

/-- The job was pending, that is queued or running, whenever it was seen. Only such an observation
lets the waiting go on. -/
def Pending (seen : List Snapshot) : Prop :=
  ∀ snapshot ∈ seen, snapshot.status.isPending = true

/-- Waiting for a job with so many polls: the history is the polls that saw it pending and what
came after them, the result says how the waiting ended. The identity of the job is all that the
rules need of it. -/
inductive Awaits (conversation : Conversation) (session : Session) (job : String) (left : Nat) :
    History Call Answer → Except Failure Unit → Prop
  /-- A poll was refused. -/
  | refused {seen : List Snapshot} {failure : Failure} (pending : Pending seen)
    (within : seen.length < left) :
    Awaits conversation session job left
      (conversation.polls session job seen ++ conversation.poll session job (.error failure))
      (.error failure)
  /-- A poll saw the job completed. -/
  | completed {seen : List Snapshot} {reason : Option String} (pending : Pending seen)
    (within : seen.length < left) :
    Awaits conversation session job left
      (conversation.polls session job seen ++
        conversation.poll session job (.ok ⟨.completed, reason⟩))
      (.ok ())
  /-- A poll saw the job failed. -/
  | failed {seen : List Snapshot} {reason : Option String} (pending : Pending seen)
    (within : seen.length < left) :
    Awaits conversation session job left
      (conversation.polls session job seen ++ conversation.poll session job (.ok ⟨.failed, reason⟩))
      (.error (.jobFailed job (reason.getD "no reason given")))
  /-- All polls saw the job pending. -/
  | timedOut {seen : List Snapshot} (pending : Pending seen) (all : seen.length = left) :
    Awaits conversation session job left (conversation.polls session job seen)
      (.error (.timedOut job conversation.maxPolls))

theorem pending_nil : Pending [] :=
  List.forall_mem_nil _

theorem pending_cons {snapshot : Snapshot} {seen : List Snapshot} :
    Pending (snapshot :: seen) ↔ snapshot.status.isPending = true ∧ Pending seen :=
  List.forall_mem_cons

theorem not_pending_concat {seen : List Snapshot} {last : Snapshot}
    (ended : last.status.isPending = false) : ¬ Pending (seen ++ [last]) := by
  intro pending
  have still := pending last (List.mem_append_right _ (List.mem_singleton_self last))
  rw [ended] at still
  cases still

theorem polls_cons (job : String) (snapshot : Snapshot) (seen : List Snapshot) :
    conversation.polls session job (snapshot :: seen) =
      conversation.poll session job (.ok snapshot) ++ conversation.polls session job seen :=
  rfl

/-- A poll that sees the job pending leaves one poll less: what can happen with `left` polls can
happen with one more, behind that poll. -/
theorem Awaits.later {job : String} {snapshot : Snapshot} {result : Except Failure Unit}
    (still : snapshot.status.isPending = true)
    (awaits : Awaits conversation session job left history result) :
    Awaits conversation session job (left + 1)
      (conversation.poll session job (.ok snapshot) ++ history) result := by
  -- in each rule the poll becomes the first of those that saw the job pending
  cases awaits with
  | refused pending within =>
    rw [← List.append_assoc, ← polls_cons]
    exact .refused (pending_cons.mpr ⟨still, pending⟩) (Nat.succ_lt_succ within)
  | completed pending within =>
    rw [← List.append_assoc, ← polls_cons]
    exact .completed (pending_cons.mpr ⟨still, pending⟩) (Nat.succ_lt_succ within)
  | failed pending within =>
    rw [← List.append_assoc, ← polls_cons]
    exact .failed (pending_cons.mpr ⟨still, pending⟩) (Nat.succ_lt_succ within)
  | timedOut pending all =>
    rw [← polls_cons]
    exact .timedOut (pending_cons.mpr ⟨still, pending⟩) (congrArg Nat.succ all)

/-! ## What was observed

The observations of a history are read off it without knowing who asked. With them it can be said
of any history that the worker reported no job as timed out, which is what the two directions
below need of the worker. -/

/-- What was observed of a job, if this event is an answered poll; a refused poll observes
nothing. -/
def observation? : Event Call Answer → Option Snapshot
  | ⟨.worker (.pollJob ..), .ok snapshot⟩ => some snapshot
  | _ => none

/-- The observations of jobs in a history, in their order. -/
def observed (history : History Call Answer) : List Snapshot :=
  history.filterMap observation?

@[simp] theorem observed_append (first second : History Call Answer) :
    observed (first ++ second) = observed first ++ observed second :=
  List.filterMap_append

@[simp] theorem observed_poll_ok (job : String) (snapshot : Snapshot) :
    observed (conversation.poll session job (.ok snapshot)) = [snapshot] := rfl

@[simp] theorem observed_poll_error (job : String) (failure : Failure) :
    observed (conversation.poll session job (.error failure)) = [] := rfl

@[simp] theorem observed_polls (job : String) (seen : List Snapshot) :
    observed (conversation.polls session job seen) = seen := by
  induction seen with
  | nil => rfl
  | cons snapshot seen ih => simp [polls_cons, ih]

/-- The worker reported no job as timed out: that is for this side to say, when the polls are used
up. The status exists on the wire nevertheless, so it is a condition on the history. -/
def Reported (history : History Call Answer) : Prop :=
  ∀ snapshot ∈ observed history, snapshot.status ≠ .timedOut

theorem reported_append {first second : History Call Answer} :
    Reported (first ++ second) ↔ Reported first ∧ Reported second := by
  unfold Reported
  rw [observed_append, List.forall_mem_append]

/-! ## The waiting of the procedure

The loop asks the job itself whether an observation is allowed, and a finished job refuses one. As
the loop only ever observes a pending job, that refusal never comes (`waitForJob_succ`), and one
turn of it is a poll and a case on the status. Both directions are then inductions on the polls
that are left, over one turn each. -/

/-- A job after an observation that it did not refuse: it takes over the status and the reason. -/
def noted (job : Job) (snapshot : Snapshot) : Job :=
  { job with status := snapshot.status, reason := snapshot.reason }

/-- How the waiting for a job goes on after a poll, when no observation is refused. -/
def afterPoll (conversation : Conversation) (session : Session) (job : Job) (left : Nat) :
    Except Failure Snapshot → Run.Act (Except Failure Job)
  | .error failure => return .error failure
  | .ok snapshot =>
    match snapshot.status with
    | .completed => return .ok (noted job snapshot)
    | .failed => return .error (jobFailure (noted job snapshot))
    | .queued | .running | .timedOut => conversation.waitForJob session (noted job snapshot) left

theorem afterPoll_of_isPending {job : Job} {snapshot : Snapshot}
    (still : snapshot.status.isPending = true) :
    conversation.afterPoll session job left (.ok snapshot) =
      conversation.waitForJob session (noted job snapshot) left := by
  obtain ⟨status, reason⟩ := snapshot
  cases status with
  | queued | running => rfl
  | completed | failed | timedOut => cases still

/-- While the job is pending one turn of the waiting is a poll and what follows from its answer.
The refusal of an observation has disappeared: a pending job refuses none. -/
theorem waitForJob_succ {job : Job} (waiting : job.status.isPending = true) :
    conversation.waitForJob session job (left + 1) =
      (Run.ask (.pause conversation.pollIntervalMs) >>= fun _ =>
        Run.askWorker (.pollJob session job.id) >>= conversation.afterPoll session job left) := by
  rw [waitForJob]
  -- under the two questions, the wait and the poll, the continuations agree for every answer
  congr 1
  funext _
  congr 1
  funext answer
  cases answer with
  | error failure => rfl
  | ok snapshot =>
    simp only [Job.observe_of_isPending snapshot waiting]
    rfl

/-- The histories of a wait with a poll to go: that poll, and a history of what follows on its
answer. -/
theorem yields_waitForJob_succ_iff {job : Job} (waiting : job.status.isPending = true)
    {waited : Except Failure Job} :
    Yields (conversation.waitForJob session job (left + 1)) history waited ↔
      ∃ answer rest, history = conversation.poll session job.id answer ++ rest ∧
        Yields (conversation.afterPoll session job left answer) rest waited := by
  rw [waitForJob_succ waiting]
  constructor
  · intro yields
    obtain ⟨_, asking, rfl, asked⟩ := yields_ask_bind_iff.mp yields
    obtain ⟨answer, rest, rfl, goesOn⟩ := yields_ask_bind_iff.mp asked
    exact ⟨answer, rest, rfl, goesOn⟩
  · rintro ⟨answer, rest, rfl, goesOn⟩
    apply yields_ask_bind_iff.mpr
    exact ⟨(), _, rfl, yields_ask_bind_iff.mpr ⟨answer, rest, rfl, goesOn⟩⟩

/-- The waiting for a pending job does and comes to what the rules say. -/
theorem awaits_of_yields {job : Job} {waited : Except Failure Job}
    (waiting : job.status.isPending = true) (reported : Reported history)
    (yields : Yields (conversation.waitForJob session job left) history waited) :
    Awaits conversation session job.id left history (waited.map fun _ => ()) := by
  -- the induction is on the polls that are left
  induction left generalizing job history with
  | zero =>
    obtain ⟨rfl, rfl⟩ := yields_done_iff.mp yields
    -- the loop names the job it gave up, and giving up changes no identity
    have ended : Awaits conversation session job.id 0 (conversation.polls session job.id []) _ :=
      .timedOut pending_nil rfl
    rw [← job.id_giveUp] at ended ⊢
    exact ended
  | succ left ih =>
    obtain ⟨answer, rest, rfl, goesOn⟩ := (yields_waitForJob_succ_iff waiting).mp yields
    have first : 0 < left + 1 := Nat.succ_pos left
    cases answer with
    | error failure =>
      obtain ⟨rfl, rfl⟩ := yields_done_iff.mp goesOn
      exact .refused pending_nil first
    | ok snapshot =>
      -- only a pending job leads back into the loop; every other status ends it here
      cases still : snapshot.status.isPending with
      | true =>
        have noting : (noted job snapshot).status.isPending = true := still
        rw [afterPoll_of_isPending still] at goesOn
        have later := ih noting (reported_append.mp reported).2 goesOn
        exact later.later still
      | false =>
        obtain ⟨status, reason⟩ := snapshot
        cases status with
        | queued | running => cases still
        | completed =>
          obtain ⟨rfl, rfl⟩ := yields_done_iff.mp goesOn
          exact .completed pending_nil first
        | failed =>
          obtain ⟨rfl, rfl⟩ := yields_done_iff.mp goesOn
          exact .failed pending_nil first
        -- the loop would go on polling, but the worker reports no such status
        | timedOut => exact absurd rfl (reported _ List.mem_cons_self)

/-- The waiting for a job has this history and comes to this. -/
def WaitsFor (conversation : Conversation) (session : Session) (job : Job) (left : Nat)
    (history : History Call Answer) (result : Except Failure Unit) : Prop :=
  ∃ waited, Yields (conversation.waitForJob session job left) history waited ∧
    waited.map (fun _ => ()) = result

/-- Polls that see a pending job pending are followed by the waiting for it with the other polls.
The waiting goes on with the job as it was last seen, of which only the identity and that it is
pending are known. -/
theorem waitsFor_polls {seen : List Snapshot} (pending : Pending seen) {job : Job}
    (waiting : job.status.isPending = true) {rest : History Call Answer}
    {result : Except Failure Unit}
    (goesOn : ∀ later : Job, later.id = job.id → later.status.isPending = true →
      WaitsFor conversation session later left rest result) :
    WaitsFor conversation session job (left + seen.length)
      (conversation.polls session job.id seen ++ rest) result := by
  -- the job changes with every observation, so the induction is for all of them
  induction seen generalizing job with
  | nil => exact goesOn job rfl waiting
  | cons snapshot seen ih =>
    obtain ⟨still, pending⟩ := pending_cons.mp pending
    have noting : (noted job snapshot).status.isPending = true := still
    obtain ⟨waited, yields, same⟩ := ih pending noting goesOn
    refine ⟨waited, ?_, same⟩
    rw [polls_cons, List.append_assoc]
    apply (yields_waitForJob_succ_iff waiting).mpr
    refine ⟨.ok snapshot, _, rfl, ?_⟩
    rw [afterPoll_of_isPending still]
    exact yields

/-- A poll that ends the waiting may follow on polls that saw the job pending, while one is left. -/
theorem waitsFor_last {seen : List Snapshot} (pending : Pending seen) (within : seen.length < left)
    {job : Job} (waiting : job.status.isPending = true) {answer : Except Failure Snapshot}
    {result : Except Failure Unit}
    (ends : ∀ (later : Job) (more : Nat), later.id = job.id → ∃ waited,
      conversation.afterPoll session later more answer = .done waited ∧
        waited.map (fun _ => ()) = result) :
    WaitsFor conversation session job left
      (conversation.polls session job.id seen ++ conversation.poll session job.id answer)
      result := by
  -- as many polls as saw the job pending, the one that ends it, and those never made
  obtain ⟨more, rfl⟩ : ∃ more, left = more + 1 + seen.length := ⟨left - 1 - seen.length, by omega⟩
  apply waitsFor_polls pending waiting
  intro later same still
  obtain ⟨waited, ended, result⟩ := ends later more same
  refine ⟨waited, ?_, result⟩
  apply (yields_waitForJob_succ_iff still).mpr
  refine ⟨answer, [], by rw [same, List.append_nil], ?_⟩
  rw [ended]
  exact .done waited

/-- What the rules allow, the waiting for a pending job can do and come to. -/
theorem waitsFor_of_awaits {job : Job} {result : Except Failure Unit}
    (waiting : job.status.isPending = true)
    (awaits : Awaits conversation session job.id left history result) :
    WaitsFor conversation session job left history result := by
  cases awaits with
  | refused pending within =>
    exact waitsFor_last pending within waiting fun later more same => ⟨_, rfl, rfl⟩
  | completed pending within =>
    exact waitsFor_last pending within waiting fun later more same => ⟨_, rfl, rfl⟩
  | failed pending within =>
    refine waitsFor_last pending within waiting fun later more same => ⟨_, rfl, ?_⟩
    rw [← same]
    rfl
  | @timedOut seen pending all =>
    -- every poll saw the job pending, so none is left when the waiting goes on
    rw [← all, ← Nat.zero_add seen.length, ← List.append_nil (polls _ _ _ _)]
    apply waitsFor_polls pending waiting
    intro later same still
    refine ⟨_, .done _, ?_⟩
    rw [later.id_giveUp, same]
    rfl

/-! ## The answer

The answer is what stands behind the request in the transcript. `Replies` says so with the
transcript taken apart at the first message of that id, and `replies_iff` shows that the search
does that. -/

/-- What a transcript holds after a message: the texts behind the first message with this id. -/
inductive Replies (session : Session) (message : String) :
    List Message → Except Failure String → Prop
  | missing {transcript : List Message} (absent : ∀ other ∈ transcript, other.id ≠ message) :
    Replies session message transcript (.error (.missingMessage message))
  | empty {before later : List Message} {found : Message} (same : found.id = message)
    (first : ∀ other ∈ before, other.id ≠ message)
    (blank : Text.isBlankText (joinTexts later) = true) :
    Replies session message (before ++ found :: later) (.error (.emptyResponse session.id))
  | text {before later : List Message} {found : Message} (same : found.id = message)
    (first : ∀ other ∈ before, other.id ≠ message)
    (filled : Text.isBlankText (joinTexts later) = false) :
    Replies session message (before ++ found :: later) (.ok (joinTexts later))

/-- The search fails only on a transcript without the message. -/
theorem after?_eq_none_iff {message : String} {transcript : List Message} :
    after? message transcript = none ↔ ∀ other ∈ transcript, other.id ≠ message := by
  induction transcript with
  | nil => simp [after?]
  | cons first rest ih =>
    rw [after?, List.forall_mem_cons, ← ih]
    by_cases same : first.id = message <;> simp [same]

/-- The search stops at the first message with the id, and what it returns stands right behind it.
-/
theorem after?_eq_some_iff {message : String} {transcript later : List Message} :
    after? message transcript = some later ↔ ∃ before found, transcript = before ++ found :: later ∧
      found.id = message ∧ ∀ other ∈ before, other.id ≠ message := by
  induction transcript with
  | nil => simp [after?]
  | cons head rest ih =>
    rw [after?]
    by_cases same : head.id = message
    · rw [if_pos same]
      constructor
      · rintro ⟨⟩
        exact ⟨[], head, rfl, same, List.forall_mem_nil _⟩
      · rintro ⟨before, found, parts, -, first⟩
        -- a longer front would have to start with a message of another id
        cases before with
        | nil => rw [(List.cons.inj parts).2]
        | cons other before =>
          obtain ⟨rfl, -⟩ := List.cons.inj parts
          exact absurd same (first head List.mem_cons_self)
    · rw [if_neg same, ih]
      constructor
      · rintro ⟨before, found, rfl, stands, first⟩
        exact ⟨head :: before, found, rfl, stands, List.forall_mem_cons.mpr ⟨same, first⟩⟩
      · rintro ⟨before, found, parts, stands, first⟩
        cases before with
        | nil =>
          obtain ⟨rfl, -⟩ := List.cons.inj parts
          exact absurd stands same
        | cons other before =>
          obtain ⟨rfl, rfl⟩ := List.cons.inj parts
          exact ⟨before, found, rfl, stands, (List.forall_mem_cons.mp first).2⟩

/-- The rules for the answer and the function that reads it say the same of every transcript,
empty answers and missing messages included. -/
theorem replies_iff {message : String} {transcript : List Message}
    {result : Except Failure String} :
    Replies session message transcript result ↔ answerTo session message transcript = result := by
  constructor
  · intro replies
    cases replies with
    | missing absent => rw [answerTo, after?_eq_none_iff.mpr absent]
    | empty same first blank =>
      rw [answerTo, after?_eq_some_iff.mpr ⟨_, _, rfl, same, first⟩]
      exact if_pos blank
    | text same first filled =>
      rw [answerTo, after?_eq_some_iff.mpr ⟨_, _, rfl, same, first⟩]
      exact if_neg (by rw [filled]; decide)
  · rintro rfl
    rw [answerTo]
    cases searched : after? message transcript with
    | none => exact .missing (after?_eq_none_iff.mp searched)
    | some later =>
      obtain ⟨before, found, rfl, same, first⟩ := after?_eq_some_iff.mp searched
      cases blank : Text.isBlankText (joinTexts later) with
      | true => simpa [blank] using Replies.empty same first blank
      | false => simpa [blank] using Replies.text same first blank

/-! ## The dispatch

A dispatch is four calls in a row, of which each can end it, with the waiting between the second
and the last. `Dispatches` has a rule for each end. That the procedure follows the rules is a walk
along its questions; that it can do what they allow puts the waiting into its place by
`yields_dispatch`. -/

/-- A dispatch of a text on a session, with its whole history: every call it makes stands in it
with its answer, and the result is forced by the last of them. -/
inductive Dispatches (conversation : Conversation) (session : Session) (text : String) :
    History Call Answer → Except Failure String → Prop
  /-- The message was refused. -/
  | unposted {failure : Failure} :
    Dispatches conversation session text [⟨.worker (.sendMessage session text), .error failure⟩]
      (.error failure)
  /-- The start of a job was refused. -/
  | unstarted {message : String} {failure : Failure} :
    Dispatches conversation session text [⟨.worker (.sendMessage session text), .ok message⟩,
      ⟨.worker (.startJob session), .error failure⟩] (.error failure)
  /-- The waiting for the job failed. -/
  | unfinished {message job : String} {waiting : History Call Answer} {failure : Failure}
    (awaits : Awaits conversation session job conversation.maxPolls.toNat waiting
      (.error failure)) :
    Dispatches conversation session text (⟨.worker (.sendMessage session text), .ok message⟩ ::
      ⟨.worker (.startJob session), .ok job⟩ :: waiting) (.error failure)
  /-- The transcript was refused. -/
  | unread {message job : String} {waiting : History Call Answer} {failure : Failure}
    (awaits : Awaits conversation session job conversation.maxPolls.toNat waiting (.ok ())) :
    Dispatches conversation session text (⟨.worker (.sendMessage session text), .ok message⟩ ::
      ⟨.worker (.startJob session), .ok job⟩ ::
        (waiting ++ [⟨.worker (.readTranscript session), .error failure⟩])) (.error failure)
  /-- The transcript was read, and the answer is what it holds after the message. -/
  | read {message job : String} {waiting : History Call Answer} {transcript : List Message}
    {result : Except Failure String}
    (awaits : Awaits conversation session job conversation.maxPolls.toNat waiting (.ok ()))
    (replies : Replies session message transcript result) :
    Dispatches conversation session text (⟨.worker (.sendMessage session text), .ok message⟩ ::
      ⟨.worker (.startJob session), .ok job⟩ ::
        (waiting ++ [⟨.worker (.readTranscript session), .ok transcript⟩])) result

/-- How a dispatch goes on after the waiting for its job. -/
def afterWaiting (session : Session) (message : String) :
    Except Failure Unit → Run.Act (Except Failure String)
  | .error failure => return .error failure
  | .ok () => do
    match ← Run.askWorker (.readTranscript session) with
    | .error failure => return .error failure
    | .ok transcript => return answerTo session message transcript

/-- The waiting for a job in the midst of a dispatch, and what follows on it. -/
theorem yields_dispatch {request : Request} {message job : String}
    {waiting reading : History Call Answer} {ended : Except Failure Unit}
    {result : Except Failure String}
    (waits : WaitsFor conversation session (.start job session.id) conversation.maxPolls.toNat
      waiting ended)
    (reads : Yields (afterWaiting session message ended) reading result) :
    Yields (conversation.dispatch session request)
      (⟨.worker (.sendMessage session request.body), .ok message⟩ ::
        ⟨.worker (.startJob session), .ok job⟩ :: (waiting ++ reading)) result := by
  obtain ⟨waited, waits, rfl⟩ := waits
  apply yields_ask_bind_iff.mpr
  refine ⟨.ok message, _, rfl, yields_ask_bind_iff.mpr ⟨.ok job, _, rfl, ?_⟩⟩
  apply waits.bind
  -- the job itself is dropped; the dispatch goes on by whether it was completed
  cases waited <;> exact reads

/-- What a dispatch does and comes to is as the rules say, as long as the worker reports no job as
timed out. -/
theorem dispatches_of_yields {request : Request} {result : Except Failure String}
    (reported : Reported history)
    (yields : Yields (conversation.dispatch session request) history result) :
    Dispatches conversation session request.body history result := by
  obtain ⟨posted, starting, rfl, starts⟩ := yields_ask_bind_iff.mp yields
  cases posted with
  | error failure =>
    obtain ⟨rfl, rfl⟩ := yields_done_iff.mp starts
    exact .unposted
  | ok message =>
    obtain ⟨started, running, rfl, runs⟩ := yields_ask_bind_iff.mp starts
    cases started with
    | error failure =>
      obtain ⟨rfl, rfl⟩ := yields_done_iff.mp runs
      exact .unstarted
    | ok job =>
      obtain ⟨waiting, reading, waited, rfl, waits, reads⟩ := yields_bind_iff.mp runs
      -- neither the message nor the start of the job observes anything
      have seen : Reported (waiting ++ reading) := reported
      have awaits := awaits_of_yields rfl (reported_append.mp seen).1 waits
      cases waited with
      | error failure =>
        obtain ⟨rfl, rfl⟩ := yields_done_iff.mp reads
        rw [List.append_nil]
        exact .unfinished awaits
      | ok completed =>
        obtain ⟨read, rest, rfl, ends⟩ := yields_ask_bind_iff.mp reads
        cases read with
        | error failure =>
          obtain ⟨rfl, rfl⟩ := yields_done_iff.mp ends
          exact .unread awaits
        | ok transcript =>
          obtain ⟨rfl, rfl⟩ := yields_done_iff.mp ends
          exact .read awaits (replies_iff.mpr rfl)

/-- What the rules allow, a dispatch can do and come to. -/
theorem yields_of_dispatches {request : Request} {result : Except Failure String}
    (dispatches : Dispatches conversation session request.body history result) :
    Yields (conversation.dispatch session request) history result := by
  cases dispatches with
  | unposted => exact .call _ (.done _)
  | unstarted => exact .call _ (.call _ (.done _))
  -- nothing follows on the waiting, so its history is all that is left
  | @unfinished message job waiting failure awaits =>
    rw [← List.append_nil waiting]
    exact yields_dispatch (waitsFor_of_awaits rfl awaits) (.done _)
  | unread awaits => exact yields_dispatch (waitsFor_of_awaits rfl awaits) (.call _ (.done _))
  | read awaits replies =>
    obtain rfl := replies_iff.mp replies
    exact yields_dispatch (waitsFor_of_awaits rfl awaits) (.call _ (.done _))

/-! ## Results and observations

Two things can be read off the history of a dispatch without the rules: whether it ended because
its polls were used up, and what the job that was started was seen to do. Each is shown rule by
rule, first for the waiting and then with the other calls of the dispatch around it. -/

/-- The worker refused a call, and this is its failure. -/
def refusal? : Event Call Answer → Option Failure
  | ⟨.worker request, answer⟩ =>
    match (answer : request.Answer) with
    | .error failure => some failure
    | .ok _ => none
  | _ => none

/-- The failures of the calls that the worker refused. -/
def refusals (history : History Call Answer) : List Failure :=
  history.filterMap refusal?

/-- The job that was started. -/
def started? : Event Call Answer → Option String
  | ⟨.worker (.startJob _), .ok job⟩ => some job
  | _ => none

def started (history : History Call Answer) : List String :=
  history.filterMap started?

/-- The job was started and was seen pending by every poll that it is granted. A refused poll
observes nothing, so the number of observations says that none was refused. -/
def OutlivesPolls (conversation : Conversation) (job : String) (history : History Call Answer) :
    Prop :=
  job ∈ started history ∧ (observed history).length = conversation.maxPolls.toNat ∧
    Pending (observed history)

theorem refusals_append (first second : History Call Answer) :
    refusals (first ++ second) = refusals first ++ refusals second :=
  List.filterMap_append

theorem refusals_polls (job : String) (seen : List Snapshot) :
    refusals (conversation.polls session job seen) = [] := by
  induction seen with
  | nil => rfl
  | cons snapshot seen ih => rw [polls_cons, refusals_append, ih]; rfl

/-- A pending job takes pending observations one after the other and is pending in the end. -/
theorem observe_pending {seen : List Snapshot} (pending : Pending seen) {job : Job}
    (waiting : job.status.isPending = true) :
    ∃ last : Job, seen.foldlM Job.observe job = .ok last ∧ last.status.isPending = true := by
  induction seen generalizing job with
  | nil => exact ⟨job, rfl, waiting⟩
  | cons snapshot seen ih =>
    obtain ⟨still, pending⟩ := pending_cons.mp pending
    -- the observation was of a pending job, so the next one is allowed as well
    have noting : (noted job snapshot).status.isPending = true := still
    rw [List.foldlM_cons, Job.observe_of_isPending snapshot waiting]
    exact ih pending noting

theorem started_append (first second : History Call Answer) :
    started (first ++ second) = started first ++ started second :=
  List.filterMap_append

theorem started_polls (job : String) (seen : List Snapshot) :
    started (conversation.polls session job seen) = [] := by
  induction seen with
  | nil => rfl
  | cons snapshot seen ih => rw [polls_cons, started_append, ih]; rfl

theorem refusals_poll_ok (job : String) (snapshot : Snapshot) :
    refusals (conversation.poll session job (.ok snapshot)) = [] := rfl

theorem refusals_poll_error (job : String) (failure : Failure) :
    refusals (conversation.poll session job (.error failure)) = [failure] := rfl

theorem started_poll (job : String) (answer : Except Failure Snapshot) :
    started (conversation.poll session job answer) = [] := rfl

theorem Awaits.started_eq {job : String} {ended : Except Failure Unit}
    (awaits : Awaits conversation session job left history ended) : started history = [] := by
  cases awaits <;> simp [started_append, started_polls, started_poll]

/-- A job is given up when the worker says so, or when every poll saw it pending. The worker can
say so in place of an answer to a poll, with any name and count, and that is passed on as it is.
-/
theorem Awaits.timedOut_iff {job : String} {ended : Except Failure Unit}
    (awaits : Awaits conversation session job left history ended) (name : String) (count : UInt32) :
    ended = .error (.timedOut name count) ↔ .timedOut name count ∈ refusals history ∨
      (name = job ∧ (observed history).length = left ∧ Pending (observed history)) ∧
        count = conversation.maxPolls := by
  cases awaits with
  | refused pending within =>
    -- one poll was refused, so fewer were answered than were granted
    have short := Nat.ne_of_lt within
    simp [refusals_append, refusals_polls, refusals_poll_error, short, eq_comm]
  | @completed seen reason pending within =>
    have ended : ¬ Pending (seen ++ [⟨.completed, reason⟩]) := not_pending_concat rfl
    simp [refusals_append, refusals_polls, refusals_poll_ok, ended]
  | @failed seen reason pending within =>
    have ended : ¬ Pending (seen ++ [⟨.failed, reason⟩]) := not_pending_concat rfl
    simp [refusals_append, refusals_polls, refusals_poll_ok, ended]
  | timedOut pending all =>
    simp [refusals_polls, pending, all, eq_comm]

/-- No observation of a job that is waited for is refused. -/
theorem Awaits.observes {job : Job} (waiting : job.status.isPending = true)
    {ended : Except Failure Unit}
    (awaits : Awaits conversation session job.id left history ended) :
    ∃ last, (observed history).foldlM Job.observe job = .ok last := by
  -- the job is pending before the last observation, so that one is not refused either
  have concat {seen : List Snapshot} (pending : Pending seen) (last : Snapshot) :
      ∃ ended, (seen ++ [last]).foldlM Job.observe job = .ok ended := by
    obtain ⟨before, folded, still⟩ := observe_pending pending waiting
    rw [List.foldlM_append, folded]
    show ∃ ended, (before.observe last >>= pure) = .ok ended
    rw [Job.observe_of_isPending last still]
    exact ⟨_, rfl⟩
  cases awaits with
  | refused pending within =>
    obtain ⟨last, folded, -⟩ := observe_pending pending waiting
    rw [observed_append, observed_polls, observed_poll_error, List.append_nil]
    exact ⟨last, folded⟩
  | completed pending within =>
    rw [observed_append, observed_polls, observed_poll_ok]
    exact concat pending _
  | failed pending within =>
    rw [observed_append, observed_polls, observed_poll_ok]
    exact concat pending _
  | timedOut pending all =>
    obtain ⟨last, folded, -⟩ := observe_pending pending waiting
    rw [observed_polls]
    exact ⟨last, folded⟩

/-- The history of a dispatch whose job was started: the message and the job, and whatever came
next. -/
abbrev running (session : Session) (text message job : String) (rest : History Call Answer) :
    History Call Answer :=
  ⟨.worker (.sendMessage session text), .ok message⟩ ::
    ⟨.worker (.startJob session), .ok job⟩ :: rest

theorem refusals_running (text message job : String) (rest : History Call Answer) :
    refusals (running session text message job rest) = refusals rest := rfl

theorem observed_running (text message job : String) (rest : History Call Answer) :
    observed (running session text message job rest) = observed rest := rfl

theorem started_running (text message job : String) (rest : History Call Answer) :
    started (running session text message job rest) = job :: started rest := rfl

theorem observed_read (waiting : History Call Answer) (answer : Except Failure (List Message)) :
    observed (waiting ++ [⟨.worker (.readTranscript session), answer⟩]) = observed waiting := by
  rw [observed_append]
  exact List.append_nil _

theorem started_read (waiting : History Call Answer) (answer : Except Failure (List Message)) :
    started (waiting ++ [⟨.worker (.readTranscript session), answer⟩]) = started waiting := by
  rw [started_append]
  exact List.append_nil _

/-- A transcript that is read leaves open only whether that call was refused. -/
theorem timedOut_read_iff {text message job name : String} {count : UInt32}
    {waiting : History Call Answer} {answer : Except Failure (List Message)}
    (awaits : Awaits conversation session job conversation.maxPolls.toNat waiting (.ok ())) :
    (.timedOut name count ∈ refusals (running session text message job
        (waiting ++ [⟨.worker (.readTranscript session), answer⟩])) ∨
      OutlivesPolls conversation name (running session text message job
        (waiting ++ [⟨.worker (.readTranscript session), answer⟩])) ∧
        count = conversation.maxPolls) ↔ answer = .error (.timedOut name count) := by
  -- a wait that went well gave nothing up
  have kept : ¬ (_ ∨ _) := fun gaveUp => nomatch (awaits.timedOut_iff name count).mpr gaveUp
  obtain ⟨accepted, outlived⟩ := not_or.mp kept
  have refused : .timedOut name count ∈ refusals [⟨.worker (.readTranscript session), answer⟩] ↔
      answer = .error (.timedOut name count) := by
    cases answer <;> simp [refusals, refusal?, eq_comm]
  rw [OutlivesPolls, refusals_running, observed_running, started_running, observed_read,
    started_read, awaits.started_eq, List.mem_singleton, or_iff_left outlived, refusals_append,
    List.mem_append, or_iff_right accepted, refused]

/-- A dispatch times out when the worker says so at any of its calls, or when every poll saw its
job pending. -/
theorem Dispatches.timedOut_iff {text : String} {result : Except Failure String}
    (dispatches : Dispatches conversation session text history result) (name : String)
    (count : UInt32) :
    result = .error (.timedOut name count) ↔ .timedOut name count ∈ refusals history ∨
      OutlivesPolls conversation name history ∧ count = conversation.maxPolls := by
  cases dispatches with
  -- without a job there is nothing that could outlive its polls
  | unposted => simp [refusals, refusal?, OutlivesPolls, started, started?, eq_comm]
  | unstarted => simp [refusals, refusal?, OutlivesPolls, started, started?, eq_comm]
  | unfinished awaits =>
    rw [OutlivesPolls, refusals_running, observed_running, started_running, awaits.started_eq,
      List.mem_singleton]
    simpa using awaits.timedOut_iff name count
  | unread awaits =>
    rw [timedOut_read_iff awaits]
    simp
  | read awaits replies =>
    rw [timedOut_read_iff awaits]
    cases replies <;> simp

/-- No observation of the job that was started is refused. -/
theorem Dispatches.observes {text : String} {result : Except Failure String}
    (dispatches : Dispatches conversation session text history result) {job : String}
    (mem : job ∈ started history) :
    ∃ last, (observed history).foldlM Job.observe (.start job session.id) = .ok last := by
  have waits {name : String} {waiting : History Call Answer} {ended : Except Failure Unit}
      (awaits : Awaits conversation session name conversation.maxPolls.toNat waiting ended) :
      ∃ last, (observed waiting).foldlM Job.observe (.start name session.id) = .ok last := by
    have first : (Job.start name session.id).status.isPending = true := rfl
    exact awaits.observes first
  -- a dispatch starts at most one job, the one that it waits for
  cases dispatches with
  | unposted => cases mem
  | unstarted => cases mem
  | unfinished awaits =>
    rw [started_running, awaits.started_eq, List.mem_singleton] at mem
    rw [mem, observed_running]
    exact waits awaits
  | unread awaits =>
    rw [started_running, started_read, awaits.started_eq, List.mem_singleton] at mem
    rw [mem, observed_running, observed_read]
    exact waits awaits
  | read awaits replies =>
    rw [started_running, started_read, awaits.started_eq, List.mem_singleton] at mem
    rw [mem, observed_running, observed_read]
    exact waits awaits

/-- **What a dispatch does.** As long as the worker reports no job as timed out, the histories and
results of a dispatch are exactly those of the rules: a message, a job, polls with a wait before
each up to the first that does not see the job pending, and the transcript if that one saw it
completed. It says that a job timed out exactly when the worker does or when all polls saw it
pending, and no observation of the job is refused. -/
theorem dispatch_exact (conversation : Conversation) (session : Session) (request : Request)
    {history : History Call Answer} {result : Except Failure String}
    (reported : Reported history) :
    (Yields (conversation.dispatch session request) history result ↔
      Dispatches conversation session request.body history result) ∧
    (Yields (conversation.dispatch session request) history result →
      (∀ job count, result = .error (.timedOut job count) ↔
        .timedOut job count ∈ refusals history ∨
          OutlivesPolls conversation job history ∧ count = conversation.maxPolls) ∧
      ∀ job ∈ started history, ∃ last,
        (observed history).foldlM Job.observe (.start job session.id) = .ok last) := by
  refine ⟨⟨dispatches_of_yields reported, yields_of_dispatches⟩, fun yields => ?_⟩
  have dispatches := dispatches_of_yields reported yields
  exact ⟨dispatches.timedOut_iff, fun job => dispatches.observes⟩

/-- A request for which two polls are granted. -/
def briefly : Conversation where
  pollIntervalMs := 7
  maxPolls := 2

/-- A dispatch whose job is seen pending and then, by the last poll, completed. -/
def lastMoment : History Call Answer :=
  running .empty "help" "asked" "job"
    (briefly.polls .empty "job" [⟨.queued, none⟩] ++
      briefly.poll .empty "job" (.ok ⟨.completed, none⟩) ++
        [⟨.worker (.readTranscript .empty),
          .ok [⟨"asked", .user, "help"⟩, ⟨"reply", .assistant, "done"⟩]⟩])

/-- A job may still be completed by the last poll that it is granted. -/
theorem dispatch_exact_last_poll :
    Reported lastMoment ∧ (observed lastMoment).length = briefly.maxPolls.toNat ∧
      Yields (briefly.dispatch .empty ⟨.context, "help"⟩) lastMoment (.ok "done") := by
  have reported : Reported lastMoment := by
    unfold Reported
    decide
  refine ⟨reported, rfl, (dispatch_exact briefly .empty ⟨.context, "help"⟩ reported).1.mpr ?_⟩
  have pending : Pending [⟨.queued, none⟩] := by
    unfold Pending
    decide
  have awaits : Awaits briefly .empty "job" briefly.maxPolls.toNat
      (briefly.polls .empty "job" [⟨.queued, none⟩] ++
        briefly.poll .empty "job" (.ok ⟨.completed, none⟩)) (.ok ()) :=
    .completed pending (by decide)
  have replies : Replies .empty "asked"
      ([] ++ ⟨"asked", .user, "help"⟩ :: [⟨"reply", .assistant, "done"⟩]) (.ok "done") :=
    .text rfl (List.forall_mem_nil _) rfl
  exact .read awaits replies

end Conversation

end AzcRepair
