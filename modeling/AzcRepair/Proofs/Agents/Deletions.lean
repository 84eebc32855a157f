import AzcRepair.Proofs.Agents.Debts
import AzcRepair.Proofs.Agents.Paging
import AzcRepair.Proofs.Backoff.Schedule

/-!
# Deleting one resource after the other

What a session holds is deleted in a row. Whatever the service answers, every deletion of the row is
made, each with as many tries as the retries allow, and the first failure is remembered.

* `outcome` — what an answer to a deletion says.
* `Tries` — one try at a deletion: it sends one request, unless there is no token or no address.
* `Deletion` — the tries at one path; `Deletion.IsMade` says which of them failed and which is the
  last.
* `deletion_of_repeatFrom` — by induction on the retries that are left, tries are a deletion.
* `deleteEach` — deletions in a row, with what came of each; `deletions_of_deleteEach` by induction
  on the paths.
* `firstFailure` — what a row comes to when a session is given back.
* `teardown_complete` — a session is given back as a whole.
-/

namespace AzcRepair.Agents.Client

open Access (Cache)
open Backoff (isFinal)
open Procedure (Event History Yields)
open Worker (Session)

/-! ## Deletions

A deletion is described without the client: the tries that failed, the last one, and the waits
between them. What the client does is shown to be of this form, and the statement about a session
speaks of nothing else. -/

/-- What an answer to a deletion says. A resource that is not there counts as deleted. -/
def outcome : Except Worker.Failure Http.Reply → Except Worker.Failure Unit
  | .error failure => .error failure
  | .ok reply => if reply.isNotFound || reply.isSuccess then .ok () else .error reply.failure

/-- A try at a deletion: what happens in it, and what comes of it. -/
structure Try where
  events : History Call Answer
  result : Except Worker.Failure Unit

/-- The try is one at deleting what is at the path. It asks for the deletion once, at its end,
unless there is no token or the request cannot be put together. -/
inductive Tries (client : Client) (path : String) : Try → Prop where
  | noToken {before : History Call Answer} (quiet : ∀ event ∈ before, isSend event = false)
    (failure : Worker.Failure) :
    Tries client path ⟨before ++ [⟨.fetchToken, .error failure⟩], .error failure⟩
  | unbuildable {before : History Call Answer} {secret : String} {problem : Worker.Network}
    (quiet : ∀ event ∈ before, isSend event = false)
    (refused : client.prepare (client.deletion path) secret = .error problem) :
    Tries client path ⟨before, .error (.network problem)⟩
  | answered {before : History Call Answer} (quiet : ∀ event ∈ before, isSend event = false)
    (secret : String) (answer : Except Worker.Network Http.Reply) :
    Tries client path ⟨before ++ [⟨.send (client.deletion path) secret, answer⟩],
      outcome (answer.mapError .network)⟩

/-- A deletion: the tries that failed and were followed by another, and the last one. -/
structure Deletion where
  path : String
  failed : List Try
  last : Try

/-- Tries, each with the wait behind it; so many were made before. -/
def waited (backoff : Backoff) : UInt32 → List Try → History Call Answer
  | _, [] => []
  | made, first :: rest =>
    first.events ++ ⟨.pause (backoff.waitMs made), ()⟩ :: waited backoff (made + 1) rest

/-- What happens in the course of a deletion. -/
def Deletion.events (client : Client) (deletion : Deletion) : History Call Answer :=
  waited client.backoff 0 deletion.failed ++ deletion.last.events

/-- What a deletion comes to is what its last try comes to. -/
def Deletion.result (deletion : Deletion) : Except Worker.Failure Unit :=
  deletion.last.result

/-- The deletion is tried again exactly while it fails transiently and retries are left. -/
structure Deletion.IsMade (client : Client) (retries : Nat) (deletion : Deletion) : Prop where
  tried : ∀ attempt ∈ deletion.failed, Tries client deletion.path attempt
  transient : ∀ attempt ∈ deletion.failed, isFinal attempt.result = false
  ends : Tries client deletion.path deletion.last
  budget : deletion.failed.length ≤ retries
  insists : isFinal deletion.result = true ∨ deletion.failed.length = retries

variable {client : Client} {path : String} {paths : List String} {cache after : Cache}
  {history : History Call Answer} {result : Except Worker.Failure Unit}

/-! ## One try

A try is an exchange, whose answer is judged. The client judges the answer to a deletion a little
otherwise than that to any other request, since a resource that is not there is as good as
deleted. -/

/-- A try is one exchange, and its outcome is read off the answer. -/
theorem attemptDelete_run (request : Http.Request) (cache : Cache) :
    (client.attemptDelete request).run cache = (client.exchange request).run cache >>=
      fun answered => .done (outcome answered.1, keepAfter answered.2 answered.1) := by
  rw [attemptDelete, StateT.run_bind]
  congr 1
  funext answered
  obtain ⟨answer, cache⟩ := answered
  cases answer with
  | error failure => rfl
  | ok reply =>
    -- a reply that nothing is there is no rejection of the token, so the token is kept
    by_cases missing : reply.isNotFound = true
    · have authorized : reply.isUnauthorized = false := by
        simp only [Http.Reply.isNotFound, decide_eq_true_eq] at missing
        simp [Http.Reply.isUnauthorized, missing]
      simp only [outcome, missing, Bool.true_or, if_true, keepAfter_ok, authorized]
      rfl
    · have there : reply.isNotFound = false := Bool.eq_false_iff.mpr missing
      dsimp only
      rw [if_neg missing, StateT.run_bind, accept_run, outcome, there, Bool.false_or]
      cases reply.isSuccess <;> rfl

/-- Whatever is answered, a try of the client is a try in this sense. -/
theorem tries_of_attemptDelete
    (h : Yields ((client.attemptDelete (client.deletion path)).run cache) history (result, after)) :
    Tries client path ⟨history, result⟩ := by
  rw [attemptDelete_run] at h
  obtain ⟨early, late, ⟨answer, middle⟩, rfl, exchanged, rest⟩ := Yields.of_bind h
  cases rest
  obtain ⟨bearing, before, sent, rfl, borne, sends⟩ := of_exchange exchanged
  have quiet := borne.quiet
  rw [List.append_nil]
  cases sends with
  | refused failure =>
    rw [List.append_nil]
    cases borne with
    | refused misses => exact .noToken misses.quiet failure
  | unbuildable refused =>
    rw [List.append_nil]
    exact .unbuildable quiet refused
  | answered secret answer => exact .answered quiet secret answer

/-! ## One deletion

The tries are repeated by the rule of the backoff. The failed ones are collected from the front,
and the number of the next wait goes up with each of them. -/

theorem deletion_of_repeatFrom {left : Nat} {made : UInt32}
    (h : Yields ((client.backoff.repeatFrom wait (client.attemptDelete (client.deletion path)) left
      made).run cache) history (result, after)) :
    ∃ deletion : Deletion, deletion.path = path ∧ deletion.IsMade client left ∧
      history = waited client.backoff made deletion.failed ++ deletion.last.events ∧
      deletion.result = result := by
  -- the induction is on the retries that are left
  induction left generalizing made cache history with
  | zero =>
    have once := tries_of_attemptDelete h
    exact ⟨⟨path, [], ⟨history, result⟩⟩, rfl,
      ⟨List.forall_mem_nil _, List.forall_mem_nil _, once, Nat.le_refl 0, .inr rfl⟩, rfl, rfl⟩
  | succ left ih =>
    rw [repeatFrom_run] at h
    obtain ⟨early, late, ⟨tried, middle⟩, rfl, attempted, rest⟩ := Yields.of_bind h
    have once := tries_of_attemptDelete attempted
    cases tried with
    | ok value =>
      cases rest
      rw [List.append_nil]
      exact ⟨⟨path, [], ⟨early, .ok ()⟩⟩, rfl,
        ⟨List.forall_mem_nil _, List.forall_mem_nil _, once, Nat.zero_le _, .inl rfl⟩, rfl, rfl⟩
    | error failure =>
      cases transient : failure.isTransient with
      | false =>
        have final : isFinal (.error failure : Except Worker.Failure Unit) = true := by
          simp [isFinal, transient]
        simp only [transient] at rest
        cases rest
        rw [List.append_nil]
        exact ⟨⟨path, [], ⟨early, .error failure⟩⟩, rfl,
          ⟨List.forall_mem_nil _, List.forall_mem_nil _, once, Nat.zero_le _, .inl final⟩, rfl, rfl⟩
      | true =>
        -- the tries after the wait are counted from the next number on
        have again : isFinal (.error failure : Except Worker.Failure Unit) = false := by
          simp [isFinal, transient]
        simp only [transient, if_true] at rest
        cases rest with
        | call paused rest =>
          obtain ⟨⟨_, failed, last⟩, rfl, made, rfl, rfl⟩ := ih rest
          refine ⟨⟨_, ⟨early, .error failure⟩ :: failed, last⟩, rfl, ?_, ?_, rfl⟩
          · exact {
              tried := List.forall_mem_cons.mpr ⟨once, made.tried⟩
              transient := List.forall_mem_cons.mpr ⟨again, made.transient⟩
              ends := made.ends
              budget := Nat.succ_le_succ made.budget
              insists := made.insists.imp_right (congrArg (· + 1)) }
          · simp [waited]

/-- What the client does to delete a resource is a deletion. -/
theorem deletion_of_delete
    (h : Yields ((client.delete path).run cache) history (result, after)) :
    ∃ deletion : Deletion, deletion.path = path ∧
      deletion.IsMade client client.backoff.maxRetries.toNat ∧ history = deletion.events client ∧
      deletion.result = result :=
  deletion_of_repeatFrom h

/-! ## Deletions in a row

The client keeps the first failure as it goes. Here the row is first made with all its results,
and then the first failure is picked from them; `deleteAll_eq` says that this is the same. -/

/-- Deletes resources one after the other and hands on what came of each. -/
def deleteEach (client : Client) : List String → Act (List (Except Worker.Failure Unit))
  | [] => return []
  | path :: rest => do
    let first ← client.delete path
    let others ← client.deleteEach rest
    return first :: others

/-- The first failure of a row of results. -/
def firstFailure : List (Except Worker.Failure Unit) → Except Worker.Failure Unit
  | [] => .ok ()
  | .ok () :: rest => firstFailure rest
  | .error failure :: _ => .error failure

/-- To remember the first failure is to look for it afterwards. -/
theorem deleteAll_eq (paths : List String) :
    client.deleteAll paths = firstFailure <$> client.deleteEach paths := by
  induction paths with
  | nil => rfl
  | cons path rest ih =>
    simp only [deleteAll, deleteEach, ih, map_bind, bind_map_left, map_pure]
    congr 1
    funext first
    cases first <;> rfl

/-- A value that is changed at the end leaves the history as it is. -/
theorem yields_map {α β : Type} {f : α → β} {p : Act α} {value : β}
    (h : Yields ((f <$> p).run cache) history (value, after)) :
    ∃ inner, Yields (p.run cache) history (inner, after) ∧ value = f inner := by
  rw [StateT.run_map, map_eq_pure_bind] at h
  obtain ⟨early, late, ⟨inner, middle⟩, rfl, first, rest⟩ := Yields.of_bind h
  cases rest
  rw [List.append_nil]
  exact ⟨inner, first, rfl⟩

/-- Every deletion of the row is made, whatever came of those before it. -/
theorem deletions_of_deleteEach {results : List (Except Worker.Failure Unit)}
    (h : Yields ((client.deleteEach paths).run cache) history (results, after)) :
    ∃ deletions : List Deletion, deletions.map (·.path) = paths ∧
      (∀ deletion ∈ deletions, deletion.IsMade client client.backoff.maxRetries.toNat) ∧
      history = deletions.flatMap (·.events client) ∧ results = deletions.map (·.result) := by
  -- the induction is on the paths; a result does not decide whether the next one is deleted
  induction paths generalizing cache history results with
  | nil =>
    cases h
    exact ⟨[], rfl, nofun, rfl, rfl⟩
  | cons path rest ih =>
    rw [deleteEach, StateT.run_bind] at h
    obtain ⟨early, late, ⟨first, middle⟩, rfl, deleted, others⟩ := Yields.of_bind h
    obtain ⟨deletion, rfl, made, rfl, rfl⟩ := deletion_of_delete deleted
    obtain ⟨later, nothing, ⟨remaining, last⟩, rfl, further, ends⟩ := Yields.of_bind others
    cases ends
    obtain ⟨deletions, rfl, allMade, rfl, rfl⟩ := ih further
    exact ⟨deletion :: deletions, rfl, List.forall_mem_cons.mpr ⟨made, allMade⟩, by simp, rfl⟩

theorem firstFailure_eq_ok_iff {results : List (Except Worker.Failure Unit)} :
    firstFailure results = .ok () ↔ ∀ result ∈ results, result = .ok () := by
  induction results with
  | nil => simp [firstFailure]
  | cons first rest ih =>
    cases first with
    | ok => simp [firstFailure, ih]
    | error failure => simp [firstFailure]

/-- The first failure is the one with only good results before it. -/
theorem firstFailure_eq_error_iff {results : List (Except Worker.Failure Unit)}
    {failure : Worker.Failure} :
    firstFailure results = .error failure ↔ ∃ before rest,
      results = before ++ .error failure :: rest ∧ ∀ result ∈ before, result = .ok () := by
  induction results with
  | nil => simp [firstFailure]
  | cons first others ih =>
    cases first with
    | ok =>
      rw [firstFailure, ih]
      constructor
      · rintro ⟨before, rest, rfl, fine⟩
        exact ⟨.ok () :: before, rest, rfl, List.forall_mem_cons.mpr ⟨rfl, fine⟩⟩
      · rintro ⟨before, rest, parts, fine⟩
        cases before with
        | nil => cases parts
        | cons _ before =>
          obtain ⟨-, rfl⟩ := List.cons.inj parts
          exact ⟨before, rest, rfl, (List.forall_mem_cons.mp fine).2⟩
    -- this is the first failure, so nothing can stand before it
    | error first =>
      rw [firstFailure]
      constructor
      · intro same
        exact ⟨[], others, by rw [Except.error.inj same]; rfl, nofun⟩
      · rintro ⟨before, rest, parts, fine⟩
        cases before with
        | nil => exact congrArg _ (Except.error.inj (List.cons.inj parts).1)
        | cons other before =>
          obtain ⟨rfl, -⟩ := List.cons.inj parts
          cases (List.forall_mem_cons.mp fine).1

/-- A row fails as the first of its deletions that failed. -/
theorem firstFailure_map_eq_error_iff {deletions : List Deletion} {failure : Worker.Failure} :
    firstFailure (deletions.map (·.result)) = .error failure ↔ ∃ before deletion rest,
      deletions = before ++ deletion :: rest ∧ (∀ other ∈ before, other.result = .ok ()) ∧
        deletion.result = .error failure := by
  rw [firstFailure_eq_error_iff]
  constructor
  · rintro ⟨before, rest, parts, fine⟩
    obtain ⟨early, late, rfl, rfl, others⟩ := List.map_eq_append_iff.mp parts
    obtain ⟨deletion, later, rfl, failed, -⟩ := List.map_eq_cons_iff.mp others
    exact ⟨early, deletion, later, rfl, List.forall_mem_map.mp fine, failed⟩
  · rintro ⟨before, deletion, rest, rfl, fine, failed⟩
    refine ⟨before.map (·.result), rest.map (·.result), ?_, List.forall_mem_map.mpr fine⟩
    rw [List.map_append, List.map_cons, failed]

/-! ## The session as a whole

The deletions of a session one after the other: the plan comes from what the session holds, each
deletion is made as the section above says, and the first failure among their results is reported.
-/

/-- **A session is given back as a whole.** Whatever the service answers and whatever fails, what
happens is one deletion for each thing that the session holds: its thread and its agent unless their
ids are empty, its index if there is one, and its files in their order. Each is tried again only
after transient failures and at most as often as retries are allowed, and a resource that is not
there counts as deleted. The call succeeds exactly when all deletions did, and else fails as the
first of them that failed. -/
theorem teardown_complete {session : Session}
    (yields : Yields ((client.teardownSession session).run cache) history (result, after)) :
    ∃ deletions : List Deletion,
      deletions.map (·.path) =
        (if session.id = "" then [] else ["threads/" ++ session.id]) ++
          (if session.agent = "" then [] else ["assistants/" ++ session.agent]) ++
          (session.index.map ("vector_stores/" ++ ·)).toList ++ session.files.map ("files/" ++ ·) ∧
      (∀ deletion ∈ deletions, deletion.IsMade client client.backoff.maxRetries.toNat) ∧
      history = deletions.flatMap (·.events client) ∧
      (result = .ok () ↔ ∀ deletion ∈ deletions, deletion.result = .ok ()) ∧
      ∀ failure, result = .error failure ↔ ∃ before deletion rest,
        deletions = before ++ deletion :: rest ∧ (∀ other ∈ before, other.result = .ok ()) ∧
          deletion.result = .error failure := by
  rw [teardownSession, deleteAll_eq] at yields
  obtain ⟨results, each, rfl⟩ := yields_map yields
  obtain ⟨deletions, paths, made, rfl, rfl⟩ := deletions_of_deleteEach each
  refine ⟨deletions, paths, made, rfl, ?_, fun failure => firstFailure_map_eq_error_iff⟩
  rw [firstFailure_eq_ok_iff]
  exact List.forall_mem_map

/-! ## A service that keeps a file

A session of four resources and a service that makes trouble with two of them. -/

/-- It keeps one file, is busy once, and does not know the index. -/
def keepingFile (past : History Call Answer) : (call : Call) → Answer call
  | .send request _ =>
    if request.path = "files/a" then .ok ⟨403, .ok "kept"⟩
    else if request.path = "vector_stores/v" then
      .ok ⟨if past.countP isSend = 1 then 503 else 404, .ok ""⟩
    else .ok ⟨200, .ok ""⟩
  | .fetchToken => .ok (.lasting "secret")
  | .clock => default
  | .pause _ => ()
  | .fileContent _ => .ok ByteArray.empty

/-- The path of a request. -/
def sentPath? : Event Call Answer → Option String
  | ⟨.send request _, _⟩ => some request.path
  | _ => none

/-- A session without an agent. -/
def keptSession : Session :=
  ⟨"t", "", some "v", ["a", "b"]⟩

/-- What happens when the session is given back to this service. -/
def keepingCourse : History Call Answer × Except Worker.Failure Unit × Cache :=
  ((secondTryClient.teardownSession keptSession).run Cache.empty).replay keepingFile []

/-- The index is asked for twice, because the service is busy at first; the file that is kept does
not keep the client from deleting the one behind it. -/
theorem teardown_complete_past_failure :
    keepingCourse.1.filterMap sentPath? =
        ["threads/t", "vector_stores/v", "vector_stores/v", "files/a", "files/b"] ∧
      ∃ before deletion rest, (before ++ deletion :: rest).map Deletion.path =
          ["threads/t", "vector_stores/v", "files/a", "files/b"] ∧
        (∀ other ∈ before, other.result = .ok ()) ∧
        deletion.result = .error (.api 403 "kept") := by
  have ends : keepingCourse.2 = (.error (.api 403 "kept"), some (.lasting "secret")) := by
    decide +kernel
  have yields : Yields ((secondTryClient.teardownSession keptSession).run Cache.empty)
      keepingCourse.1 keepingCourse.2 := Procedure.yields_replay keepingFile _
  rw [ends] at yields
  obtain ⟨deletions, paths, -, -, -, fails⟩ := teardown_complete yields
  obtain ⟨before, deletion, rest, rfl, fine, failed⟩ := (fails _).mp rfl
  exact ⟨by decide +kernel, before, deletion, rest, paths, fine, failed⟩

end AzcRepair.Agents.Client
