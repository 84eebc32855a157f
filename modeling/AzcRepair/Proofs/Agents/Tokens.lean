import Mathlib.Data.List.Basic
import Mathlib.Data.List.Induction
import AzcRepair.Agents.Service
import AzcRepair.Proofs.Procedure.Monitor

/-!
# The life of a token

Which token each attempt at a request carries, whatever the clock shows, the source hands out and the
service answers.

* `Current` — the token that was fetched last, unless the service rejected it since; `held` finds it
  in a history.
* `Lawful` — what an attempt does about its token, given what happened before it.
* `of_attempted` — one attempt is lawful, and the token that is kept after it can be read off what
  happened.
* `Runs` — a part of the client is a course of attempts, with pauses and file reads between them.
* `token_lifecycle` — for every program of requests, every attempt in its course is lawful.
-/

namespace AzcRepair.Agents.Client

open Access (Cache Token)
open Procedure (Event History Yields)

/-! ## The current token

The client keeps one token in a variable. What is in it can be read off the history: the token
that was fetched last, or none when the service rejected it since. The statements are about
histories for this reason, and the variable is shown to agree with them. -/

/-- The token of a fetch that succeeded. -/
def fetched? : Event Call Answer → Option Token
  | ⟨.fetchToken, .ok token⟩ => some token
  | _ => none

/-- The service rejected the token of a request. -/
def rejects : Event Call Answer → Bool
  | ⟨.send .., .ok reply⟩ => reply.isUnauthorized
  | _ => false

/-- The token was fetched with success, no other one was since, and the service rejected none since. -/
def Current (past : History Call Answer) (token : Token) : Prop :=
  ∃ before since, past = before ++ ⟨.fetchToken, .ok token⟩ :: since ∧
    ∀ event ∈ since, fetched? event = none ∧ rejects event = false

/-- The token that is kept after an event. -/
def keep (cache : Cache) (event : Event Call Answer) : Cache :=
  match fetched? event with
  | some token => some token
  | none => if rejects event then none else cache

/-- The token that is kept after a history. -/
def held (past : History Call Answer) : Cache :=
  past.foldl keep Cache.empty

theorem eq_of_fetched? {event : Event Call Answer} {token : Token}
    (h : fetched? event = some token) : event = ⟨.fetchToken, .ok token⟩ := by
  unfold fetched? at h
  split at h <;> cases h
  rfl

theorem held_concat (past : History Call Answer) (event : Event Call Answer) :
    held (past ++ [event]) = keep (held past) event := by
  rw [held, List.foldl_append]
  rfl

/-- What is held is the current token. -/
theorem held_eq_some_iff {past : History Call Answer} {token : Token} :
    held past = some token ↔ Current past token := by
  -- the induction is on the last event: a fetch, a rejection, or one that changes nothing
  induction past using List.reverseRecOn with
  | nil => exact ⟨nofun, fun ⟨before, _, h, _⟩ => by simp at h⟩
  | append_singleton past event ih =>
    rw [held_concat]
    constructor
    · intro h
      unfold keep at h
      split at h
      · next new =>
        cases h
        exact ⟨past, [], by rw [eq_of_fetched? new], nofun⟩
      · next old =>
        split at h
        · cases h
        · next kept =>
          obtain ⟨before, since, rfl, quiet⟩ := ih.mp h
          refine ⟨before, since ++ [event], by simp, fun other mem => ?_⟩
          obtain mem | mem := List.mem_append.mp mem
          · exact quiet other mem
          · cases List.mem_singleton.mp mem
            exact ⟨old, Bool.eq_false_iff.mpr kept⟩
    · rintro ⟨before, since, same, quiet⟩
      obtain rfl | ⟨init, last, rfl⟩ := List.eq_nil_or_concat' since
      · obtain ⟨-, rfl⟩ := List.append_singleton_inj.mp same
        rfl
      · rw [← List.cons_append, ← List.append_assoc] at same
        obtain ⟨rfl, rfl⟩ := List.append_singleton_inj.mp same
        obtain ⟨old, kept⟩ := quiet event (by simp)
        rw [keep, old, kept]
        exact ih.mpr ⟨before, init, rfl, fun other mem => quiet other (by simp [mem])⟩

/-- A current token was fetched after every rejection. -/
theorem Current.fetched_after {past earlier later : History Call Answer} {token : Token}
    {event : Event Call Answer} (current : Current past token)
    (split : past = earlier ++ event :: later) (rejected : rejects event = true) :
    ⟨.fetchToken, .ok token⟩ ∈ later := by
  obtain ⟨before, since, same, quiet⟩ := current
  obtain ⟨more, -, same⟩ | ⟨more, -, same⟩ := List.append_eq_append_iff.mp (split.symm.trans same)
  · -- the event is before the fetch
    cases more with
    | nil =>
      obtain ⟨rfl, -⟩ := List.cons.inj same
      cases rejected
    | cons first more =>
      rw [(List.cons.inj same).2]
      exact List.mem_append_right _ List.mem_cons_self
  · cases more with
    | nil =>
      obtain ⟨rfl, -⟩ := List.cons.inj same
      cases rejected
    | cons first more =>
      have after : event ∈ since := by
        rw [(List.cons.inj same).2]
        exact List.mem_append_right _ List.mem_cons_self
      cases (quiet event after).2.symm.trans rejected

/-! ## What an attempt does

An attempt looks for a token, sends the request with it, and judges the answer. Each of the three
has a relation of its own that says what can happen, and `Lawful` puts together what concerns the
token. -/

/-- The token is accepted for longer than the margin, in seconds, after this instant. -/
def Outlives (token : Token) (now : Instant) (margin : UInt32) : Prop :=
  now.seconds + margin.toNat < token.expires.seconds ∨
    now.seconds + margin.toNat = token.expires.seconds ∧ now.nanos < token.expires.nanos

/-- A token is fresh when it outlives the margin. -/
theorem isStale_eq_false_iff {token : Token} {now : Instant} {margin : UInt32} :
    token.isStale now margin = false ↔ Outlives token now margin := by
  unfold Token.isStale Instant.atMost Instant.plusSeconds Outlives
  simp only [Bool.or_eq_false_iff, Bool.and_eq_false_iff, decide_eq_false_iff_not]
  omega

/-- An attempt at a request. -/
structure Attempt where
  request : Http.Request
  /-- The token that is kept before it. -/
  before : Cache
  events : History Call Answer
  /-- Why it failed, if it did. -/
  failure? : Option Worker.Failure
  /-- The token that is kept after it. -/
  after : Cache

/-- Why it failed, if it did. -/
def failureOf? {α : Type} : Except Worker.Failure α → Option Worker.Failure
  | .ok _ => none
  | .error failure => some failure

/-- The attempt is one of the client: at a request whose answer is decoded, or at a deletion. -/
inductive Attempted (client : Client) : Attempt → Prop where
  | decoded {α : Type} {ofJson? : Json → Option α} {request : Http.Request} {before after : Cache}
      {events : History Call Answer} {result : Except Worker.Failure α}
      (yields : Yields ((client.attempt ofJson? request).run before) events (result, after)) :
      Attempted client ⟨request, before, events, failureOf? result, after⟩
  | deleted {request : Http.Request} {before after : Cache} {events : History Call Answer}
      {result : Except Worker.Failure Unit}
      (yields : Yields ((client.attemptDelete request).run before) events (result, after)) :
      Attempted client ⟨request, before, events, failureOf? result, after⟩

/-- There is no token that can be used: none at all, or one that the clock shows to be stale. -/
inductive Misses (client : Client) : Cache → History Call Answer → Prop where
  | nothing : Misses client none []
  | stale {token : Token} {now : Instant} (old : ¬ Outlives token now client.refreshMargin) :
      Misses client (some token) [⟨.clock, now⟩]

/-- The request is sent once, with this token, unless it cannot be put together with it. -/
inductive Carries (client : Client) (request : Http.Request) (secret : String) :
    History Call Answer → Prop where
  | unbuildable {failure : Worker.Network} (refused : client.prepare request secret = .error failure) :
      Carries client request secret []
  | sent (answer : Except Worker.Network Http.Reply) :
      Carries client request secret [⟨.send request secret, answer⟩]

/-- What an attempt does about its token. -/
inductive Lawful (client : Client) (attempt : Attempt) : Prop where
  /-- The token that is kept is good for long enough, and is carried. -/
  | kept {token : Token} {now : Instant} {sent : History Call Answer}
      (cached : attempt.before = some token) (fresh : Outlives token now client.refreshMargin)
      (events : attempt.events = ⟨.clock, now⟩ :: sent)
      (carries : Carries client attempt.request token.secret sent)
  /-- Another token is fetched, and is carried. -/
  | renewed {token : Token} {readings sent : History Call Answer}
      (misses : Misses client attempt.before readings)
      (events : attempt.events = readings ++ ⟨.fetchToken, .ok token⟩ :: sent)
      (carries : Carries client attempt.request token.secret sent)
  /-- No other token is had: the attempt fails for this, and the old one is kept. -/
  | refused {failure : Worker.Failure} {readings : History Call Answer}
      (misses : Misses client attempt.before readings)
      (events : attempt.events = readings ++ [⟨.fetchToken, .error failure⟩])
      (fails : attempt.failure? = some failure) (unchanged : attempt.after = attempt.before)

/-- A part of what the client does. -/
inductive Part where
  | pausing (ms : Nat)
  | reading (path : Path) (content : Except OsError ByteArray)
  | attempting (attempt : Attempt)

/-- What happens in a part. -/
def Part.events : Part → History Call Answer
  | pausing ms => [⟨.pause ms, ()⟩]
  | reading path content => [⟨.fileContent path, content⟩]
  | attempting attempt => attempt.events

variable {client : Client} {α β : Type} {cache after : Cache} {events : History Call Answer}
  {request : Http.Request}

/-- The events in which a token is had, the token or why there is none, and the token that is kept. -/
inductive Borne (client : Client) :
    Cache → History Call Answer → Except Worker.Failure String → Cache → Prop where
  | kept {token : Token} {now : Instant} (fresh : Outlives token now client.refreshMargin) :
      Borne client (some token) [⟨.clock, now⟩] (.ok token.secret) (some token)
  | renewed {cache : Cache} {readings : History Call Answer} (misses : Misses client cache readings)
      (token : Token) :
      Borne client cache (readings ++ [⟨.fetchToken, .ok token⟩]) (.ok token.secret) (some token)
  | refused {cache : Cache} {readings : History Call Answer} (misses : Misses client cache readings)
      (failure : Worker.Failure) :
      Borne client cache (readings ++ [⟨.fetchToken, .error failure⟩]) (.error failure) cache

/-- A token is fetched, or there is a reason why not. -/
theorem of_refresh {readings : History Call Answer} {result : Except Worker.Failure String}
    (misses : Misses client cache readings)
    (h : Yields (Cache.bearer.refresh (Procedure.ask Call.fetchToken) cache) events
      (result, after)) : Borne client cache (readings ++ events) result after := by
  cases h with
  | call fetched rest =>
    cases fetched with
    | ok token => cases rest; exact .renewed misses token
    | error failure => cases rest; exact .refused misses failure

/-- A token is had in one of three ways. -/
theorem of_bearer {result : Except Worker.Failure String}
    (h : Yields (client.bearer.run cache) events (result, after)) :
    Borne client cache events result after := by
  change Yields (Cache.bearer _ _ _ cache) _ _ at h
  unfold Cache.bearer at h
  cases cache with
  | none => exact of_refresh .nothing h
  | some token =>
    cases h with
    | call now rest =>
      change Yields (ite _ _ _) _ _ at rest
      split at rest
      · next stale =>
        have old : ¬ Outlives token now client.refreshMargin := fun fresh => by
          cases stale.symm.trans (isStale_eq_false_iff.mpr fresh)
        exact of_refresh (.stale old) rest
      · next fresh =>
        cases rest
        exact .kept (isStale_eq_false_iff.mp (Bool.eq_false_iff.mpr fresh))

/-- What is sent, and what comes of it, once there is a token or none. -/
inductive Exchanged (client : Client) (request : Http.Request) :
    Except Worker.Failure String → History Call Answer → Except Worker.Failure Http.Reply → Prop where
  | refused (failure : Worker.Failure) : Exchanged client request (.error failure) [] (.error failure)
  | unbuildable {secret : String} {problem : Worker.Network}
      (refused : client.prepare request secret = .error problem) :
      Exchanged client request (.ok secret) [] (.error (.network problem))
  | answered (secret : String) (answer : Except Worker.Network Http.Reply) :
      Exchanged client request (.ok secret) [⟨.send request secret, answer⟩]
        (answer.mapError .network)

/-- An exchange is a search for a token, followed by the request. -/
theorem of_exchange {result : Except Worker.Failure Http.Reply}
    (h : Yields ((client.exchange request).run cache) events (result, after)) :
    ∃ bearing first sent, events = first ++ sent ∧ Borne client cache first bearing after ∧
      Exchanged client request bearing sent result := by
  obtain ⟨first, sent, ⟨bearing, middle⟩, rfl, borne, rest⟩ := Yields.of_bind h
  refine ⟨bearing, first, sent, rfl, ?_⟩
  cases bearing with
  | error failure =>
    cases rest
    exact ⟨of_bearer borne, .refused failure⟩
  | ok secret =>
    dsimp only at rest
    -- with the token the request is put together, and sent if that can be done
    cases prepared : client.prepare request secret with
    | error problem =>
      rw [prepared] at rest
      cases rest
      exact ⟨of_bearer borne, .unbuildable prepared⟩
    | ok =>
      rw [prepared] at rest
      cases rest with
      | call answer rest =>
        cases answer with
        | error problem => cases rest; exact ⟨of_bearer borne, .answered secret (.error problem)⟩
        | ok reply => cases rest; exact ⟨of_bearer borne, .answered secret (.ok reply)⟩

/-- The token that is kept after an answer. -/
def keepAfter (cache : Cache) : Except Worker.Failure Http.Reply → Cache
  | .ok reply => if reply.isUnauthorized then none else cache
  | .error _ => cache

/-- A reply drops the token when it rejects it. -/
theorem keepAfter_ok (reply : Http.Reply) :
    keepAfter cache (.ok reply) = if reply.isUnauthorized then none else cache :=
  rfl

/-- What is done with an answer asks for nothing more, drops a rejected token, and hands on why there
is no answer. -/
def Settles (finish : Except Worker.Failure Http.Reply → Act (Except Worker.Failure α)) : Prop :=
  ∀ answer cache, ∃ result, (finish answer).run cache = .done (result, keepAfter cache answer) ∧
    ∀ failure, answer = .error failure → result = .error failure

theorem accept_run (reply : Http.Reply) (cache : Cache) :
    (accept reply).run cache =
      .done (if reply.isSuccess then .ok reply.body else .error reply.failure,
        keepAfter cache (.ok reply)) := by
  unfold accept
  rw [keepAfter_ok]
  by_cases success : reply.isSuccess = true
  · -- a reply of success is no rejection, so the token is kept either way
    have authorized : reply.isUnauthorized = false := by
      simp only [Http.Reply.isSuccess, Bool.and_eq_true, decide_eq_true_eq] at success
      simp only [Http.Reply.isUnauthorized, decide_eq_false_iff_not]
      omega
    rw [if_pos success, if_pos success, authorized]
    rfl
  · rw [if_neg success, if_neg success]
    cases reply.isUnauthorized <;> rfl

/-- An attempt at a request is an exchange, with the answer decoded. -/
theorem attempt_eq (ofJson? : Json → Option α) (request : Http.Request) :
    ∃ finish, client.attempt ofJson? request = client.exchange request >>= finish ∧
      Settles finish := by
  refine ⟨_, rfl, fun answer cache => ?_⟩
  cases answer with
  | error failure => exact ⟨_, rfl, fun _ same => by cases same; rfl⟩
  | ok reply =>
    dsimp only
    rw [StateT.run_bind, accept_run]
    cases reply.isSuccess with
    | false => exact ⟨_, rfl, nofun⟩
    | true => cases reply.body <;> exact ⟨_, rfl, nofun⟩

/-- An attempt at a deletion is an exchange as well. -/
theorem attemptDelete_eq (request : Http.Request) :
    ∃ finish, client.attemptDelete request = client.exchange request >>= finish ∧
      Settles finish := by
  refine ⟨_, rfl, fun answer cache => ?_⟩
  cases answer with
  | error failure => exact ⟨_, rfl, fun _ same => by cases same; rfl⟩
  | ok reply =>
    dsimp only
    by_cases missing : reply.isNotFound = true
    · have authorized : reply.isUnauthorized = false := by
        simp only [Http.Reply.isNotFound, decide_eq_true_eq] at missing
        simp [Http.Reply.isUnauthorized, missing]
      rw [if_pos missing, keepAfter_ok, authorized]
      exact ⟨_, rfl, nofun⟩
    · rw [if_neg missing, StateT.run_bind, accept_run]
      cases reply.isSuccess <;> exact ⟨_, rfl, nofun⟩

theorem Misses.keeps {readings : History Call Answer} (misses : Misses client cache readings) :
    readings.foldl keep cache = cache := by
  cases misses <;> rfl

/-- The token that is kept behind the search can be read off its events. -/
theorem Borne.keeps {bearing : Except Worker.Failure String}
    (borne : Borne client cache events bearing after) : events.foldl keep cache = after := by
  cases borne with
  | kept fresh => rfl
  | renewed misses token => rw [List.foldl_append, misses.keeps]; rfl
  | refused misses failure => rw [List.foldl_append, misses.keeps]; rfl

/-- The token that is kept behind the request can be read off its event. -/
theorem Exchanged.keeps {bearing : Except Worker.Failure String}
    {answer : Except Worker.Failure Http.Reply}
    (exchanged : Exchanged client request bearing events answer) :
    events.foldl keep cache = keepAfter cache answer := by
  cases exchanged with
  | refused failure => rfl
  | unbuildable refused => rfl
  | answered secret answer => cases answer <;> rfl

/-- What is sent is sent with the token that was had. -/
theorem Exchanged.carries {secret : String} {answer : Except Worker.Failure Http.Reply}
    (exchanged : Exchanged client request (.ok secret) events answer) :
    Carries client request secret events := by
  cases exchanged with
  | unbuildable refused => exact .unbuildable refused
  | answered secret answer => exact .sent answer

/-- One attempt does what it should about its token, and the token that is kept can be read off what
happened. -/
theorem lawful_of_settles {finish : Except Worker.Failure Http.Reply → Act (Except Worker.Failure α)}
    {result : Except Worker.Failure α} (settles : Settles finish)
    (h : Yields ((client.exchange request >>= finish).run cache) events (result, after)) :
    Lawful client ⟨request, cache, events, failureOf? result, after⟩ ∧
      events.foldl keep cache = after := by
  rw [StateT.run_bind] at h
  obtain ⟨early, late, ⟨answer, middle⟩, rfl, exchanged, rest⟩ := Yields.of_bind h
  obtain ⟨settled, done, failed⟩ := settles answer middle
  dsimp only at rest
  rw [done] at rest
  cases rest
  rw [List.append_nil]
  obtain ⟨bearing, first, sent, rfl, borne, exchange⟩ := of_exchange exchanged
  refine ⟨?_, by rw [List.foldl_append, borne.keeps, exchange.keeps]⟩
  cases borne with
  | kept fresh => exact .kept rfl fresh rfl exchange.carries
  | renewed misses token =>
    exact .renewed misses (List.append_assoc _ _ _) exchange.carries
  | refused misses failure =>
    cases exchange
    rw [failed failure rfl]
    exact .refused misses (List.append_nil _) rfl rfl

theorem of_attempted {attempt : Attempt} (attempted : Attempted client attempt) :
    Lawful client attempt ∧ attempt.events.foldl keep attempt.before = attempt.after := by
  cases attempted with
  | @decoded _ ofJson? request _ _ _ _ yields =>
    obtain ⟨finish, same, settles⟩ := client.attempt_eq ofJson? request
    exact lawful_of_settles settles (same ▸ yields)
  | @deleted request _ _ _ _ yields =>
    obtain ⟨finish, same, settles⟩ := client.attemptDelete_eq request
    exact lawful_of_settles settles (same ▸ yields)

/-! ## Courses

Whatever the client does is made of pauses, file reads and attempts. A course says this about a
history and keeps track of the token from one attempt to the next. Courses follow each other as
the parts of the client do. -/

/-- Parts one after the other; each attempt starts with the token that the one before it left. -/
inductive Course (client : Client) : Cache → List Part → Cache → Prop where
  | nil (cache : Cache) : Course client cache [] cache
  | pausing (ms : Nat) {cache after : Cache} {parts : List Part}
      (rest : Course client cache parts after) : Course client cache (.pausing ms :: parts) after
  | reading (path : Path) (content : Except OsError ByteArray) {cache after : Cache}
      {parts : List Part} (rest : Course client cache parts after) :
      Course client cache (.reading path content :: parts) after
  | attempting {attempt : Attempt} {after : Cache} {parts : List Part}
      (attempted : Attempted client attempt) (rest : Course client attempt.after parts after) :
      Course client attempt.before (.attempting attempt :: parts) after

theorem Course.append {middle : Cache} {first second : List Part}
    (h : Course client cache first middle) (rest : Course client middle second after) :
    Course client cache (first ++ second) after := by
  induction h with
  | nil cache => exact rest
  | pausing ms _ ih => exact .pausing ms (ih rest)
  | reading path content _ ih => exact .reading path content (ih rest)
  | attempting attempted _ ih => exact .attempting attempted (ih rest)

/-- The token that is kept can be read off what happened. -/
theorem Course.keeps {parts : List Part} (course : Course client cache parts after) :
    (parts.flatMap Part.events).foldl keep cache = after := by
  induction course with
  | nil cache => rfl
  | pausing ms _ ih => rw [List.flatMap_cons, List.foldl_append]; exact ih
  | reading path content _ ih => rw [List.flatMap_cons, List.foldl_append]; exact ih
  | attempting attempted _ ih =>
    rw [List.flatMap_cons, List.foldl_append, Part.events, (of_attempted attempted).2, ih]

/-- Every attempt in a course starts with the token that the course before it left. -/
theorem Course.split {past rest : List Part} {attempt : Attempt}
    (course : Course client cache (past ++ .attempting attempt :: rest) after) :
    Course client cache past attempt.before ∧ Attempted client attempt := by
  induction past generalizing cache with
  | nil =>
    cases course with
    | attempting attempted _ => exact ⟨.nil _, attempted⟩
  | cons part past ih =>
    rw [List.cons_append] at course
    cases course with
    | pausing ms course => exact (ih course).imp_left (.pausing ms)
    | reading path content course => exact (ih course).imp_left (.reading path content)
    | attempting attempted course => exact (ih course).imp_left (.attempting attempted)

/-- Whatever is answered, what the part does is a course. -/
def Runs (client : Client) (p : Act α) : Prop :=
  ∀ cache events result after, Yields (p.run cache) events (result, after) →
    ∃ parts, events = parts.flatMap Part.events ∧ Course client cache parts after

theorem runs_pure (value : α) : Runs client (pure value) := by
  rintro cache events result after ⟨⟩
  exact ⟨[], rfl, .nil cache⟩

/-- What follows a course by a course is a course. -/
theorem Runs.bind {p : Act α} {next : α → Act β} (hp : Runs client p)
    (hn : ∀ value, Runs client (next value)) : Runs client (p >>= next) := by
  intro cache events result after h
  rw [StateT.run_bind] at h
  obtain ⟨_, _, ⟨value, middle⟩, rfl, early, late⟩ := Yields.of_bind h
  obtain ⟨first, rfl, begun⟩ := hp _ _ _ _ early
  obtain ⟨second, rfl, course⟩ := hn _ _ _ _ _ late
  exact ⟨first ++ second, List.flatMap_append.symm, begun.append course⟩

theorem Runs.discard {p : Act α} (h : Runs client p) : Runs client (Functor.discard p) := by
  have same : Functor.discard p = p >>= fun _ => pure () := map_eq_pure_bind (fun _ => ()) p
  rw [same]
  exact h.bind fun _ => runs_pure ()

theorem runs_wait (ms : Nat) : Runs client (wait ms) := by
  intro cache events result after h
  cases h with
  | call answer rest =>
    cases rest
    exact ⟨[.pausing ms], rfl, .pausing ms (.nil cache)⟩

theorem runs_fileContent (path : Path) : Runs client (ask (.fileContent path)) := by
  intro cache events result after h
  cases h with
  | call content rest =>
    cases rest
    exact ⟨[.reading path result], rfl, .reading path result (.nil cache)⟩

theorem runs_attempt (ofJson? : Json → Option α) (request : Http.Request) :
    Runs client (client.attempt ofJson? request) := by
  intro cache events result after h
  exact ⟨[.attempting ⟨request, cache, events, failureOf? result, after⟩], by simp [Part.events],
    .attempting (.decoded h) (.nil _)⟩

theorem runs_attemptDelete (request : Http.Request) :
    Runs client (client.attemptDelete request) := by
  intro cache events result after h
  exact ⟨[.attempting ⟨request, cache, events, failureOf? result, after⟩], by simp [Part.events],
    .attempting (.deleted h) (.nil _)⟩

/-- Attempts that are repeated are a course when each of them is. -/
theorem Runs.repeated {attempt : Act (Except Worker.Failure α)} (once : Runs client attempt)
    (left : Nat) (made : UInt32) :
    Runs client (client.backoff.repeatFrom wait attempt left made) := by
  -- the induction is on the tries that are left
  induction left generalizing made with
  | zero => exact once
  | succ left ih =>
    unfold Backoff.repeatFrom
    refine once.bind fun result => ?_
    cases result with
    | ok value => exact runs_pure _
    | error failure =>
      change Runs client (ite _ _ _)
      split
      · exact (runs_wait _).bind fun _ => ih (made + 1)
      · exact runs_pure _

/-! ## Requests

Every request to the worker is put together from the parts above, so that it is a course follows
its text. The theorem takes any program of requests, in which a request may depend on the answers
to those before it. -/

theorem runs_send (ofJson? : Json → Option α) (request : Http.Request) :
    Runs client (client.send ofJson? request) :=
  (runs_attempt ofJson? request).repeated _ 0

theorem runs_post (ofJson? : Json → Option α) (path : String) (body : Json) :
    Runs client (client.post ofJson? path body) :=
  runs_send _ _

theorem runs_get (ofJson? : Json → Option α) (path : String) :
    Runs client (client.get ofJson? path) :=
  runs_send _ _

theorem runs_delete (path : String) : Runs client (client.delete path) :=
  (runs_attemptDelete _).repeated _ 0

theorem runs_listAfter (item : Json → Option α) (path : String) (extra : List (String × String))
    (left : Nat) (cursor : Option String) :
    Runs client (client.listAfter item path extra left cursor) := by
  induction left generalizing cursor with
  | zero => exact runs_pure _
  | succ left ih =>
    unfold listAfter
    refine (runs_send _ _).bind fun result => ?_
    cases result with
    | error failure => exact runs_pure _
    | ok page =>
      change Runs client (ite _ _ _)
      split
      · exact runs_pure _
      · refine (ih page.lastId).bind fun result => ?_
        cases result <;> exact runs_pure _

theorem runs_deleteAll (paths : List String) : Runs client (client.deleteAll paths) := by
  induction paths with
  | nil => exact runs_pure _
  | cons path rest ih => exact (runs_delete path).bind fun _ => ih.bind fun _ => runs_pure _

theorem runs_purgeIds (kind : String) (handles : List Handle) :
    Runs client (client.purgeIds kind handles) := by
  induction handles with
  | nil => exact runs_pure _
  | cons handle rest ih => exact (runs_delete _).bind fun _ => ih.bind fun _ => runs_pure _

theorem runs_purgeKinds (kinds : List String) : Runs client (client.purgeKinds kinds) := by
  induction kinds with
  | nil => exact runs_pure _
  | cons kind rest ih =>
    refine (runs_listAfter _ kind [] _ none).bind fun listed => ?_
    cases listed with
    | error failure => exact runs_pure _
    | ok handles =>
      refine (runs_purgeIds kind handles).bind fun _ => ih.bind fun others => ?_
      cases others <;> exact runs_pure _

/-- The check of the connection, with the thread that it makes and deletes. -/
theorem runs_checkConnection : Runs client client.checkConnection := by
  refine (runs_post _ _ _).bind fun result => ?_
  cases result with
  | error failure => exact runs_pure _
  | ok thread => exact (runs_delete _).discard.bind fun _ => runs_pure _

/-- A session, with the agent that is deleted when it gets no thread. -/
theorem runs_createSession (instructions : String) :
    Runs client (client.createSession instructions) := by
  refine (runs_post _ _ _).bind fun agent => ?_
  cases agent with
  | error failure => exact runs_pure _
  | ok agent =>
    refine (runs_post _ _ _).bind fun thread => ?_
    cases thread with
    | error failure => exact (runs_delete _).discard.bind fun _ => runs_pure _
    | ok thread => exact runs_pure _

/-- An upload, behind the file that is read for it. -/
theorem runs_uploadArtifact (artifact : Worker.Artifact) :
    Runs client (client.uploadArtifact artifact) := by
  refine (runs_fileContent artifact.path).bind fun content => ?_
  cases content with
  | error error => exact runs_pure _
  | ok content => exact (runs_send _ _).bind fun _ => runs_pure _

/-- Every request to the worker is a course of attempts. -/
theorem runs_perform (call : Worker.Call) : Runs client (client.perform call) := by
  cases call with
  | checkConnection => exact runs_checkConnection
  | createSession instructions => exact runs_createSession instructions
  | uploadArtifact artifact => exact runs_uploadArtifact artifact
  | createIndex | attachIndex | sendMessage | startJob =>
    exact (runs_post _ _ _).bind fun _ => runs_pure _
  | indexStatus | pollJob => exact (runs_get _ _).bind fun _ => runs_pure _
  | readTranscript session => exact (runs_listAfter _ _ _ _ _).bind fun _ => runs_pure _
  | teardownSession session => exact runs_deleteAll _
  | purgeAll => exact runs_purgeKinds _

/-- Requests to the worker one after the other, as the answers have it. -/
def serveAll (client : Client) (work : Procedure Worker.Call Worker.Call.Answer α) : Act α :=
  StateT.mk (work.interpret fun call cache => (client.perform call).run cache)

theorem runs_serveAll (work : Procedure Worker.Call Worker.Call.Answer α) :
    Runs client (client.serveAll work) := by
  induction work with
  | done value => exact runs_pure value
  | call c next ih => exact (runs_perform c).bind ih

/-- **The life of a token.** Whatever is asked of the worker, and whatever the clock shows, the source
hands out and the service answers, all that happens is a course of attempts, with pauses and file
reads between them. The token that is kept before an attempt is the one that was fetched last, if the
service rejected none since. The attempt carries it if the clock shows that it outlives the margin;
else, and only then, the source is asked once, and the attempt carries the new token or fails as the
source did, with nothing sent and nothing forgotten. -/
theorem token_lifecycle {work : Procedure Worker.Call Worker.Call.Answer α}
    {history : History Call Answer} {result : α} {last : Cache}
    (yields : Yields ((client.serveAll work).run Cache.empty) history (result, last)) :
    ∃ parts : List Part, history = parts.flatMap Part.events ∧
      (∀ token, last = some token ↔ Current history token) ∧
      ∀ past attempt rest, parts = past ++ .attempting attempt :: rest →
        Attempted client attempt ∧ Lawful client attempt ∧
        (∀ token, attempt.before = some token ↔ Current (past.flatMap Part.events) token) ∧
        ∀ token, attempt.before = some token → ∀ earlier event later,
          past.flatMap Part.events = earlier ++ event :: later → rejects event = true →
          ⟨.fetchToken, .ok token⟩ ∈ later := by
  obtain ⟨parts, rfl, course⟩ := runs_serveAll work _ _ _ _ yields
  refine ⟨parts, rfl, fun token => ?_, fun past attempt rest split => ?_⟩
  · rw [← held_eq_some_iff, held, course.keeps]
  subst split
  obtain ⟨before, attempted⟩ := course.split
  have kept (token : Token) :
      attempt.before = some token ↔ Current (past.flatMap Part.events) token := by
    rw [← held_eq_some_iff, held, before.keeps]
  refine ⟨attempted, (of_attempted attempted).1, kept, ?_⟩
  exact fun token cached _ _ _ split rejected => ((kept token).mp cached).fetched_after split rejected

/-! ## A revoked token

The token is long from being stale, but the service rejects it from the second request on. -/

/-- A client that tries nothing again. -/
def onceClient : Client where
  endpoint := "http://a"
  apiVersion := "1"
  source := .cli "az" "resource"
  refreshMargin := 300
  model := "model"
  agentName := "agent"
  backoff := ⟨0, 0, 0⟩

/-- A service that accepts the first token once. -/
def revoking (past : History Call Answer) : (call : Call) → Answer call
  | .send _ token => .ok ⟨if token = "first" ∧ 2 ≤ past.length then 401 else 200, .ok ""⟩
  | .fetchToken => .ok (.lasting (if past.any rejects then "second" else "first"))
  | .clock => default
  | .pause _ => ()
  | .fileContent _ => .ok ByteArray.empty

/-- The token of a request. -/
def sentToken? : Event Call Answer → Option String
  | ⟨.send _ token, _⟩ => some token
  | _ => none

/-- Three requests to a service that revokes the first token: it is sent twice, and the last request
carries another one, which is current then. -/
theorem token_lifecycle_revoked :
    let work : Procedure Worker.Call Worker.Call.Answer Unit := do
      let _ ← Procedure.ask (.indexStatus "index")
      let _ ← Procedure.ask (.indexStatus "index")
      let _ ← Procedure.ask (.indexStatus "index")
    let history := (((onceClient.serveAll work).run Cache.empty).replay revoking []).1
    history.filterMap sentToken? = ["first", "first", "second"] ∧
      Current history (.lasting "second") := by
  intro work history
  refine ⟨by decide +kernel, ?_⟩
  have last : (((onceClient.serveAll work).run Cache.empty).replay revoking []).2 =
      ((), some (.lasting "second")) := by decide +kernel
  have yields := Procedure.yields_replay revoking ((onceClient.serveAll work).run Cache.empty)
  rw [last] at yields
  obtain ⟨parts, -, current, -⟩ := token_lifecycle yields
  exact (current (.lasting "second")).mp rfl

end AzcRepair.Agents.Client
