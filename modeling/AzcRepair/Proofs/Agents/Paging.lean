import Mathlib.Data.List.Infix
import AzcRepair.Proofs.Agents.Tokens

/-!
# Reading a list page by page

A service cuts a list into pages and shows a page to whoever names the last id of the one before it.
What the client reads from such a service is the whole list, each page fetched with success once,
also when requests fail transiently in between.

* `Remains`, `IsNext`, `Serves` — the rule of the service, said about the requests it gets.
* `of_attempt` — what one attempt sends, and what comes of it.
* `of_repeatFrom` — a request that is repeated while it fails transiently ends with its page.
* `of_listAfter` — by induction on the pages that are left, all of them are read from a cursor.
* `list_complete` — the whole list.
-/

namespace AzcRepair.Agents.Client

open Access (Cache)
open Procedure (Event History Yields)

/-! ## The service

What is asked of a service for the list to be read as a whole. The rule speaks about single
requests and their answers: a request fails transiently, or shows the page that its cursor leaves.
How many pages there are, and in which order they are asked for, is not part of it. -/

/-- The cursor that a request names. -/
def cursor? (request : Http.Request) : Option String :=
  request.query.lookup "after"

/-- The id of the last item. -/
def lastId? {α : Type} (id : α → String) (items : List α) : Option String :=
  items.getLast?.map id

/-- The pages behind a cursor: all of them when there is none, and those behind the page that ends in
it, when there are any. -/
inductive Remains {α : Type} (id : α → String) (pages : List (List α)) :
    Option String → List (List α) → Prop where
  | all : Remains id pages none pages
  | behind {front rest : List (List α)} {items : List α} {cursor : String}
      (cut : pages = front ++ items :: rest) (more : rest ≠ [])
      (ends : lastId? id items = some cursor) : Remains id pages (some cursor) rest

/-- The page that is shown when these are left. -/
inductive IsNext {α : Type} (id : α → String) : List (List α) → Page α → Prop where
  | page (items : List α) (rest : List (List α)) :
      IsNext id (items :: rest) ⟨items, !rest.isEmpty, lastId? id items⟩
  | nothing (more : Bool) (last : Option String) : IsNext id [] ⟨[], more, last⟩

/-- The answer holds the page that is shown when these are left. -/
inductive Continues {α : Type} (item : Json → Option α) (id : α → String) (rest : List (List α)) :
    Except Worker.Network Http.Reply → Prop where
  | reply {reply : Http.Reply} {body : String} {page : Page α} (success : reply.isSuccess = true)
      (whole : reply.body = .ok body) (decoded : decode (Page.ofJson? item) body = .ok page)
      (next : IsNext id rest page) : Continues item id rest (.ok reply)

/-- The network broke before the answer was there or in the midst of it, or the service was busy. -/
inductive Transient : Except Worker.Network Http.Reply → Prop where
  | broken {failure : Worker.Network} (stage : failure.stage = .sending) : Transient (.error failure)
  | cut {reply : Http.Reply} {failure : Worker.Network} (success : reply.isSuccess = true)
      (rest : reply.body = .error failure) (stage : failure.stage = .sending) :
      Transient (.ok reply)
  | busy {reply : Http.Reply} (status : Worker.Failure.isTransientStatus reply.status = true) :
      Transient (.ok reply)

/-- The event is a request to the service. -/
def isSend : Event Call Answer → Bool
  | ⟨.send .., _⟩ => true
  | _ => false

/-- The request of an event, when it was answered with success and the whole answer was had. -/
def served? : Event Call Answer → Option Http.Request
  | ⟨.send request _, .ok reply⟩ =>
    if reply.isSuccess && reply.body.isOk then some request else none
  | _ => none

/-- The token, if there is one, can be part of a request. -/
def Usable (cache : Cache) : Prop :=
  ∀ token, cache = some token → isHeaderText token.secret = true

/-- A client that has no token yet has none that could not be sent. -/
theorem usable_empty : Usable Cache.empty := by
  intro token h
  unfold Cache.empty at h
  cases h

/-- Every token that is asked for is had, and can be part of a request. -/
def HandsOut (history : History Call Answer) : Prop :=
  ∀ fetched, ⟨.fetchToken, fetched⟩ ∈ history →
    ∃ token, fetched = .ok token ∧ isHeaderText token.secret = true

/-- What the world answers while a list is read that is cut into these pages. -/
structure Serves {α : Type} (client : Client) (item : Json → Option α) (id : α → String)
    (pages : List (List α)) (history : History Call Answer) : Prop where
  tokens : HandsOut history
  /-- A request fails transiently, or is answered with the first page that its cursor leaves. Nothing
  is said about requests with other cursors. -/
  answer : ∀ request secret answer rest, ⟨.send request secret, answer⟩ ∈ history →
    Remains id pages (cursor? request) rest → Transient answer ∨ Continues item id rest answer
  /-- Without a success in between there are not more failures than are tried again. -/
  patience : ∀ stretch, stretch <:+: history → (∀ event ∈ stretch, served? event = none) →
    stretch.countP isSend ≤ client.backoff.maxRetries.toNat

variable {α : Type} {client : Client} {item : Json → Option α} {id : α → String}
  {path : String} {extra : List (String × String)} {cache after : Cache}
  {events : History Call Answer} {request : Http.Request} {pages rest : List (List α)}

theorem HandsOut.of_subset {history : History Call Answer} (h : HandsOut history)
    (part : events ⊆ history) : HandsOut events :=
  fun fetched mem => h fetched (part mem)

/-- A service that keeps the rule keeps it in every part of a history. -/
theorem Serves.of_infix {history : History Call Answer}
    (h : Serves client item id pages history) (part : events <:+: history) :
    Serves client item id pages events where
  tokens := h.tokens.of_subset part.subset
  answer request secret answer rest mem := h.answer request secret answer rest (part.subset mem)
  patience stretch within := h.patience stretch (within.trans part)

/-- The first page behind a cursor leaves the ones behind it. -/
theorem Remains.next {cursor : Option String} {items : List α}
    (h : Remains id pages cursor (items :: rest)) (some : items ≠ []) (more : rest ≠ []) :
    Remains id pages (lastId? id items) rest := by
  obtain ⟨last, hlast⟩ : ∃ last, lastId? id items = .some last := by
    rw [lastId?, List.getLast?_eq_some_getLast some]
    exact ⟨_, rfl⟩
  rw [hlast]
  -- without a cursor nothing was cut off yet, and otherwise the cut moves on by a page
  cases h with
  | all => exact .behind (List.nil_append _).symm more hlast
  | @behind front _ before _ cut _ _ =>
    have hcut : pages = (front ++ [before]) ++ items :: rest := by simp [cut]
    exact .behind hcut more hlast

/-- A status that says that the service is busy is none of success. -/
theorem isSuccess_of_isTransientStatus {reply : Http.Reply}
    (h : Worker.Failure.isTransientStatus reply.status = true) : reply.isSuccess = false := by
  simp only [Worker.Failure.isTransientStatus, Bool.or_eq_true, Bool.and_eq_true, beq_iff_eq,
    decide_eq_true_eq] at h
  simp only [Http.Reply.isSuccess, Bool.and_eq_false_iff, decide_eq_false_iff_not]
  omega

/-- A transient failure is not counted as a success. -/
theorem served?_of_transient {secret : String} {answer : Except Worker.Network Http.Reply}
    (h : Transient answer) : served? ⟨.send request secret, answer⟩ = none := by
  cases h with
  | broken => rfl
  | cut _ rest =>
    rw [served?, rest, Except.isOk, Except.toBool, Bool.and_false]
    rfl
  | busy status =>
    rw [served?, isSuccess_of_isTransientStatus status]
    rfl

theorem served?_of_not_isSend {event : Event Call Answer} (h : isSend event = false) :
    served? event = none := by
  obtain ⟨call, answer⟩ := event
  cases call with
  | send => cases h
  | fetchToken | clock | pause | fileContent => rfl

theorem countP_isSend_of_quiet (quiet : ∀ event ∈ events, isSend event = false) :
    events.countP isSend = 0 := by
  rw [List.countP_eq_zero]
  intro event hevent
  simp [quiet event hevent]

/-! ## One attempt

An attempt is an exchange and the decoding of its answer. With tokens that can be sent, two things
can happen: there is no address for the request, or it is sent once. -/

/-- What comes of an answer that is decoded. -/
def received (ofJson? : Json → Option α) :
    Except Worker.Failure Http.Reply → Except Worker.Failure α
  | .error failure => .error failure
  | .ok reply =>
    if reply.isSuccess then
      match reply.body with
      | .error failure => .error (.network failure)
      | .ok body => decode ofJson? body
    else .error reply.failure

/-- An attempt is one exchange, and its result is read off the answer. -/
theorem attempt_run (ofJson? : Json → Option α) (request : Http.Request) (cache : Cache) :
    (client.attempt ofJson? request).run cache = (client.exchange request).run cache >>=
      fun answered => .done (received ofJson? answered.1, keepAfter answered.2 answered.1) := by
  rw [attempt, StateT.run_bind]
  congr 1
  funext result
  obtain ⟨answer, cache⟩ := result
  cases answer with
  | error failure => rfl
  | ok reply =>
    simp only [received, StateT.run_bind, accept_run]
    cases reply.isSuccess with
    | false => rfl
    | true => cases reply.body <;> rfl

/-- The request has no address, and this is the failure for it. -/
def Unaddressable (client : Client) (request : Http.Request) (failure : Worker.Failure) : Prop :=
  ∃ problem, client.address request = .error problem ∧
    failure = .network (unbuildable problem.address? problem.message)

/-- What an attempt with a token sends, and what comes of it. -/
inductive Tried (client : Client) (ofJson? : Json → Option α) (request : Http.Request) :
    History Call Answer → Except Worker.Failure α → Prop where
  | unaddressable {events : History Call Answer} {failure : Worker.Failure}
      (why : Unaddressable client request failure) :
      Tried client ofJson? request events (.error failure)
  | sent {before : History Call Answer} (quiet : ∀ event ∈ before, isSend event = false)
      (secret : String) (answer : Except Worker.Network Http.Reply) :
      Tried client ofJson? request (before ++ [⟨.send request secret, answer⟩])
        (received ofJson? (answer.mapError .network))

/-- With a token that can be sent, a request that cannot be put together has no address. -/
theorem unaddressable_of_prepare {secret : String} {problem : Worker.Network}
    (usable : isHeaderText secret = true) (h : client.prepare request secret = .error problem) :
    Unaddressable client request (.network problem) := by
  unfold prepare at h
  split at h
  · next wrong haddress =>
    cases h
    exact ⟨wrong, haddress, rfl⟩
  · rw [if_pos usable] at h
    cases h

theorem Misses.quiet (h : Misses client cache events) : ∀ event ∈ events, isSend event = false := by
  cases h with
  | nothing => exact List.forall_mem_nil _
  | stale => simp [isSend]

theorem Borne.quiet {bearing : Except Worker.Failure String}
    (h : Borne client cache events bearing after) : ∀ event ∈ events, isSend event = false := by
  cases h with
  | kept => simp [isSend]
  | renewed misses | refused misses =>
    intro event hevent
    rcases List.mem_append.mp hevent with hread | hfetch
    · exact misses.quiet event hread
    · rw [List.mem_singleton.mp hfetch]
      rfl

/-- With tokens that can be part of a request, one is had, and one like that is kept. -/
theorem Borne.usable {bearing : Except Worker.Failure String} (usable : Usable cache)
    (tokens : HandsOut events) (h : Borne client cache events bearing after) :
    Usable after ∧ ∃ secret, bearing = .ok secret ∧ isHeaderText secret = true := by
  cases h with
  | @kept token now fresh => exact ⟨usable, token.secret, rfl, usable token rfl⟩
  | renewed misses token =>
    obtain ⟨_, hsame, husable⟩ := tokens (.ok token) (by simp)
    cases hsame
    exact ⟨fun _ hkept => by cases hkept; exact husable, token.secret, rfl, husable⟩
  | refused misses failure =>
    obtain ⟨_, hsame, -⟩ := tokens (.error failure) (by simp)
    cases hsame

/-- An answer leaves no token that could not be sent. -/
theorem Usable.keepAfter {answer : Except Worker.Failure Http.Reply} (h : Usable cache) :
    Usable (keepAfter cache answer) := by
  cases answer with
  | error failure => exact h
  | ok reply =>
    rw [keepAfter_ok]
    split
    · exact nofun
    · exact h

/-- An attempt sends its request once, unless it has no address, and leaves a token that can be
sent. -/
theorem of_attempt {ofJson? : Json → Option α} {result : Except Worker.Failure α}
    (usable : Usable cache) (tokens : HandsOut events)
    (h : Yields ((client.attempt ofJson? request).run cache) events (result, after)) :
    Tried client ofJson? request events result ∧ Usable after := by
  rw [attempt_run] at h
  obtain ⟨early, late, ⟨answer, middle⟩, rfl, hexchange, hrest⟩ := Yields.of_bind h
  cases hrest
  rw [List.append_nil] at tokens ⊢
  obtain ⟨bearing, before, sent, rfl, hborne, hsent⟩ := of_exchange hexchange
  obtain ⟨hafter, secret, rfl, hsecret⟩ :=
    hborne.usable usable (tokens.of_subset (List.subset_append_left before sent))
  refine ⟨?_, hafter.keepAfter⟩
  cases hsent with
  | unbuildable refused => exact .unaddressable (unaddressable_of_prepare hsecret refused)
  | answered secret answer => exact .sent hborne.quiet secret answer

/-! ## A request that is repeated

The service fails no more often in a row than the client tries again. So a request that has an
address ends with its page, and the tries before it leave no success behind. -/

/-- A transient failure comes to the client as one that is tried again. -/
theorem received_of_transient (ofJson? : Json → Option α)
    {answer : Except Worker.Network Http.Reply} (h : Transient answer) :
    ∃ failure, received ofJson? (answer.mapError .network) = .error failure ∧
      failure.isTransient = true := by
  cases h with
  | @broken failure stage => exact ⟨.network failure, rfl, decide_eq_true stage⟩
  | @cut reply failure success rest stage =>
    have hreceived : received ofJson? (.ok reply) = .error (.network failure) := by
      rw [received, if_pos success, rest]
    exact ⟨.network failure, hreceived, decide_eq_true stage⟩
  | @busy reply status =>
    have hreceived : received ofJson? (.ok reply) = .error reply.failure := by
      rw [received, isSuccess_of_isTransientStatus status]
      rfl
    exact ⟨reply.failure, hreceived, status⟩

/-- A page comes to the client as it was sent. -/
theorem received_of_continues {answer : Except Worker.Network Http.Reply}
    (h : Continues item id rest answer) :
    ∃ page, received (Page.ofJson? item) (answer.mapError .network) = .ok page ∧
      IsNext id rest page := by
  cases h with
  | @reply reply body page success whole decoded next =>
    have hreceived : received (Page.ofJson? item) (.ok reply) = .ok page := by
      rw [received, if_pos success, whole]
      exact decoded
    exact ⟨page, hreceived, next⟩

theorem served?_of_continues {secret : String} {answer : Except Worker.Network Http.Reply}
    (h : Continues item id rest answer) : served? ⟨.send request secret, answer⟩ = some request := by
  cases h with
  | reply success whole =>
    rw [served?, success, whole]
    rfl

/-- A request without an address is not tried again. -/
theorem Unaddressable.isTransient {failure : Worker.Failure}
    (h : Unaddressable client request failure) : failure.isTransient = false := by
  obtain ⟨problem, -, rfl⟩ := h
  rfl

/-- An attempt at a page has no address for it, gets the page, or fails transiently. -/
inductive Paged (client : Client) (id : α → String) (request : Http.Request)
    (rest : List (List α)) :
    History Call Answer → Except Worker.Failure (Page α) → Prop where
  | unaddressable {events : History Call Answer} {failure : Worker.Failure}
      (why : Unaddressable client request failure) :
      Paged client id request rest events (.error failure)
  | shown {events : History Call Answer} {page : Page α} (next : IsNext id rest page)
      (once : events.filterMap served? = [request]) : Paged client id request rest events (.ok page)
  | failed {events : History Call Answer} {failure : Worker.Failure}
      (transient : failure.isTransient = true) (none : ∀ event ∈ events, served? event = none)
      (once : events.countP isSend = 1) : Paged client id request rest events (.error failure)

/-- Under the rule of the service an attempt comes to one of these three. -/
theorem Tried.paged {result : Except Worker.Failure (Page α)}
    (answered : ∀ secret answer, ⟨.send request secret, answer⟩ ∈ events →
      Transient answer ∨ Continues item id rest answer)
    (h : Tried client (Page.ofJson? item) request events result) :
    Paged client id request rest events result := by
  cases h with
  | unaddressable why => exact .unaddressable why
  | @sent before quiet secret answer =>
    have hbefore : ∀ event ∈ before, served? event = none :=
      fun event hevent => served?_of_not_isSend (quiet event hevent)
    rcases answered secret answer (by simp) with htransient | hcontinues
    · obtain ⟨failure, hreceived, hfailure⟩ :=
        received_of_transient (Page.ofJson? item) htransient
      rw [hreceived]
      have hnone : ∀ event ∈ before ++ [⟨.send request secret, answer⟩], served? event = none := by
        intro event hevent
        rcases List.mem_append.mp hevent with hevent | hevent
        · exact hbefore event hevent
        · rw [List.mem_singleton.mp hevent]
          exact served?_of_transient htransient
      have honce : List.countP isSend (before ++ [⟨.send request secret, answer⟩]) = 1 := by
        rw [List.countP_append, countP_isSend_of_quiet quiet]
        rfl
      exact .failed hfailure hnone honce
    · obtain ⟨page, hreceived, hnext⟩ := received_of_continues hcontinues
      rw [hreceived]
      have hserved : served? ⟨.send request secret, answer⟩ = some request :=
        served?_of_continues hcontinues
      have honce : List.filterMap served? (before ++ [⟨.send request secret, answer⟩]) =
          [request] := by
        rw [List.filterMap_append, List.filterMap_eq_nil_iff.mpr hbefore,
          List.filterMap_cons_some hserved]
        rfl
      exact .shown hnext honce

/-- The first of several tries, and what follows on it. -/
theorem repeatFrom_run {attempt : Act (Except Worker.Failure α)} (left : Nat) (made : UInt32)
    (cache : Cache) :
    (client.backoff.repeatFrom wait attempt (left + 1) made).run cache = attempt.run cache >>=
      fun tried => match tried.1 with
        | .ok value => .done (.ok value, tried.2)
        | .error failure =>
          if failure.isTransient then
            .call (.pause (client.backoff.waitMs made)) fun _ =>
              (client.backoff.repeatFrom wait attempt left (made + 1)).run tried.2
          else .done (.error failure, tried.2) := by
  rw [Backoff.repeatFrom, StateT.run_bind]
  congr 1
  funext result
  obtain ⟨tried, cache⟩ := result
  cases tried with
  | ok value => rfl
  | error failure => cases h : failure.isTransient <;> simp only [h] <;> rfl

/-- A request that is repeated while it fails transiently ends with the page that it asks for, after
one success, unless it has no address. -/
theorem of_repeatFrom {left : Nat} {made : UInt32} {result : Except Worker.Failure (Page α)}
    (usable : Usable cache) (tokens : HandsOut events)
    (answered : ∀ secret answer, ⟨.send request secret, answer⟩ ∈ events →
      Transient answer ∨ Continues item id rest answer)
    (patience : ∀ stretch, stretch <+: events → (∀ event ∈ stretch, served? event = none) →
      stretch.countP isSend ≤ left)
    (h : Yields ((client.backoff.repeatFrom wait (client.attempt (Page.ofJson? item) request) left
      made).run cache) events (result, after)) :
    Usable after ∧ ((∃ failure, result = .error failure ∧ Unaddressable client request failure) ∨
      ∃ page, result = .ok page ∧ IsNext id rest page ∧ events.filterMap served? = [request]) := by
  -- the induction is on the tries that are left; without any, a failure would be one too many
  induction left generalizing made cache events with
  | zero =>
    obtain ⟨htried, hafter⟩ := of_attempt usable tokens h
    refine ⟨hafter, ?_⟩
    cases htried.paged answered with
    | unaddressable why => exact .inl ⟨_, rfl, why⟩
    | shown next once => exact .inr ⟨_, rfl, next, once⟩
    | failed _ none once =>
      have hnone := patience events (List.prefix_refl events) none
      omega
  | succ left ih =>
    rw [repeatFrom_run] at h
    obtain ⟨early, late, ⟨tried, middle⟩, rfl, hattempt, hrest⟩ := Yields.of_bind h
    obtain ⟨htried, hmiddle⟩ :=
      of_attempt usable (tokens.of_subset (List.subset_append_left early late)) hattempt
    have hpaged : Paged client id request rest early tried :=
      htried.paged fun secret answer hmem => answered secret answer (List.mem_append_left late hmem)
    cases hpaged with
    | @unaddressable failure why =>
      simp only [why.isTransient] at hrest
      cases hrest
      exact ⟨hmiddle, .inl ⟨failure, rfl, why⟩⟩
    | @shown page next once =>
      cases hrest
      rw [List.append_nil]
      exact ⟨hmiddle, .inr ⟨page, rfl, next, once⟩⟩
    | @failed failure transient none once =>
      simp only [transient, if_true] at hrest
      cases hrest with
      | @call _ _ late _ paused hagain =>
        have hmem {event : Event Call Answer} (h : event ∈ late) :
            event ∈ early ++ ⟨.pause (client.backoff.waitMs made), paused⟩ :: late :=
          List.mem_append_right early (List.mem_cons_of_mem _ h)
        -- the failure before the pause and those behind it are one stretch without a success
        have hpatience : ∀ stretch, stretch <+: late →
            (∀ event ∈ stretch, served? event = Option.none) → stretch.countP isSend ≤ left := by
          intro stretch hstretch hquiet
          have hwhole : early ++ ⟨.pause (client.backoff.waitMs made), paused⟩ :: stretch <+:
              early ++ ⟨.pause (client.backoff.waitMs made), paused⟩ :: late :=
            (List.prefix_append_right_inj early).mpr (List.cons_prefix_cons.mpr ⟨rfl, hstretch⟩)
          have hall := patience _ hwhole (List.forall_mem_append.mpr
            ⟨none, List.forall_mem_cons.mpr ⟨rfl, hquiet⟩⟩)
          rw [List.countP_append, List.countP_cons, once] at hall
          omega
        have hserved : List.filterMap served?
            (early ++ ⟨.pause (client.backoff.waitMs made), paused⟩ :: late) =
              late.filterMap served? := by
          rw [List.filterMap_append, List.filterMap_eq_nil_iff.mpr none]
          rfl
        rw [hserved]
        exact ih hmiddle (tokens.of_subset fun _ => hmem)
          (fun secret answer h => answered secret answer (hmem h)) hpatience hagain

/-! ## The pages behind a cursor

The recursion of the client goes from page to page, and the pages that remain behind its cursor go
down with it. The last id of a page leads to those behind it, by `Remains.next`. -/

/-- The cursors that the pages behind a cursor are asked for with. -/
def cursors (id : α → String) (cursor : Option String) (rest : List (List α)) :
    List (Option String) :=
  cursor :: rest.dropLast.map (lastId? id)

/-- The first page is asked for with the cursor, and the others with the last ids before them. -/
theorem cursors_cons (cursor : Option String) (items : List α) (some : rest ≠ []) :
    cursors id cursor (items :: rest) = cursor :: cursors id (lastId? id items) rest := by
  rw [cursors, List.dropLast_cons_of_ne_nil some]
  rfl

/-- A request for a page names its cursor, provided that the further parameters name none. -/
theorem cursor?_pageRequest (further : extra.lookup "after" = none) (cursor : Option String) :
    cursor? (client.pageRequest path extra cursor) = cursor := by
  have hversion : ("after" == "api-version") = false := by decide
  have hlimit : ("after" == "limit") = false := by decide
  have hcursor : ((cursor.map fun c => ("after", c)).toList).lookup "after" = cursor := by
    cases cursor <;> rfl
  change List.lookup "after" (("api-version", client.apiVersion) :: ("limit", pageLimit) ::
    (extra ++ (cursor.map fun c => ("after", c)).toList)) = cursor
  rw [List.lookup_cons, hversion, List.lookup_cons, hlimit, List.lookup_append, further, hcursor]
  rfl

/-- What is done once a page was asked for. -/
def goOn (client : Client) (item : Json → Option α) (path : String)
    (extra : List (String × String)) (left : Nat) :
    Except Worker.Failure (Page α) × Cache →
      Procedure Call Answer (Except Worker.Failure (List α) × Cache)
  | (.error failure, cache) => .done (.error failure, cache)
  | (.ok page, cache) =>
    if isLast page then .done (.ok page.items, cache)
    else (client.listAfter item path extra left page.lastId).run cache >>= fun others =>
      .done (others.1.map (page.items ++ ·), others.2)

/-- The first of the pages, and what follows on it. -/
theorem listAfter_run (left : Nat) (cursor : Option String) (cache : Cache) :
    (client.listAfter item path extra (left + 1) cursor).run cache =
      (client.send (Page.ofJson? item) (client.pageRequest path extra cursor)).run cache >>=
        client.goOn item path extra left := by
  rw [listAfter, StateT.run_bind]
  congr 1
  funext result
  obtain ⟨asked, cache⟩ := result
  cases asked with
  | error failure => rfl
  | ok page =>
    rw [goOn]
    cases h : isLast page with
    | true => simp only [h]; rfl
    | false =>
      simp only [h]
      change StateT.run (_ >>= _) cache = _
      rw [StateT.run_bind]
      congr 1
      funext result
      obtain ⟨others, cache⟩ := result
      cases others <;> rfl

theorem isLast_nothing (more : Bool) (last : Option String) :
    isLast (⟨[], more, last⟩ : Page α) = true := by
  simp [isLast]

/-- A page with items is the last one when no other remains. -/
theorem isLast_page {items : List α} (some : items ≠ []) :
    isLast ⟨items, !rest.isEmpty, lastId? id items⟩ = rest.isEmpty := by
  have hitems : items.isEmpty = false := List.isEmpty_eq_false_iff.mpr some
  have hlast : (lastId? id items).isNone = false := by
    rw [lastId?, List.getLast?_eq_some_getLast some]
    rfl
  simp [isLast, hitems, hlast]

/-- All pages behind a cursor are read in their order, each with one success, unless a request for
one of them has no address. -/
theorem of_listAfter {left : Nat} {cursor : Option String}
    {result : Except Worker.Failure (List α)} (usable : Usable cache)
    (filled : ∀ items ∈ rest, items ≠ [])
    (further : extra.lookup "after" = none) (room : max 1 rest.length ≤ left)
    (remains : Remains id pages cursor rest) (serves : Serves client item id pages events)
    (h : Yields ((client.listAfter item path extra left cursor).run cache) events (result, after)) :
    (result = .ok rest.flatten ∧
        events.filterMap served? = (cursors id cursor rest).map (client.pageRequest path extra)) ∨
      ∃ c ∈ cursors id cursor rest, ∃ failure, result = .error failure ∧
        Unaddressable client (client.pageRequest path extra c) failure := by
  induction left generalizing rest cursor cache events result with
  | zero => omega
  | succ left ih =>
    rw [listAfter_run] at h
    obtain ⟨early, late, ⟨asked, middle⟩, rfl, hsend, hrest⟩ := Yields.of_bind h
    have hserves : Serves client item id pages early :=
      serves.of_infix (List.prefix_append early late).isInfix
    have hremains : Remains id pages (cursor? (client.pageRequest path extra cursor)) rest := by
      rw [cursor?_pageRequest further]
      exact remains
    obtain ⟨hmiddle, hshown⟩ := of_repeatFrom usable hserves.tokens
      (fun secret answer hmem => hserves.answer _ secret answer rest hmem hremains)
      (fun stretch hstretch => hserves.patience stretch hstretch.isInfix) hsend
    rcases hshown with ⟨failure, rfl, hfailure⟩ | ⟨page, rfl, hnext, honce⟩
    · cases hrest
      exact .inr ⟨cursor, List.mem_cons_self, failure, rfl, hfailure⟩
    rw [List.filterMap_append, honce]
    rw [goOn] at hrest
    -- the page says whether others follow, and the client goes on exactly then
    cases hnext with
    | nothing more last =>
      rw [isLast_nothing] at hrest
      cases hrest
      exact .inl ⟨rfl, rfl⟩
    | page items rest =>
      have hitems : items ≠ [] := filled items List.mem_cons_self
      rw [isLast_page hitems] at hrest
      cases rest with
      | nil =>
        cases hrest
        exact .inl ⟨by simp, rfl⟩
      | cons next rest =>
        have hmore : next :: rest ≠ [] := List.cons_ne_nil next rest
        obtain ⟨front, back, ⟨others, last⟩, rfl, hlist, hends⟩ := Yields.of_bind hrest
        cases hends
        rw [List.append_nil, cursors_cons cursor items hmore]
        have hroom : max 1 (next :: rest).length ≤ left := by
          simp only [List.length_cons] at room ⊢
          omega
        have hfilled : ∀ page ∈ next :: rest, page ≠ [] :=
          fun page hpage => filled page (List.mem_cons_of_mem items hpage)
        -- its last id leaves the pages behind it
        have hothers := ih hmiddle hfilled hroom
          (remains.next hitems hmore) (serves.of_infix ⟨early, [], by simp⟩) hlist
        rcases hothers with ⟨rfl, hserved⟩ | ⟨c, hc, failure, rfl, hfailure⟩
        · rw [hserved]
          exact .inl ⟨rfl, rfl⟩
        · exact .inr ⟨c, List.mem_cons_of_mem cursor hc, failure, rfl, hfailure⟩

/-! ## The whole list

The rule from the beginning: without a cursor all pages remain. -/

/-- **Paging loses and repeats nothing.** A list is cut into pages of which none is empty, and a
service shows the first one when no cursor is named and, when the last id of a page is, the one behind
it. Every request may fail transiently as often as the client tries again. The client then ends with
the whole list in its order, and has fetched every page with success once; an empty list is the one
page without items. It ends in a failure only when the request for one of the pages has no address,
and never with a part of the list. -/
theorem list_complete {history : History Call Answer} {result : Except Worker.Failure (List α)}
    (yields : Yields ((client.list item path extra).run cache) history (result, after))
    (filled : ∀ items ∈ pages, items ≠ []) (room : max 1 pages.length ≤ client.pageBudget)
    (further : extra.lookup "after" = none) (usable : Usable cache)
    (serves : Serves client item id pages history) :
    (result = .ok pages.flatten ∧
        history.filterMap served? = (cursors id none pages).map (client.pageRequest path extra)) ∨
      ∃ cursor ∈ cursors id none pages, ∃ failure, result = .error failure ∧
        Unaddressable client (client.pageRequest path extra cursor) failure :=
  of_listAfter usable filled further room .all serves yields

/-! ## A service that is busy every other time

Two pages, and a failure before each of them. The rule of the service is checked on the history
that comes about. -/

/-- A client that tries every request once more. -/
def secondTryClient : Client :=
  { onceClient with backoff := ⟨1, 10, 10⟩ }

/-- The list of this service in its two pages. -/
def shortPages : List (List Handle) :=
  [[⟨"a"⟩, ⟨"b"⟩], [⟨"c"⟩]]

/-- The first page as it is sent. -/
def firstBody : String :=
  "\x7b\"data\": [\x7b\"id\": \"a\"\x7d, \x7b\"id\": \"b\"\x7d], \"has_more\": true, \"last_id\": \"b\"\x7d"

/-- The second page as it is sent. -/
def secondBody : String :=
  "\x7b\"data\": [\x7b\"id\": \"c\"\x7d], \"has_more\": false, \"last_id\": \"c\"\x7d"

/-- It is busy at every other request, and shows the two pages. -/
def busy (past : History Call Answer) : (call : Call) → Answer call
  | .send request _ =>
    if past.countP isSend % 2 = 0 then .ok ⟨503, .ok ""⟩
    else if cursor? request = none then .ok ⟨200, .ok firstBody⟩
    else .ok ⟨200, .ok secondBody⟩
  | .fetchToken => .ok (.lasting "secret")
  | .clock => default
  | .pause _ => ()
  | .fileContent _ => .ok ByteArray.empty

/-- Reading the list from this service. -/
def busyReading : Procedure Call Answer (Except Worker.Failure (List Handle) × Cache) :=
  (secondTryClient.list Handle.ofJson? "threads" []).run Cache.empty

/-- What happens when the list is read, and what it ends in. -/
def busyCourse : History Call Answer × Except Worker.Failure (List Handle) × Cache :=
  busyReading.replay busy []

/-- All answers in that history are from this service. -/
theorem busy_answers {call : Call} {answer : Answer call} (h : ⟨call, answer⟩ ∈ busyCourse.1) :
    ∃ before, answer = busy before call := by
  rcases Procedure.of_mem_replay h with hnone | hanswer
  · cases hnone
  · exact hanswer

/-- With two pages there is one cut that leaves something. -/
theorem eq_of_remains_shortPages {cursor : String} {rest : List (List Handle)}
    (h : Remains Handle.id shortPages (some cursor) rest) : rest = [[⟨"c"⟩]] := by
  cases h with
  | @behind front _ items _ cut more ends =>
    cases front with
    | nil => exact (List.cons.inj cut).2.symm
    | cons first front =>
      have hshort := congrArg List.length cut
      have hrest := List.length_pos_iff.mpr more
      simp only [shortPages, List.length_append, List.length_cons, List.length_nil] at hshort
      omega

/-- The service shows the page that the cursor leaves. -/
theorem continues_busy {rest : List (List Handle)} {request : Http.Request}
    (h : Remains Handle.id shortPages (cursor? request) rest) :
    Continues Handle.ofJson? Handle.id rest
      (if cursor? request = none then .ok ⟨200, .ok firstBody⟩ else .ok ⟨200, .ok secondBody⟩) := by
  cases hcursor : cursor? request with
  | none =>
    rw [hcursor] at h
    cases h
    have hdecoded : decode (Page.ofJson? Handle.ofJson?) firstBody =
        .ok ⟨[⟨"a"⟩, ⟨"b"⟩], true, some "b"⟩ := by decide +kernel
    exact .reply rfl rfl hdecoded (.page _ _)
  | some cursor =>
    rw [hcursor] at h
    rw [eq_of_remains_shortPages h]
    have hdecoded : decode (Page.ofJson? Handle.ofJson?) secondBody =
        .ok ⟨[⟨"c"⟩], false, some "c"⟩ := by decide +kernel
    exact .reply rfl rfl hdecoded (.page _ _)

theorem serves_busy :
    Serves secondTryClient Handle.ofJson? Handle.id shortPages busyCourse.1 where
  tokens fetched mem := by
    obtain ⟨_, rfl⟩ := busy_answers mem
    exact ⟨.lasting "secret", rfl, by decide⟩
  answer request secret answer rest mem remains := by
    obtain ⟨before, rfl⟩ := busy_answers mem
    by_cases hbusy : before.countP isSend % 2 = 0
    · rw [busy, if_pos hbusy]
      exact .inl (.busy rfl)
    · rw [busy, if_neg hbusy]
      exact .inr (continues_busy remains)
  patience stretch within quiet := by
    have hall : ∀ stretch ∈ busyCourse.1.tails.flatMap List.inits,
        (∀ event ∈ stretch, (served? event).isNone = true) → stretch.countP isSend ≤ 1 := by
      decide +kernel
    obtain ⟨tail, hprefix, hsuffix⟩ := List.infix_iff_prefix_suffix.mp within
    have hmem : stretch ∈ busyCourse.1.tails.flatMap List.inits :=
      List.mem_flatMap.mpr ⟨tail, (List.mem_tails _ _).mpr hsuffix, (List.mem_inits _ _).mpr hprefix⟩
    exact hall stretch hmem fun event hevent => by rw [quiet event hevent]; rfl

/-- Four requests, two of which find the service busy, read the two pages. -/
theorem list_complete_busy :
    Serves secondTryClient Handle.ofJson? Handle.id shortPages busyCourse.1 ∧
      busyCourse.1.countP isSend = 4 ∧
      busyCourse.2 = (.ok [⟨"a"⟩, ⟨"b"⟩, ⟨"c"⟩], some (.lasting "secret")) ∧
      busyCourse.1.filterMap served? =
        [none, some "b"].map (secondTryClient.pageRequest "threads" []) := by
  have hends : busyCourse.2 = (.ok [⟨"a"⟩, ⟨"b"⟩, ⟨"c"⟩], some (.lasting "secret")) := by
    decide +kernel
  have hyields : Yields busyReading busyCourse.1 busyCourse.2 :=
    Procedure.yields_replay busy busyReading
  rw [hends] at hyields
  have hcomplete := list_complete hyields (by decide) (by decide) rfl usable_empty serves_busy
  refine ⟨serves_busy, by decide +kernel, hends, ?_⟩
  rcases hcomplete with ⟨-, hserved⟩ | ⟨_, _, failure, hfailure, _⟩
  · exact hserved
  · cases hfailure

end AzcRepair.Agents.Client
