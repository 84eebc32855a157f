import AzcRepair.Agents.Service
import AzcRepair.Proofs.Http.Extension
import AzcRepair.Proofs.Procedure.Monitor

/-!
# What the client owes

A resource that the service made, and whose id the client took from the answer, is owed until its
deletion was asked for. What is owed is read off the exchanges with the service, whatever the service
answers.

* `created?`, `settle` — what an exchange adds to what is owed, and what a deletion takes away.
* `named?` — what an answer names at all; it differs from `created?` in a vector store without a
  status.
* `debts` — a monitor of what is owed; it gives up when there is no token that can be sent.
* `Does` — a part of the client, the token that it keeps and what it owes before and after.
* `canDelete_or_tooLong` — what was made can be deleted, unless its address is too long.
* `retry_does` — repeating an attempt does what one attempt does.
* `perform_does` — what each request to the worker acquires and releases.
-/

namespace AzcRepair.Agents

namespace Client

/-! ## Exchanges that create and delete

What an exchange means for the books: a successful request to make a resource adds what its answer
hands out, and a request to delete takes away what it is about. Both are read off the request and
the reply, so that the books can be kept by a reader who knows nothing of the client. -/

/-- The id that the client takes from a body that answers a request for a resource of this kind. Of a
vector store it reads the status as well, and takes no id where there is none. -/
def createdId? (kind body : String) : Option String :=
  if kind = "vector_stores" then (decode Index.ofJson? body).toOption.map (·.id)
  else if kinds.contains kind then (decode Handle.ofJson? body).toOption.map (·.id)
  else none

/-- The id that a body names, when it answers a request for a resource of this kind: the id that the
client takes from it, or else the one that stands in it. -/
def namedId? (kind body : String) : Option String :=
  (createdId? kind body).or
    (if kinds.contains kind then (decode Handle.ofJson? body).toOption.map (·.id) else none)

/-- Only a vector store can be named without the client taking its id. -/
theorem createdId?_of_namedId? {kind body id : String} (named : namedId? kind body = some id)
    (complete : kind = "vector_stores" → (decode Index.ofJson? body).isOk = true) :
    createdId? kind body = some id := by
  cases taken : createdId? kind body with
  | some other =>
    rw [namedId?, taken] at named
    exact named
  -- named and not taken: of a vector store this means that it could not be read
  | none =>
    rw [namedId?, taken, Option.none_or] at named
    unfold createdId? at taken
    split at taken
    · next isIndex =>
      cases read : decode Index.ofJson? body with
      | error failure =>
        have readable := complete isIndex
        rw [read] at readable
        cases readable
      | ok index =>
        rw [read] at taken
        cases taken
    · exact (Option.some_ne_none id (named.symm.trans taken)).elim

/-- Resources are made under one of the known kinds. -/
theorem kind_of_createdId? {kind body id : String} (h : createdId? kind body = some id) :
    kind ∈ kinds := by
  unfold createdId? at h
  split at h
  · next isIndex =>
    rw [isIndex]
    decide
  · split at h
    · next isKind => exact List.contains_iff_mem.mp isKind
    · cases h

/-- The path of a resource of a kind. A resource without an id has none. -/
def resource? (kind id : String) : Option String :=
  if id = "" then none else some (kind ++ "/" ++ id)

/-- Every resource but one without an id has the path of its kind and its id. -/
theorem mem_resource? {kind id path : String} :
    path ∈ (resource? kind id).toList ↔ id ≠ "" ∧ path = kind ++ "/" ++ id := by
  unfold resource?
  split
  · next empty => simp [empty]
  · next named => simp [named]

/-- The path of the resource that an answer is about; `idOf?` finds its id in the body. Only the
success of a request to make a resource is about one. -/
def answered? (idOf? : String → String → Option String) (request : Http.Request)
    (reply : Http.Reply) : Option String :=
  if request.method = .post ∧ reply.isSuccess then
    (reply.body.toOption.bind (idOf? request.path)).bind (resource? request.path)
  else none

/-- The path of the resource that the client takes from an answer. -/
def created? : Http.Request → Http.Reply → Option String :=
  answered? createdId?

/-- The path of the resource that an answer names, whether or not the client takes it. -/
def named? : Http.Request → Http.Reply → Option String :=
  answered? namedId?

/-- The answer to a request for a vector store is none that the client reads: a status is missing,
or there is no id either. -/
def lacksStatus (request : Http.Request) (reply : Http.Reply) : Bool :=
  request.path = "vector_stores" &&
    !reply.body.toOption.any fun body => (decode Index.ofJson? body).isOk

/-- The client takes every resource that an answer names, but for a vector store without a status. -/
theorem created?_of_named? {request : Http.Request} {reply : Http.Reply} {path : String}
    (names : named? request reply = some path) (complete : lacksStatus request reply = false) :
    created? request reply = some path := by
  unfold named? answered? at names
  split at names
  · next posted =>
    obtain ⟨id, found, named⟩ := Option.bind_eq_some_iff.mp names
    obtain ⟨body, read, answered⟩ := Option.bind_eq_some_iff.mp found
    have taken : createdId? request.path body = some id := by
      refine createdId?_of_namedId? answered fun isIndex => ?_
      simpa [lacksStatus, isIndex, read] using complete
    rw [created?, answered?, if_pos posted, read, Option.bind_some, taken, Option.bind_some, named]
  · cases names

/-- The request that deletes a resource. -/
def deletion (client : Client) (path : String) : Http.Request :=
  client.request .delete path [] .nothing

/-- The deletion of the resource can be asked for: there is an address for it. -/
def canDelete (client : Client) (path : String) : Bool :=
  (client.address (client.deletion path)).isOk

/-- What is owed after an exchange. A deletion settles what it is about, whatever the answer is. -/
def settle (client : Client) (request : Http.Request) (answer : Except Worker.Network Http.Reply)
    (owed : List String) : List String :=
  if request.method = .delete then owed.filter (· ≠ request.path)
  else (answer.toOption.bind (created? request)).toList.filter client.canDelete ++ owed

/-- What the client takes is of the kind that was posted to. -/
theorem created?_path {request : Http.Request} {reply : Http.Reply} {path : String}
    (made : created? request reply = some path) :
    request.method = .post ∧ request.path ∈ kinds ∧ ∃ id, path = request.path ++ "/" ++ id := by
  unfold created? answered? at made
  split at made
  · next posted =>
    obtain ⟨id, found, named⟩ := Option.bind_eq_some_iff.mp made
    obtain ⟨body, -, answered⟩ := Option.bind_eq_some_iff.mp found
    refine ⟨posted.1, kind_of_createdId? answered, id, ?_⟩
    exact (mem_resource?.mp (Option.mem_toList.mpr named)).2
  · cases made

/-- What was made and can be deleted is owed from then on. -/
theorem mem_settle_of_created {client : Client} {request : Http.Request} {reply : Http.Reply}
    {path : String} (made : created? request reply = some path)
    (deletable : client.canDelete path = true) (owed : List String) :
    path ∈ client.settle request (.ok reply) owed := by
  have posts : request.method ≠ .delete := by
    rw [(created?_path made).1]
    nofun
  rw [settle, if_neg posts, Except.toOption, Option.bind_some, made]
  exact List.mem_append_left _ (by simp [deletable])

/-- What is owed after an event. Without a token that can be sent the promise is given up. -/
def noteDebt (client : Client) :
    Option (List String) → (call : Call) → Answer call → Option (List String)
  | none, _, _ => none
  | some owed, .send request _, answer => some (client.settle request answer owed)
  | some owed, .fetchToken, .ok token => if isHeaderText token.secret then some owed else none
  | some _, .fetchToken, .error _ => none
  | some owed, _, _ => some owed

/-- A request that is sent was put together before. -/
def debts (client : Client) : Monitor Call Answer (Option (List String)) where
  note := client.noteDebt
  permits
    | some _, .send request token => client.prepare request token = .ok ()
    | _, _ => True

variable {client : Client} {α β : Type}

/-- A promise that was given up is not taken up again. -/
theorem ensures_none (p : Procedure Call Answer α) :
    client.debts.Ensures p none fun _ s => s = none := by
  induction p with
  | done value => rfl
  | call c next ih => exact ⟨trivial, fun answer => ih answer⟩

/-! ## What a part of the client does

`Does` is the walk of the monitor through a part of the client, for every token that it may keep.
What a part moves on the books is said by two lists, and moves follow each other as the parts do.
-/

/-- All tokens that are kept can be sent, and the deletion of all that is owed can be asked for. -/
structure Fit (client : Client) (cache : Access.Cache) (owed : List String) : Prop where
  tokens : ∀ token ∈ cache, isHeaderText token.secret = true
  deletable : ∀ path ∈ owed, client.canDelete path = true

/-- Whatever is answered, the part keeps the client fit, and its value and what is owed after it are
as promised. -/
def Does (client : Client) (p : Act α) (before : List String) (post : α → List String → Prop) :
    Prop :=
  ∀ cache, Fit client cache before →
    client.debts.Ensures (p.run cache) (some before) fun result s =>
      ∀ after, s = some after → Fit client result.2 after ∧ post result.1 after

variable {before : List String}

theorem Does.mono {p : Act α} {strong weak : α → List String → Prop}
    (h : Does client p before strong) (imp : ∀ value after, strong value after → weak value after) :
    Does client p before weak :=
  fun cache fit => (h cache fit).mono fun result _ done after same =>
    (done after same).imp_right (imp result.1 after)

theorem does_pure {value : α} {post : α → List String → Prop} (h : post value before) :
    Does client (pure value) before post := by
  rintro cache fit _ ⟨⟩
  exact ⟨fit, h⟩

/-- Parts that follow each other, the second from what the first leaves on the books. -/
theorem Does.bind {p : Act α} {next : α → Act β} {middle : α → List String → Prop}
    {post : β → List String → Prop} (hp : Does client p before middle)
    (hn : ∀ value owed, middle value owed → Does client (next value) owed post) :
    Does client (p >>= next) before post := by
  intro cache fit
  rw [StateT.run_bind]
  refine Monitor.ensures_bind.mpr ((hp cache fit).mono fun ⟨value, cache⟩ s done => ?_)
  cases s with
  | none => exact (ensures_none _).mono fun _ _ none after same => by cases none.symm.trans same
  | some owed =>
    obtain ⟨fit, moved⟩ := done owed rfl
    exact hn value owed moved cache fit

theorem Does.discard {p : Act α} {post : List String → Prop}
    (h : Does client p before fun _ => post) :
    Does client (Functor.discard p) before fun _ => post := by
  have same : Functor.discard p = p >>= fun _ => pure () := map_eq_pure_bind (fun _ => ()) p
  rw [same]
  exact h.bind fun _ _ settled => does_pure settled

/-- What is owed after a part was gained by it, or was owed before and not lost. -/
def Moves (gained lost before after : List String) : Prop :=
  ∀ path ∈ after, path ∈ gained ∨ path ∈ before ∧ path ∉ lost

theorem Moves.refl (owed : List String) : Moves [] [] owed owed :=
  fun _ mem => .inr ⟨mem, List.not_mem_nil⟩

variable {gained lost more fewer middle after : List String}

/-- More may be said to be gained, and less to be lost. -/
theorem Moves.mono (h : Moves gained lost before after) (wider : gained ⊆ more)
    (narrower : fewer ⊆ lost) : Moves more fewer before after :=
  fun path mem => (h path mem).imp (@wider path) fun ⟨owed, kept⟩ =>
    ⟨owed, fun gone => kept (narrower gone)⟩

/-- What the first part gained is settled when the second part loses it. -/
theorem Moves.trans {gained' lost' : List String} (h : Moves gained lost before middle)
    (rest : Moves gained' lost' middle after) :
    Moves (gained' ++ gained.filter (· ∉ lost')) (lost ++ lost') before after := by
  intro path mem
  obtain new | ⟨owed, kept⟩ := rest path mem
  · exact .inl (List.mem_append_left _ new)
  obtain new | ⟨owed, old⟩ := h path owed
  · exact .inl (List.mem_append_right _ (List.mem_filter.mpr ⟨new, decide_eq_true kept⟩))
  · exact .inr ⟨owed, by simp [old, kept]⟩

/-! ## Exchanges

One request with its token. That the books are right depends on two things here: a request is sent
only when it has an address, and every kept token can be sent. So a deletion that is owed is never
held up by either. -/

theorem does_pause (ms : Nat) : Does client (wait ms) before fun _ after => after = before := by
  refine fun cache fit => ⟨trivial, fun _ => ?_⟩
  rintro _ ⟨⟩
  exact ⟨fit, rfl⟩

theorem does_fileContent (path : Path) :
    Does client (ask (.fileContent path)) before fun _ after => after = before := by
  refine fun cache fit => ⟨trivial, fun _ => ?_⟩
  rintro _ ⟨⟩
  exact ⟨fit, rfl⟩

/-- Another token is kept, and it can be sent, unless nothing is promised any more. -/
theorem refresh_does (cache : Access.Cache) (fit : Fit client cache before) :
    client.debts.Ensures (Access.Cache.bearer.refresh (Procedure.ask Call.fetchToken) cache)
      (some before) fun result s => ∀ after, s = some after →
        Fit client result.2 after ∧ after = before ∧
          ∃ secret, result.1 = .ok secret ∧ isHeaderText secret = true := by
  refine Monitor.ensures_ask_bind.mpr ⟨trivial, fun fetched => ?_⟩
  cases fetched with
  | error failure => exact fun _ same => by cases same
  | ok token =>
    intro after same
    change (if isHeaderText token.secret then some before else none) = _ at same
    split at same
    · next text =>
      cases same
      refine ⟨⟨fun kept mem => ?_, fit.deletable⟩, rfl, token.secret, rfl, text⟩
      cases mem
      exact text
    · cases same

/-- The client has a token that can be sent, kept or fetched, unless nothing is promised any more.
-/
theorem bearer_does : Does client client.bearer before fun result after =>
    after = before ∧ ∃ secret, result = .ok secret ∧ isHeaderText secret = true := by
  intro cache fit
  change client.debts.Ensures (Access.Cache.bearer _ _ _ cache) _ _
  unfold Access.Cache.bearer
  cases cache with
  | none => exact refresh_does none fit
  | some token =>
    refine Monitor.ensures_ask_bind.mpr ⟨trivial, fun now => ?_⟩
    change client.debts.Ensures (ite _ _ _) (some before) _
    split
    · exact refresh_does (some token) fit
    · rintro _ ⟨⟩
      exact ⟨fit, rfl, token.secret, rfl, fit.tokens token rfl⟩

/-- A request can be put together when it has an address and its token can be sent. -/
theorem prepare_eq_ok_iff {request : Http.Request} {secret : String} :
    client.prepare request secret = .ok () ↔
      (client.address request).isOk = true ∧ isHeaderText secret = true := by
  unfold prepare
  cases client.address request with
  | error problem => simp [Except.isOk, Except.toBool]
  | ok address => by_cases text : isHeaderText secret <;> simp [text, Except.isOk, Except.toBool]

/-- A request was sent to a kind, so every resource of the kind can be asked for, unless its address
is too long. -/
theorem canDelete_or_tooLong {request : Http.Request} (isKind : request.path ∈ kinds)
    (addressed : (client.address request).isOk = true) (id : String) :
    client.canDelete (request.path ++ "/" ++ id) = true ∨
      ∃ text, client.address (client.deletion (request.path ++ "/" ++ id)) = .error (.unfit text) ∧
        Http.Address.maxLength < text.utf8ByteSize := by
  have solid : ∀ kind ∈ kinds, kind.toList.getLast?.map Http.isOuterBlank = some false := by decide
  obtain ⟨last, ends, solid⟩ := Option.map_eq_some_iff.mp (solid request.path isKind)
  -- the address of the resource is that of its kind, with the id behind it
  have longer : client.endpoint ++ "/" ++ (request.path ++ "/" ++ id) =
      client.endpoint ++ "/" ++ request.path ++ "/" ++ id := by
    simp only [String.append_assoc]
  have ends : (client.endpoint ++ "/" ++ request.path).toList.getLast? = some last := by
    rw [String.toList_append, List.getLast?_append, ends]
    rfl
  simp only [canDelete, Client.address, deletion, Client.request, longer]
  cases read : client.address request with
  | error problem =>
    rw [read] at addressed
    cases addressed
  | ok address =>
    obtain ⟨longer, fits⟩ | ⟨longer, unfit, long⟩ :=
      Http.Address.read_extend read ends solid id [("api-version", client.apiVersion)]
    · rw [fits]
      exact .inl rfl
    · exact .inr ⟨longer.text, unfit, long⟩

/-- All that is owed can be deleted, since nothing else is put on the books. -/
theorem settle_deletable {request : Http.Request} {answer : Except Worker.Network Http.Reply}
    (deletable : ∀ path ∈ before, client.canDelete path = true) :
    ∀ path ∈ client.settle request answer before, client.canDelete path = true := by
  intro path mem
  unfold settle at mem
  split at mem
  · exact deletable path (List.mem_filter.mp mem).1
  · obtain made | owed := List.mem_append.mp mem
    · exact (List.mem_filter.mp made).2
    · exact deletable path owed

/-- What is owed is settled when the request has an address, and left alone when it has none. -/
theorem exchange_does (request : Http.Request) :
    Does client (client.exchange request) before fun result after =>
      if (client.address request).isOk then
        ∃ answer, after = client.settle request answer before ∧ result = answer.mapError .network
      else after = before ∧ ∃ failure, result = .error failure := by
  refine bearer_does.bind ?_
  rintro _ _ ⟨rfl, secret, rfl, text⟩
  -- with the token at hand, only the address decides whether the request is sent
  by_cases addressed : (client.address request).isOk = true
  · have prepared := prepare_eq_ok_iff.mpr ⟨addressed, text⟩
    simp only [prepared, addressed, if_true]
    refine fun cache fit => ⟨prepared, fun answer => ?_⟩
    cases answer <;>
    · rintro _ ⟨⟩
      exact ⟨⟨fit.tokens, settle_deletable fit.deletable⟩, _, rfl, rfl⟩
  · simp only [addressed]
    cases prepared : client.prepare request secret with
    | error failure => exact does_pure ⟨rfl, _, rfl⟩
    | ok => exact absurd (prepare_eq_ok_iff.mp prepared).1 addressed

/-- A request that deletes nothing acquires what its answer hands out. -/
theorem exchange_acquires {request : Http.Request} (keeps : request.method ≠ .delete) :
    Does client (client.exchange request) before fun result after =>
      Moves (result.toOption.bind (created? request)).toList [] before after := by
  refine (exchange_does request).mono fun result after done => ?_
  split at done
  · obtain ⟨answer, rfl, rfl⟩ := done
    have same : (answer.mapError Worker.Failure.network).toOption = answer.toOption := by
      cases answer <;> rfl
    rw [same, settle, if_neg keeps]
    intro path mem
    obtain made | owed := List.mem_append.mp mem
    · exact .inl (List.mem_filter.mp made).1
    · exact .inr ⟨owed, List.not_mem_nil⟩
  · obtain ⟨rfl, failure, rfl⟩ := done
    exact Moves.refl _

/-- A deletion that cannot be asked for is about nothing that is owed. -/
theorem exchange_releases (path : String) :
    Does client (client.exchange (client.deletion path)) before fun _ after =>
      Moves [] [path] before after := by
  intro cache fit
  refine (exchange_does (client.deletion path) cache fit).mono fun result s done after same => ?_
  refine (done after same).imp_right fun settled => ?_
  split at settled
  · obtain ⟨answer, rfl, -⟩ := settled
    have deletes : (client.deletion path).method = .delete := rfl
    rw [settle, if_pos deletes]
    intro other mem
    obtain ⟨owed, differs⟩ := List.mem_filter.mp mem
    refine .inr ⟨owed, fun mem => of_decide_eq_true differs ?_⟩
    exact List.mem_singleton.mp mem
  · next lost =>
    obtain ⟨rfl, -⟩ := settled
    refine fun other owed => .inr ⟨owed, fun mem => lost ?_⟩
    obtain rfl := List.mem_singleton.mp mem
    exact fit.deletable other owed

theorem does_forget : Does client (set Access.Cache.empty : Act Unit) before fun _ after =>
    after = before := by
  rintro cache fit _ ⟨⟩
  exact ⟨⟨nofun, fit.deletable⟩, rfl⟩

theorem accept_does (reply : Http.Reply) :
    Does client (accept reply) before fun result after => after = before ∧
      result = if reply.isSuccess then .ok reply.body else .error reply.failure := by
  unfold accept
  split
  · exact does_pure ⟨rfl, rfl⟩
  · change Does client (ite _ _ _) _ _
    split
    · refine does_forget.bind ?_
      rintro _ _ rfl
      exact does_pure ⟨rfl, rfl⟩
    · exact does_pure ⟨rfl, rfl⟩

/-! ## Requests

A request is repeated, and what was made by a try is in the result of that try. A failed try has
handed nothing out, so nothing is lost by making another one. -/

/-- What a result hands out; a failure hands out nothing. -/
def handed (made : α → List String) : Except Worker.Failure α → List String
  | .ok value => made value
  | .error _ => []

theorem handed_nothing (result : Except Worker.Failure α) : handed (fun _ => []) result = [] := by
  cases result <;> rfl

/-- Whatever answer to the request hands something out is accepted and decoded, and the decoded
value shows what it was. -/
def Shows (ofJson? : Json → Option α) (request : Http.Request) (made : α → List String) : Prop :=
  ∀ reply path, created? request reply = some path → reply.isSuccess = true ∧
    ∃ body, reply.body = .ok body ∧ path ∈ handed made (decode ofJson? body)

theorem attempt_does {ofJson? : Json → Option α} {request : Http.Request} {made : α → List String}
    (keeps : request.method ≠ .delete) (shows : Shows ofJson? request made) :
    Does client (client.attempt ofJson? request) before fun result after =>
      Moves (handed made result) [] before after := by
  refine (exchange_acquires keeps).bind fun answer owed moved => ?_
  cases answer with
  | error failure => exact does_pure moved
  | ok reply =>
    -- the books list what was made; the result has to show it, or there was nothing to show
    have covered (result : Except Worker.Failure α)
        (all : ∀ path, created? request reply = some path → path ∈ handed made result) :
        Moves (handed made result) [] before owed :=
      moved.mono (fun path made => all path (Option.mem_toList.mp made)) (List.Subset.refl _)
    refine (accept_does reply).bind ?_
    rintro _ _ ⟨rfl, rfl⟩
    by_cases success : reply.isSuccess = true
    · rw [if_pos success]
      cases read : reply.body with
      | error failure =>
        refine does_pure (covered (.error _) fun path made => ?_)
        obtain ⟨-, body, same, -⟩ := shows reply path made
        cases read.symm.trans same
      | ok body =>
        refine does_pure (covered (decode ofJson? body) fun path made => ?_)
        obtain ⟨-, _, same, shown⟩ := shows reply path made
        cases read.symm.trans same
        exact shown
    · rw [if_neg success]
      exact does_pure (covered (.error _) fun path made => absurd (shows reply path made).1 success)

/-- A try at a deletion releases the resource, however it is answered. -/
theorem attemptDelete_does (path : String) :
    Does client (client.attemptDelete (client.deletion path)) before fun _ after =>
      Moves [] [path] before after := by
  refine (exchange_releases path).bind fun answer owed moved => ?_
  cases answer with
  | error failure => exact does_pure moved
  | ok reply =>
    change Does client (ite _ _ _) _ _
    split
    · exact does_pure moved
    · refine (accept_does reply).bind ?_
      rintro (failure | body) _ ⟨rfl, -⟩ <;> exact does_pure moved

/-- Repeating an attempt does what one attempt does: a failed one acquires nothing. -/
theorem retry_does {attempt : Act (Except Worker.Failure α)} {made : α → List String}
    (once : ∀ before, Does client attempt before fun result after =>
      Moves (handed made result) lost before after) (left : Nat) (count : UInt32) :
    Does client (client.backoff.repeatFrom wait attempt left count) before fun result after =>
      Moves (handed made result) lost before after := by
  -- the induction is on the tries that are left
  induction left generalizing before count with
  | zero => exact once before
  | succ left ih =>
    unfold Backoff.repeatFrom
    refine (once before).bind fun result owed moved => ?_
    cases result with
    | ok value => exact does_pure moved
    | error failure =>
      change Does client (ite _ _ _) _ _
      split
      · refine (does_pause _).bind ?_
        rintro _ _ rfl
        refine (ih (count + 1)).mono fun result after more => ?_
        exact (moved.trans more).mono (by simp [handed]) (by simp)
      · exact does_pure moved

theorem send_does {ofJson? : Json → Option α} {request : Http.Request} {made : α → List String}
    (keeps : request.method ≠ .delete) (shows : Shows ofJson? request made) :
    Does client (client.send ofJson? request) before fun result after =>
      Moves (handed made result) [] before after :=
  retry_does (fun _ => attempt_does keeps shows) _ _

/-- A request that makes nothing moves nothing. -/
theorem send_keeps {ofJson? : Json → Option α} {request : Http.Request}
    (keeps : request.method ≠ .delete) (none : ∀ reply, created? request reply = none) :
    Does client (client.send ofJson? request) before fun _ after => Moves [] [] before after := by
  have shows : Shows ofJson? request fun _ => [] := fun reply path made => by
    cases (none reply).symm.trans made
  refine (send_does keeps shows).mono fun result after moved => ?_
  rwa [handed_nothing] at moved

theorem get_does (ofJson? : Json → Option α) (path : String) :
    Does client (client.get ofJson? path) before fun _ after => Moves [] [] before after :=
  send_keeps nofun fun _ => rfl

/-- A path of several parts is that of no kind. -/
theorem createdId?_eq_none {path : String} (below : '/' ∈ path.toList) (body : String) :
    createdId? path body = none := by
  have flat : ∀ kind ∈ kinds, '/' ∉ kind.toList := by decide
  exact Option.eq_none_iff_forall_ne_some.mpr fun id named =>
    flat path (kind_of_createdId? named) below

/-- Posting below a resource makes none of the resources that count here. -/
theorem post_keeps (ofJson? : Json → Option α) {path : String} (below : '/' ∈ path.toList)
    (body : Json) :
    Does client (client.post ofJson? path body) before fun _ after => Moves [] [] before after := by
  refine send_keeps nofun fun reply => ?_
  have nothing : createdId? path = fun _ => none := funext (createdId?_eq_none below)
  simp [created?, answered?, request, nothing]

/-- Posting to a kind makes a resource of this kind. -/
theorem send_acquires {ofJson? : Json → Option α} {kind : String} {id : α → String}
    (names : ∀ body, createdId? kind body = (decode ofJson? body).toOption.map id)
    (content : Http.Content) :
    Does client (client.send ofJson? (client.request .post kind [] content)) before
      fun result after =>
        Moves (handed (fun value => (resource? kind (id value)).toList) result) [] before after := by
  refine send_does nofun fun reply path made => ?_
  unfold created? answered? at made
  split at made
  · next posted =>
    obtain ⟨name, found, path⟩ := Option.bind_eq_some_iff.mp made
    obtain ⟨body, read, named⟩ := Option.bind_eq_some_iff.mp found
    rw [request, names] at named
    cases decoded : decode ofJson? body with
    | error failure =>
      rw [decoded] at named
      cases named
    | ok value =>
      rw [decoded] at named
      cases named
      have same : reply.body = .ok body := by
        cases answered : reply.body <;> rw [answered] at read <;> cases read
        rfl
      refine ⟨posted.2, body, same, ?_⟩
      rw [decoded]
      exact Option.mem_toList.mpr path
  · cases made

/-- A deletion releases the resource, even when all its tries fail: it was asked for. -/
theorem delete_does (path : String) :
    Does client (client.delete path) before fun _ after => Moves [] [path] before after := by
  have once (before : List String) :
      Does client (client.attemptDelete (client.deletion path)) before fun result after =>
        Moves (handed (fun _ => []) result) [path] before after := by
    refine (attemptDelete_does path).mono fun result after moved => ?_
    rwa [handed_nothing]
  refine (retry_does once _ 0).mono fun result after moved => ?_
  rwa [handed_nothing] at moved

/-! ## Lists

What is read page by page, and what is deleted one by one. The inductions are those of the
recursions that they are about. -/

theorem listAfter_does (item : Json → Option α) (path : String) (extra : List (String × String))
    (left : Nat) (cursor : Option String) :
    Does client (client.listAfter item path extra left cursor) before fun _ after =>
      Moves [] [] before after := by
  induction left generalizing before cursor with
  | zero => exact does_pure (Moves.refl _)
  | succ left ih =>
    unfold listAfter
    refine Does.bind (send_keeps nofun fun _ => rfl) fun result owed moved => ?_
    cases result with
    | error failure => exact does_pure moved
    | ok page =>
      change Does client (ite _ _ _) _ _
      split
      · exact does_pure moved
      · refine (ih page.lastId).bind fun result owed more => ?_
        cases result <;> exact does_pure (moved.trans more)

/-- Deletions in a row release all that they are about. -/
theorem deleteAll_does (paths : List String) :
    Does client (client.deleteAll paths) before fun _ after => Moves [] paths before after := by
  induction paths generalizing before with
  | nil => exact does_pure (Moves.refl _)
  | cons path rest ih =>
    refine (delete_does path).bind fun first owed moved => ?_
    refine ih.bind fun others owed more => ?_
    cases first <;> exact does_pure (moved.trans more)

/-- A purge of one kind acquires nothing. What it releases was made by others, and does not matter
here. -/
theorem purgeIds_does (kind : String) (handles : List Handle) :
    Does client (client.purgeIds kind handles) before fun _ after => Moves [] [] before after := by
  induction handles generalizing before with
  | nil => exact does_pure (Moves.refl _)
  | cons handle rest ih =>
    refine (delete_does _).bind fun first owed moved => ?_
    refine ih.bind fun count owed more => ?_
    have same := (moved.trans more).mono (List.Subset.refl _) (List.nil_subset _)
    cases first <;> exact does_pure same

theorem purgeKinds_does (kinds : List String) :
    Does client (client.purgeKinds kinds) before fun _ after => Moves [] [] before after := by
  induction kinds generalizing before with
  | nil => exact does_pure (Moves.refl _)
  | cons kind rest ih =>
    refine (listAfter_does _ kind [] _ none).bind fun listed owed moved => ?_
    cases listed with
    | error failure => exact does_pure moved
    | ok handles =>
      refine (purgeIds_does kind handles).bind fun count owed more => ?_
      refine ih.bind fun others owed last => ?_
      cases others <;> exact does_pure ((moved.trans more).trans last)

/-! ## Requests to the worker

Each request to the worker is made of the parts above, and its moves are the sum of theirs. Two of
them clean up after themselves: the check of the connection deletes its thread, and a session
without a thread deletes its agent. -/

/-- What a request to the worker acquires. -/
def acquired : (call : Worker.Call) → call.Answer → List String
  | .createSession _, .ok session => heldPaths { session with index := none }
  | .uploadArtifact _, .ok file => [filePath file]
  | .createIndex .., .ok index => [indexPath index]
  | _, _ => []

/-- What a request to the worker releases. -/
def released : Worker.Call → List String
  | .teardownSession session => heldPaths session
  | _ => []

theorem checkConnection_does :
    Does client client.checkConnection before fun _ after => Moves [] [] before after := by
  refine (send_acquires (fun _ => rfl) _).bind fun result owed made => ?_
  cases result with
  | error failure => exact does_pure made
  | ok thread =>
    refine (delete_does (threadPath thread.id)).discard.bind fun _ owed gone => ?_
    have settled (path : String) (mem : path ∈ (resource? "threads" thread.id).toList) :
        path = threadPath thread.id :=
      (mem_resource?.mp mem).2
    refine does_pure ((made.trans gone).mono ?_ (by simp))
    simpa [handed] using settled

/-- A session hands out its agent and its thread, or nothing. -/
theorem createSession_does (instructions : String) :
    Does client (client.createSession instructions) before fun result after =>
      Moves (acquired (.createSession instructions) result) [] before after := by
  refine (send_acquires (fun _ => rfl) _).bind fun result owed made => ?_
  cases result with
  -- an agent without a thread is deleted again, so nothing is gained
  | error failure => exact does_pure made
  | ok agent =>
    refine Does.bind (send_acquires (fun _ => rfl) _) fun result owed also => ?_
    have both := made.trans also
    cases result with
    | error failure =>
      refine (delete_does (agentPath agent.id)).discard.bind fun _ owed gone => ?_
      have settled (path : String) (mem : path ∈ (resource? "assistants" agent.id).toList) :
          path = agentPath agent.id :=
        (mem_resource?.mp mem).2
      refine does_pure ((both.trans gone).mono ?_ (by simp))
      simpa [acquired, handed] using settled
    | ok thread =>
      refine does_pure (both.mono (fun path mem => ?_) (by simp))
      obtain made | made := List.mem_append.mp mem
      · obtain ⟨named, rfl⟩ := mem_resource?.mp made
        simp [acquired, heldPaths, named, threadPath]
      · obtain ⟨named, rfl⟩ := mem_resource?.mp (List.mem_filter.mp made).1
        simp [acquired, heldPaths, named, agentPath]

theorem uploadArtifact_does (artifact : Worker.Artifact) :
    Does client (client.uploadArtifact artifact) before fun result after =>
      Moves (acquired (.uploadArtifact artifact) result) [] before after := by
  refine (does_fileContent artifact.path).bind ?_
  rintro (error | content) _ rfl
  · exact does_pure (Moves.refl _)
  · refine Does.bind (send_acquires (fun _ => rfl) _) fun result owed made => ?_
    cases result with
    | error failure => exact does_pure made
    | ok file =>
      exact does_pure (made.mono (fun path mem => List.mem_singleton.mpr (mem_resource?.mp mem).2)
        (List.nil_subset _))

/-- A vector store is handed out when it could be read. -/
theorem createIndex_does (name : String) (files : List String) :
    Does client (client.createIndex name files) before fun result after =>
      Moves (acquired (.createIndex name files) result) [] before after := by
  refine Does.bind (send_acquires (fun _ => rfl) _) fun result owed made => ?_
  cases result with
  | error failure => exact does_pure made
  | ok index =>
    exact does_pure (made.mono (fun path mem => List.mem_singleton.mpr (mem_resource?.mp mem).2)
      (List.nil_subset _))

/-- What a request to the worker acquires and releases, whatever the service answers. -/
theorem perform_does (call : Worker.Call) :
    Does client (client.perform call) before fun result after =>
      Moves (acquired call result) (released call) before after := by
  cases call with
  | checkConnection => exact checkConnection_does
  | createSession instructions => exact createSession_does instructions
  | uploadArtifact artifact => exact uploadArtifact_does artifact
  | createIndex name files => exact createIndex_does name files
  | indexStatus index =>
    exact (get_does _ _).bind fun _ _ moved => does_pure moved
  | attachIndex session index =>
    exact (post_keeps _ (by simp [threadPath]) _).bind fun _ _ moved => does_pure moved
  | sendMessage session text =>
    exact (post_keeps _ (by simp [threadPath]) _).bind fun _ _ moved => does_pure moved
  | startJob session =>
    exact (post_keeps _ (by simp [threadPath]) _).bind fun _ _ moved => does_pure moved
  | pollJob session job =>
    exact (get_does _ _).bind fun _ _ moved => does_pure moved
  | readTranscript session =>
    exact (listAfter_does _ _ _ _ _).bind fun _ _ moved => does_pure moved
  | teardownSession session => exact deleteAll_does (heldPaths session)
  | purgeAll => exact purgeKinds_does kinds

end Client

end AzcRepair.Agents
