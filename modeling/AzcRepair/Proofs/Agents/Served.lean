import AzcRepair.Proofs.Agents.Debts
import AzcRepair.Proofs.Procedure.Layers
import AzcRepair.Proofs.Run.Holdings
import AzcRepair.Proofs.Run.Outcomes
import AzcRepair.Run.Served

/-!
# Runs with the agents service

A whole run in which the client carries out what is asked of the worker. Every agent, thread, vector
store and file whose id the client takes from an answer of the service is deleted again before the
run ends. That is every one that an answer names, but for a vector store without a status.

* `ledger` — a monitor of what is owed to the service in the course of a run.
* `served_settled` — at the end nothing is owed, by the walk through the run and through the client.
* `resource_deleted` — for every resource that an answer names a deletion is asked for later.
* `store_left_behind` — the exception: a vector store that is named in an answer without a status.
-/

namespace AzcRepair

open Agents (Client)
open Procedure (History Yields)
open Worker (Session)

namespace Run

/-! ## What is owed during a run

Two walks are put on top of each other. The walk through a run says which session it holds at
every moment, and the walk through the client says what it owes. What links them is that all that
is owed is held, and a run gives back all that it holds before it ends. -/

/-- The monitor of what is owed; the run's own calls do not matter to it. -/
def ledger (client : Client) : Monitor Served.Call Served.Answer (Option (List String)) where
  note
    | owed, .service call, answer => client.noteDebt owed call answer
    | owed, .own _, _ => owed
  permits
    | owed, .service call => client.debts.permits owed call
    | _, .own _ => True

variable {client : Client} {run : Run}

/-- All that the client owes is held by the run. -/
def Owes (client : Client) (held : Session) (s : Option (List String)) (cache : Access.Cache) :
    Prop :=
  ∀ owed, s = some owed → client.Fit cache owed ∧ ∀ path ∈ owed, path ∈ Client.heldPaths held

/-- The paths of a session: its thread, its agent, its vector store and its files, as far as it
has them. -/
theorem mem_heldPaths {session : Session} {path : String} :
    path ∈ Client.heldPaths session ↔
      (session.id ≠ "" ∧ path = Client.threadPath session.id) ∨
      (session.agent ≠ "" ∧ path = Client.agentPath session.agent) ∨
      (∃ index, session.index = some index ∧ path = Client.indexPath index) ∨
      ∃ file ∈ session.files, path = Client.filePath file := by
  obtain ⟨id, agent, index, files⟩ := session
  by_cases id = "" <;> by_cases agent = "" <;> cases index <;>
    simp_all [Client.heldPaths, eq_comm]

/-- A session that covers what is held lists its paths. -/
theorem Covers.heldPaths {session held : Session} (covers : Covers session held) :
    Client.heldPaths held ⊆ Client.heldPaths session := by
  intro path mem
  rw [mem_heldPaths] at mem ⊢
  obtain none | same := covers.index
  · rw [none] at mem
    simpa [covers.id, covers.agent, covers.files] using mem.imp_right (Or.imp_right Or.inr)
  · rwa [covers.id, covers.agent, covers.files, ← same]

/-- What is owed after a request to the worker is held after it. -/
theorem heldPaths_hold {held : Session} {call : Worker.Call} {result : call.Answer}
    {owed after : List String} (keeps : Keeps held (.worker call))
    (within : ∀ path ∈ owed, path ∈ Client.heldPaths held)
    (moved : Client.Moves (Client.acquired call result) (Client.released call) owed after) :
    ∀ path ∈ after, path ∈ Client.heldPaths (hold held (.worker call) result) := by
  intro path mem
  have kept := (moved path mem).imp_right (And.imp_left (within path))
  -- three calls add to what is held, the teardown empties it, and the others leave it alone
  cases call with
  | createSession instructions =>
    obtain rfl : held = .empty := keeps
    cases result <;>
    · exact kept.resolve_right fun old => List.not_mem_nil old.1
  | uploadArtifact artifact =>
    cases result with
    | error failure => exact (kept.resolve_left List.not_mem_nil).1
    | ok file =>
      have more : Client.heldPaths (hold held (.worker (.uploadArtifact artifact)) (.ok file)) =
          Client.heldPaths held ++ [Client.filePath file] := by
        simp only [hold, Client.heldPaths, List.map_append, List.append_assoc]
        rfl
      rw [more, List.mem_append]
      exact kept.symm.imp_left And.left
  | createIndex name files =>
    cases result with
    | error failure => exact (kept.resolve_left List.not_mem_nil).1
    | ok index =>
      have none : held.index = none := keeps
      rw [mem_heldPaths] at kept ⊢
      simp only [hold, none] at kept ⊢
      obtain new | ⟨old, -⟩ := kept
      · exact .inr (.inr (.inl ⟨index, rfl, List.mem_singleton.mp new⟩))
      · obtain old | old | ⟨_, same, -⟩ | old := old
        · exact .inl old
        · exact .inr (.inl old)
        · cases same
        · exact .inr (.inr (.inr old))
  | teardownSession session =>
    have covers : Covers session held := keeps
    obtain ⟨old, gone⟩ := kept.resolve_left List.not_mem_nil
    exact absurd (covers.heldPaths old) gone
  | checkConnection | indexStatus | attachIndex | sendMessage | startJob | pollJob | readTranscript
  | purgeAll =>
    cases result <;> exact (kept.resolve_left List.not_mem_nil).1

/-- Serving a call of the run keeps what is owed within what is held. -/
theorem serve_owes {held : Session} {s : Option (List String)} {cache : Access.Cache} {call : Call}
    (owes : Owes client held s cache) (keeps : Keeps held call) :
    (ledger client).Ensures (serve client call cache) s fun reply s =>
      Owes client (hold held call reply.1) s reply.2 := by
  cases call with
  | worker call =>
    have same : (ledger client).rename .service (fun _ answer => answer) = client.debts := rfl
    refine Monitor.ensures_embed (fun _ _ => rfl) (same ▸ ?_)
    -- without a token that can be sent nothing is promised any more
    cases s with
    | none =>
      refine (Client.ensures_none _).mono ?_
      rintro _ _ rfl
      exact nofun
    | some owed =>
      obtain ⟨fit, within⟩ := owes owed rfl
      refine (Client.perform_does call cache fit).mono fun reply s done after known => ?_
      exact (done after known).imp_right (heldPaths_hold keeps within)
  | compile | prepareArtifacts | build | disk | clock | freshSuffix | pause | cancelled =>
    exact ⟨trivial, fun answer => owes⟩

/-- Nothing is owed at the end of a run. -/
theorem served_settled (client : Client) (run : Run) :
    (ledger client).Ensures (run.served client) (some []) fun _ s =>
      ∀ owed, s = some owed → owed = [] := by
  have start : Owes client .empty (some []) Access.Cache.empty := by
    rintro _ ⟨⟩
    exact ⟨⟨nofun, nofun⟩, nofun⟩
  have walk := (start_released run).interpret (Owes client) (fun _ _ _ _ => serve_owes) start
  refine Monitor.ensures_map.mpr (walk.mono ?_)
  rintro ⟨outcome, cache⟩ s ⟨held, rfl, owes⟩ owed same
  exact List.eq_nil_iff_forall_not_mem.mpr fun path mem =>
    List.not_mem_nil ((owes owed same).2 path mem)

/-! ## Every resource is deleted

The end of a run with nothing owed, read back into its history. A resource is owed from the answer
that names it. It is not owed at the end, so something took it off the books in between, and only
its deletion does that. -/

namespace Served

abbrev Event := Procedure.Event Call Answer

/-- The path of the resource that the client takes from an event: a success of a request to make one,
with an answer that the client reads. -/
def created? : Event → Option String
  | ⟨.service (.send request _), .ok reply⟩ => Client.created? request reply
  | _ => none

/-- The path of the resource that an event names: a success of a request to make one, with an id in
the answer. -/
def named? : Event → Option String
  | ⟨.service (.send request _), .ok reply⟩ => Client.named? request reply
  | _ => none

/-- A vector store is asked for, and the answer has no status that the client could read. -/
def lacksStatus : Event → Bool
  | ⟨.service (.send request _), .ok reply⟩ => Client.lacksStatus request reply
  | _ => false

/-- Whatever an event names the client takes from it, unless a status is missing. -/
theorem created?_of_named? {event : Event} {path : String} (names : named? event = some path)
    (complete : lacksStatus event = false) : created? event = some path := by
  unfold named? at names
  split at names
  · exact Client.created?_of_named? names complete
  · cases names

/-- The deletion of the resource is asked for. -/
def deletes (path : String) : Event → Bool
  | ⟨.service (.send request _), _⟩ => request.method = .delete && request.path = path
  | _ => false

/-- When a token is asked for there is one, and it can be sent. -/
def hasToken : Event → Bool
  | ⟨.service .fetchToken, .ok token⟩ => Client.isHeaderText token.secret
  | ⟨.service .fetchToken, .error _⟩ => false
  | _ => true

end Served

/-- An event with a token leaves what is owed known. What was owed before is owed after it, unless
the event is its deletion. -/
theorem note_keeps {event : Served.Event} (hasToken : Served.hasToken event = true)
    (owed : List String) :
    ∃ after, (ledger client).note (some owed) event.1 event.2 = some after ∧
      ∀ path ∈ owed, path ∈ after ∨ Served.deletes path event = true := by
  obtain ⟨call, answer⟩ := event
  cases call with
  | own call => exact ⟨owed, rfl, fun path mem => .inl mem⟩
  | service call =>
    cases call with
    | fetchToken =>
      cases answer with
      | error failure => cases hasToken
      | ok token => exact ⟨owed, if_pos hasToken, fun path mem => .inl mem⟩
    | clock | pause ms | fileContent path => exact ⟨owed, rfl, fun path mem => .inl mem⟩
    | send request token =>
      refine ⟨client.settle request answer owed, rfl, fun path mem => ?_⟩
      unfold Client.settle
      split
      · next deletes =>
        by_cases same : request.path = path
        · exact .inr (by simp [Served.deletes, deletes, same])
        · exact .inl (List.mem_filter.mpr ⟨mem, decide_eq_true (Ne.symm same)⟩)
      · exact .inl (List.mem_append_right _ mem)

/-- Over a history with tokens, what was owed is still owed or its deletion was asked for. -/
theorem after_keeps {history : History Served.Call Served.Answer}
    (tokens : ∀ event ∈ history, Served.hasToken event = true) (owed : List String) :
    ∃ after, (ledger client).after (some owed) history = some after ∧
      ∀ path ∈ owed, path ∈ after ∨ ∃ event ∈ history, Served.deletes path event = true := by
  -- the induction is on the history; a path is followed until its deletion takes it off the
  -- books
  induction history generalizing owed with
  | nil => exact ⟨owed, rfl, fun path mem => .inl mem⟩
  | cons event history ih =>
    obtain ⟨hasToken, tokens⟩ := List.forall_mem_cons.mp tokens
    obtain ⟨middle, noted, kept⟩ := note_keeps hasToken owed
    obtain ⟨after, known, further⟩ := ih tokens middle
    refine ⟨after, ?_, fun path mem => ?_⟩
    · rw [Monitor.after_cons, noted, known]
    · obtain owed | deletes := kept path mem
      · refine (further path owed).imp_right ?_
        rintro ⟨later, mem, deletes⟩
        exact ⟨later, List.mem_cons_of_mem _ mem, deletes⟩
      · exact .inr ⟨event, List.mem_cons_self, deletes⟩

/-- A request that was answered with a resource was put together, and its resource is owed, unless
no request can hold the address of its deletion. -/
theorem owed_of_created {event : Served.Event} {path : String} {owed : List String}
    (made : Served.created? event = some path)
    (permitted : (ledger client).permits (some owed) event.1) :
    (∃ after, (ledger client).note (some owed) event.1 event.2 = some after ∧ path ∈ after) ∨
      ∃ address, client.address (client.deletion path) = .error (.unfit address) ∧
        Http.Address.maxLength < address.utf8ByteSize := by
  unfold Served.created? at made
  split at made
  · next request token reply =>
    have prepared : client.prepare request token = .ok () := permitted
    have addressed := (Client.prepare_eq_ok_iff.mp prepared).1
    obtain ⟨-, isKind, id, rfl⟩ := Client.created?_path made
    exact (Client.canDelete_or_tooLong isKind addressed id).imp_left fun deletable =>
      ⟨_, rfl, Client.mem_settle_of_created made deletable owed⟩
  · cases made

/-- **Nothing is left behind.** Whatever the service answers, whatever else fails and however the
run ends: as long as there are tokens, every agent, thread, vector store and file that an answer
names is deleted later in the run, on its own path and whether or not the deletion succeeds. This
takes a status in the answer when the resource is a vector store: without one the client refuses the
answer and forgets the id in it, as in `store_left_behind`. And where an id is so long that no request
can hold the address of the resource, asking for the deletion fails before anything is sent. -/
theorem resource_deleted {history before rest : History Served.Call Served.Answer}
    {outcome : Except Failure Outcome} (yields : Yields (run.served client) history outcome)
    (tokens : ∀ event ∈ history, Served.hasToken event = true) {event : Served.Event}
    (place : history = before ++ event :: rest) {path : String}
    (names : Served.named? event = some path) (complete : Served.lacksStatus event = false) :
    (∃ later ∈ rest, Served.deletes path later = true) ∨
      ∃ address, client.address (client.deletion path) = .error (.unfit address) ∧
        Http.Address.maxLength < address.utf8ByteSize := by
  subst place
  obtain ⟨accepted, settled⟩ := (served_settled client run).sound yields
  obtain ⟨early, _, late⟩ : _ ∧ _ ∧ _ :=
    (List.forall_mem_append.mp tokens).imp_right List.forall_mem_cons.mp
  obtain ⟨owed, known, -⟩ : ∃ owed, (ledger client).after (some []) before = some owed ∧ _ :=
    after_keeps early []
  have permitted := accepted.permits
  rw [known] at permitted
  have made := Served.created?_of_named? names complete
  refine (owed_of_created made permitted).imp_left ?_
  rintro ⟨middle, noted, owed⟩
  -- the resource is owed from here on, and at the end nothing is
  obtain ⟨after, last, kept⟩ : ∃ after, (ledger client).after (some middle) rest = some after ∧ _ :=
    after_keeps late middle
  have nothing : after = [] := by
    refine settled after ?_
    rw [Monitor.after_append, known, Monitor.after_cons, noted, last]
  subst nothing
  exact (kept path owed).resolve_left List.not_mem_nil

/-! ## A service that fails

Two services that do not do as they should. The first fails in the midst of a setup, and what it
made is deleted all the same. The second leaves the status out of its answers, and a vector store
is left behind. -/

/-- A client that tries nothing again. -/
def plainClient : Client where
  endpoint := "http://a"
  apiVersion := "1"
  source := .key "key"
  refreshMargin := 0
  model := "model"
  agentName := "agent"
  backoff := ⟨0, 0, 0⟩

/-- A service that makes one thread and any number of agents, and fails otherwise. -/
def overloaded (past : History Served.Call Served.Answer) :
    (call : Served.Call) → Served.Answer call
  | .own call => unmoved call
  | .service .fetchToken => .ok (.lasting "key")
  | .service .clock => default
  | .service (.pause _) => ()
  | .service (.fileContent _) => .ok ByteArray.empty
  | .service (.send request _) =>
    if request.method = .post ∧ request.path = "assistants" then
      .ok ⟨200, .ok "\x7b\"id\":\"agent\"\x7d"⟩
    else if request.method = .post ∧ past.filterMap Served.created? = [] then
      .ok ⟨200, .ok "\x7b\"id\":\"probe\"\x7d"⟩
    else .ok ⟨503, .ok "busy"⟩

/-- In that run no session comes about. The agent of the first attempt gets no thread and is deleted,
as far as the service lets it be. -/
theorem resource_deleted_overloaded :
    let history := ((plainRun.served plainClient).replay overloaded []).1
    history[23]?.bind Served.named? = some "assistants/agent" ∧
      history[23]?.map Served.lacksStatus = some false ∧
      ∃ later ∈ history.drop 24, Served.deletes "assistants/agent" later = true := by
  intro history
  have made : history[23]?.bind Served.named? = some "assistants/agent" := by decide +kernel
  have whole : history[23]?.map Served.lacksStatus = some false := by decide +kernel
  refine ⟨made, whole, ?_⟩
  obtain ⟨event, found, names⟩ := Option.bind_eq_some_iff.mp made
  have complete : Served.lacksStatus event = false := by
    rw [found] at whole
    exact Option.some.inj whole
  obtain ⟨short, same⟩ := List.getElem?_eq_some_iff.mp found
  have place : history = history.take 23 ++ event :: history.drop 24 := by
    rw [← same, ← List.drop_eq_getElem_cons short, List.take_append_drop]
  have tokens : ∀ event ∈ history, Served.hasToken event = true := by decide +kernel
  have yields := Procedure.yields_replay overloaded (plainRun.served plainClient)
  refine (resource_deleted yields tokens place names complete).resolve_right ?_
  rintro ⟨address, unfit, -⟩
  have deletable : plainClient.canDelete "assistants/agent" = true := by decide +kernel
  rw [Client.canDelete, unfit] at deletable
  cases deletable

/-- A service that answers every request with an id and nothing else. -/
def terse : (call : Served.Call) → Served.Answer call
  | .own call => unmoved call
  | .service .fetchToken => .ok (.lasting "key")
  | .service .clock => default
  | .service (.pause _) => ()
  | .service (.fileContent _) => .ok ByteArray.empty
  | .service (.send ..) => .ok ⟨200, .ok "\x7b\"id\":\"1\"\x7d"⟩

/-- In that run a vector store is named, and its deletion, which has an address, is never asked for:
neither by the setup that made it, nor by the next one, nor at the end. -/
theorem store_left_behind :
    let history := ((plainRun.served plainClient).replay (fun _ => terse) []).1
    (∃ outcome, Yields (plainRun.served plainClient) history outcome) ∧
      (∀ event ∈ history, Served.hasToken event = true) ∧
      (∃ event ∈ history, Served.named? event = some "vector_stores/1") ∧
      plainClient.canDelete "vector_stores/1" = true ∧
      ∀ event ∈ history, Served.deletes "vector_stores/1" event = false := by
  intro history
  have yields := Procedure.yields_replay (fun _ => terse) (plainRun.served plainClient)
  exact ⟨⟨_, yields⟩, by decide +kernel⟩

end Run

end AzcRepair
