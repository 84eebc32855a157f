import AzcRepair.Proofs.Agents.Cursors
import AzcRepair.Proofs.Agents.Deletions

/-!
# Removing what earlier runs left

The kinds of resources are listed one after the other, and what a list shows is deleted before the
next list is asked for. A deletion that fails stops nothing; a list that cannot be read stops
everything.

* `Lists` — the list of a kind, however it was answered; `Reads.items_eq` says that it is what the
  pages show that were read.
* `Round` — a list and the deletions that follow it; `Round.IsMade` says which these are.
* `Rounds` — the rounds of a purge; `rounds_of_purgeKinds` by induction on the kinds.
* `purge_exact` — what a purge does and what it counts.
* `purge_stops_at_unreadable_list` — what a list that cannot be read keeps from being deleted.
-/

namespace AzcRepair.Agents.Client

open Access (Cache)
open Procedure (Event History Yields)

/-! ## Rounds

A round is a kind with its list and the deletions that follow. It says what was read and what was
done in data, so the statement about a purge can say which ids were deleted without a word about
the client. -/

/-- The list of a kind is asked for, which comes to this. -/
def Lists (client : Client) (kind : String) (history : History Call Answer)
    (listed : Except Worker.Failure (List Handle)) : Prop :=
  ∃ before after, Yields ((client.list Handle.ofJson? kind []).run before) history (listed, after)

/-- A kind is listed, and resources are deleted. -/
structure Round where
  kind : String
  listing : History Call Answer
  listed : Except Worker.Failure (List Handle)
  deletions : List Deletion

/-- What happens in a round. -/
def Round.events (client : Client) (round : Round) : History Call Answer :=
  round.listing ++ round.deletions.flatMap (·.events client)

/-- The list of the kind was read to its end. -/
def Round.IsListed (round : Round) : Prop :=
  ∃ handles, round.listed = .ok handles

/-- The ids on the pages that were read. -/
def Round.shown (round : Round) : List String :=
  (readings Handle.ofJson? round.listing).flatMap (·.2.items.map (·.id))

/-- One deletion is made for every id on the pages that were read, in their order, if the list was
read to its end, and none otherwise. -/
structure Round.IsMade (client : Client) (round : Round) : Prop where
  lists : Lists client round.kind round.listing round.listed
  whole : round.IsListed → round.deletions.map (·.path) = round.shown.map (round.kind ++ "/" ++ ·)
  broken : ∀ failure, round.listed = .error failure → round.deletions = []
  made : ∀ deletion ∈ round.deletions, deletion.IsMade client client.backoff.maxRetries.toNat

/-- How many deletions succeeded. -/
def removed (results : List (Except Worker.Failure Unit)) : Nat :=
  results.countP (·.isOk)

variable {client : Client} {kind : String} {cache after : Cache} {history : History Call Answer}

/-! ## Lists

A list that ended well holds the items of its pages, in order. This is the link between what was
shown and what is deleted. -/

/-- A list that is had holds what the pages show that were read. -/
theorem Reads.items_eq {α : Type} {item : Json → Option α} {path : String}
    {extra : List (String × String)} {left : Nat} {cursor : Option String} {items : List α}
    (further : extra.lookup "after" = none)
    (reads : Reads client item path extra left cursor history (.ok items)) :
    items = (readings item history).flatMap (·.2.items) := by
  -- the result is set apart, so that the induction can see which of its cases can be a success
  generalize same : (Except.ok items : Except Worker.Failure (List α)) = result at reads
  induction reads generalizing items with
  | cutOff | refused => cases same
  | last asks last =>
    cases same
    rw [(asks.reads further).1]
    simp [shown]
  | @more left cursor events later page others asks more reads ih =>
    cases others with
    | error failure => cases same
    | ok others =>
      cases same
      rw [asks.readings_append further, ih rfl]
      rfl

theorem Lists.items_eq {handles : List Handle} (lists : Lists client kind history (.ok handles)) :
    handles = (readings Handle.ofJson? history).flatMap (·.2.items) := by
  obtain ⟨before, after, yields⟩ := lists
  exact (reads_of_listAfter yields).items_eq rfl

/-- A list that cannot be read leaves nothing to delete. -/
theorem Lists.unread {failure : Worker.Failure}
    (lists : Lists client kind history (.error failure)) :
    (⟨kind, history, .error failure, []⟩ : Round).IsMade client where
  lists := lists
  whole := by
    rintro ⟨handles, listed⟩
    cases listed
  broken _ _ := rfl
  made := nofun

/-- A list that was read, and a deletion for each of its items, make a round. -/
theorem Lists.isMade {handles : List Handle} {deletions : List Deletion}
    (lists : Lists client kind history (.ok handles))
    (paths : deletions.map (·.path) = handles.map fun handle => kind ++ "/" ++ handle.id)
    (made : ∀ deletion ∈ deletions, deletion.IsMade client client.backoff.maxRetries.toNat) :
    (⟨kind, history, .ok handles, deletions⟩ : Round).IsMade client where
  lists := lists
  whole _ := by
    have items := lists.items_eq
    show deletions.map (·.path) = _
    rw [paths, items, Round.shown, List.map_flatMap, List.map_flatMap]
    simp only [List.map_map]
    rfl
  broken := nofun
  made := made

/-! ## A purge

A round for each kind, one after the other. The recursion on the kinds ends early only at a list
that cannot be read. -/

/-- To count while deleting is to delete all and count afterwards. -/
theorem purgeIds_eq (kind : String) (handles : List Handle) :
    client.purgeIds kind handles =
      removed <$> client.deleteEach (handles.map fun handle => kind ++ "/" ++ handle.id) := by
  induction handles with
  | nil => rfl
  | cons handle rest ih =>
    simp only [purgeIds, List.map_cons, deleteEach, ih, map_bind, bind_map_left, map_pure]
    congr 1
    funext first
    cases first <;> simp [removed, Except.isOk, Except.toBool]

theorem purgeKinds_run (kind : String) (rest : List String) (cache : Cache) :
    (client.purgeKinds (kind :: rest)).run cache =
      (client.list Handle.ofJson? kind []).run cache >>= fun listed => match listed.1 with
        | .error failure => .done (.error failure, listed.2)
        | .ok handles => (client.purgeIds kind handles).run listed.2 >>= fun count =>
            (client.purgeKinds rest).run count.2 >>= fun others =>
              .done (others.1.map (count.1 + ·), others.2) := by
  rw [purgeKinds, StateT.run_bind]
  congr 1
  funext listed
  obtain ⟨listed, cache⟩ := listed
  cases listed with
  | error failure => rfl
  | ok handles =>
    dsimp only
    rw [StateT.run_bind]
    congr 1
    funext count
    rw [StateT.run_bind]
    congr 1
    funext others
    obtain ⟨others, cache⟩ := others
    cases others <;> rfl

/-- The rounds of a purge, up to the first list that cannot be read. -/
structure Rounds (client : Client) (kinds : List String) (rounds : List Round)
    (result : Except Worker.Failure Nat) : Prop where
  made : ∀ round ∈ rounds, round.IsMade client
  ends :
    rounds.map (·.kind) = kinds ∧ (∀ round ∈ rounds, round.IsListed) ∧
        result = .ok (removed (rounds.flatMap fun round => round.deletions.map (·.result))) ∨
      ∃ before last failure, rounds = before ++ [last] ∧ rounds.map (·.kind) <+: kinds ∧
        (∀ round ∈ before, round.IsListed) ∧ last.listed = .error failure ∧ result = .error failure

/-- Behind a kind that was listed comes what the other kinds come to. -/
theorem Rounds.cons {kinds : List String} {rounds : List Round} {round : Round}
    {others : Except Worker.Failure Nat} (rest : Rounds client kinds rounds others)
    (made : round.IsMade client) (listed : round.IsListed) :
    Rounds client (round.kind :: kinds) (round :: rounds)
      (others.map (removed (round.deletions.map (·.result)) + ·)) where
  made := List.forall_mem_cons.mpr ⟨made, rest.made⟩
  ends := by
    -- the other kinds were all listed, or one of them could not be
    rcases rest.ends with
      ⟨all, others, rfl⟩ | ⟨before, last, failure, rfl, part, others, fails, rfl⟩
    · refine .inl ⟨by rw [List.map_cons, all], List.forall_mem_cons.mpr ⟨listed, others⟩, ?_⟩
      rw [List.flatMap_cons, removed, removed, removed, List.countP_append]
      rfl
    · have further : (round :: (before ++ [last])).map (·.kind) <+: round.kind :: kinds :=
        List.cons_prefix_cons.mpr ⟨rfl, part⟩
      have listedAll := List.forall_mem_cons.mpr ⟨listed, others⟩
      exact .inr ⟨round :: before, last, failure, rfl, further, listedAll, fails, rfl⟩

theorem rounds_of_purgeKinds {kinds : List String} {result : Except Worker.Failure Nat}
    (h : Yields ((client.purgeKinds kinds).run cache) history (result, after)) :
    ∃ rounds, history = rounds.flatMap (·.events client) ∧ Rounds client kinds rounds result := by
  -- the induction is on the kinds that are left
  induction kinds generalizing cache history result with
  | nil =>
    cases h
    exact ⟨[], rfl, nofun, .inl ⟨rfl, nofun, rfl⟩⟩
  | cons kind kinds ih =>
    rw [purgeKinds_run] at h
    obtain ⟨listing, late, ⟨listed, middle⟩, rfl, lists, rest⟩ := Yields.of_bind h
    have asked : Lists client kind listing listed := ⟨cache, middle, lists⟩
    cases listed with
    | error failure =>
      -- the kinds that are left are not even listed
      cases rest
      rw [List.append_nil]
      have made := List.forall_mem_singleton.mpr asked.unread
      have part : [kind] <+: kind :: kinds := List.cons_prefix_cons.mpr ⟨rfl, List.nil_prefix⟩
      exact ⟨[⟨kind, listing, .error failure, []⟩], by simp [Round.events], made,
        .inr ⟨[], _, failure, rfl, part, nofun, rfl, rfl⟩⟩
    | ok handles =>
      -- the deletions of this kind come before the list of the next one
      obtain ⟨early, late, ⟨count, kept⟩, rfl, purged, rest⟩ := Yields.of_bind rest
      rw [purgeIds_eq] at purged
      obtain ⟨results, each, rfl⟩ := yields_map purged
      obtain ⟨deletions, paths, allMade, rfl, rfl⟩ := deletions_of_deleteEach each
      obtain ⟨later, nothing, ⟨others, last⟩, rfl, further, ends⟩ := Yields.of_bind rest
      cases ends
      obtain ⟨rounds, rfl, follow⟩ := ih further
      have made := asked.isMade paths allMade
      exact ⟨_ :: rounds, by simp [Round.events], follow.cons made ⟨handles, rfl⟩⟩

/-- **What a purge deletes and what it counts.** Whatever the service answers and whatever fails,
threads, assistants, vector stores and files are listed in this order, up to the first list that
cannot be read. Every id on the pages of a list that was read is deleted once, in its order and
before the next kind is listed, however the deletions before it ended. When all four lists were
read, the purge counts the deletions that succeeded or found nothing to delete. Otherwise it fails
as the list did, and neither what the pages of that list showed nor what the kinds behind it hold is
deleted. -/
theorem purge_exact {result : Except Worker.Failure Nat}
    (yields : Yields (client.purgeAll.run cache) history (result, after)) :
    ∃ rounds : List Round, history = rounds.flatMap (·.events client) ∧
      (∀ round ∈ rounds, round.IsMade client) ∧
      (rounds.map (·.kind) = ["threads", "assistants", "vector_stores", "files"] ∧
          (∀ round ∈ rounds, round.IsListed) ∧
          result = .ok (removed (rounds.flatMap fun round => round.deletions.map (·.result))) ∨
        ∃ before last failure, rounds = before ++ [last] ∧
          rounds.map (·.kind) <+: ["threads", "assistants", "vector_stores", "files"] ∧
          (∀ round ∈ before, round.IsListed) ∧ last.listed = .error failure ∧
          result = .error failure) := by
  obtain ⟨rounds, course, follow⟩ := rounds_of_purgeKinds yields
  exact ⟨rounds, course, follow.made, follow.ends⟩

/-! ## Leftovers

A service with three leftovers on three pages, which refuses some of the requests for them or for
their deletion. -/

/-- Two pages of threads, one of agents, and nothing else. -/
def leftBody (request : Http.Request) : String :=
  if request.path = "threads" then
    if cursor? request = none then
      "\x7b\"data\": [\x7b\"id\": \"a\"\x7d], \"has_more\": true, \"last_id\": \"a\"\x7d"
    else "\x7b\"data\": [\x7b\"id\": \"b\"\x7d]\x7d"
  else if request.path = "assistants" then "\x7b\"data\": [\x7b\"id\": \"c\"\x7d]\x7d"
  else "\x7b\"data\": []\x7d"

/-- A service that refuses some requests. -/
def leftovers (refuses : Http.Request → Bool) (_past : History Call Answer) :
    (call : Call) → Answer call
  | .send request _ =>
    .ok (if refuses request then ⟨403, .ok "no"⟩ else ⟨200, .ok (leftBody request)⟩)
  | .fetchToken => .ok (.lasting "secret")
  | .clock => default
  | .pause _ => ()
  | .fileContent _ => .ok ByteArray.empty

/-- How a purge goes at such a service. -/
def purgeCourse (refuses : Http.Request → Bool) :
    History Call Answer × Except Worker.Failure Nat × Cache :=
  (onceClient.purgeAll.run Cache.empty).replay (leftovers refuses) []

/-- A deletion that is refused is not counted, and keeps nothing else from being deleted. -/
theorem purge_exact_past_refusal :
    (purgeCourse (·.path == "threads/a")).1.filterMap sentPath? =
        ["threads", "threads", "threads/a", "threads/b", "assistants", "assistants/c",
          "vector_stores", "files"] ∧
      ∃ rounds : List Round,
        rounds.map (·.kind) = ["threads", "assistants", "vector_stores", "files"] ∧
        removed (rounds.flatMap fun round => round.deletions.map (·.result)) = 2 := by
  have ends : (purgeCourse (·.path == "threads/a")).2 = (.ok 2, some (.lasting "secret")) := by
    decide +kernel
  have yields : Yields (onceClient.purgeAll.run Cache.empty)
      (purgeCourse (·.path == "threads/a")).1 (purgeCourse (·.path == "threads/a")).2 :=
    Procedure.yields_replay (leftovers _) _
  rw [ends] at yields
  obtain ⟨rounds, -, -, ⟨kinds, -, count⟩ | ⟨_, _, _, _, _, _, _, fails⟩⟩ := purge_exact yields
  · exact ⟨by decide +kernel, rounds, kinds, (Except.ok.inj count).symm⟩
  · cases fails

/-- A service that does not list threads keeps the agent from being deleted, which is not even asked
for; and one that does not show the second page of threads keeps the thread on the first one. -/
theorem purge_stops_at_unreadable_list :
    ((purgeCourse (·.path == "threads")).1.filterMap sentPath? = ["threads"] ∧
        (purgeCourse (·.path == "threads")).2.1 = .error (.api 403 "no")) ∧
      ((purgeCourse (cursor? · == some "a")).1.filterMap sentPath? = ["threads", "threads"] ∧
        (readings Handle.ofJson? (purgeCourse (cursor? · == some "a")).1).flatMap (·.2.items) =
          [⟨"a"⟩] ∧
        (purgeCourse (cursor? · == some "a")).2.1 = .error (.api 403 "no")) := by
  refine ⟨⟨?_, ?_⟩, ?_, ?_, ?_⟩ <;> decide +kernel

end AzcRepair.Agents.Client
