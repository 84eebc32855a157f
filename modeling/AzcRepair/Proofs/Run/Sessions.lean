import AzcRepair.Proofs.Run.Calls

/-!
# Sessions over a whole run

Every session that a run creates is given back exactly once, at most one is live at any moment, and
whatever is said to the worker is said on it.

* `Balanced` — creations and teardowns alternate: each session is torn down before the next one is
  created, and nothing else is torn down.
* `custody` — the monitor that permits a creation only when nothing is held, and a teardown or a
  word to the worker only on the session that is held.
* `openWithin_held`, `iterate_balanced`, `start_balanced` — the walk through a run.
* `session_discipline` — the result for every run.
-/

namespace AzcRepair

open Monitor (Only)
open Procedure (Event History Yields)

/-- The same session with as many or more of its handles known: files are added at the end, and an
index once there is one. What is torn down is compared with what was created by this and not by
equality, as the worker returns a session before anything is uploaded. -/
def Worker.Session.Extends (session created : Worker.Session) : Prop :=
  session.id = created.id ∧ session.agent = created.agent ∧ created.files <+: session.files ∧
    (created.index = session.index ∨ session.index.isSome = true)

instance (session created : Worker.Session) : Decidable (session.Extends created) :=
  inferInstanceAs (Decidable (_ ∧ _ ∧ _ ∧ _))

namespace Worker.Session

theorem Extends.refl (session : Session) : session.Extends session :=
  ⟨rfl, rfl, List.prefix_refl _, .inl rfl⟩

theorem Extends.addFile {session created : Session} (h : session.Extends created) (file : String) :
    Extends { session with files := session.files ++ [file] } created :=
  ⟨h.1, h.2.1, h.2.2.1.trans (List.prefix_append _ _), h.2.2.2⟩

theorem Extends.setIndex {session created : Session} (h : session.Extends created)
    (index : String) : Extends { session with index := some index } created :=
  ⟨h.1, h.2.1, h.2.2.1, .inr rfl⟩

theorem Extends.eq_empty {session created : Session} (h : session.Extends created)
    (empty : session = .empty) : created = .empty := by
  subst empty
  obtain ⟨id, agent, index, files⟩ := created
  obtain ⟨rfl, rfl, hfiles, hindex⟩ := h
  have hfiles : files = [] := List.prefix_nil.mp hfiles
  have hindex : index = none := hindex.resolve_right (by simp [empty])
  rw [hfiles, hindex]
  rfl

end Worker.Session

namespace Run

open Worker (Session Artifact)

variable {α : Type}

/-! ## Creations and teardowns

What is live is computed from the history, by a fold that knows nothing of the discipline. That
the discipline makes it simple is the content of the two lemmas at the end: nothing is live after
a balanced history, and one session after a creation behind it. -/

/-- What happens to a session. -/
inductive Handling where
  | created (session : Session)
  | tornDown (session : Session)
  deriving DecidableEq

/-- A session is handled when its creation succeeds and when it is passed to a teardown, whatever
comes of the teardown. -/
def handling? : Event Call Answer → Option Handling
  | ⟨.worker (.createSession _), .ok session⟩ => some (.created session)
  | ⟨.worker (.teardownSession session), _⟩ => some (.tornDown session)
  | _ => none

/-- The creations and teardowns of a history, in their order. -/
def handlings (history : History Call Answer) : List Handling :=
  history.filterMap handling?

/-- A pass begins when the switch is asked, and it is built from its build on. -/
def builtStep (built : Bool) (event : Event Call Answer) : Bool :=
  match event.1 with
  | .cancelled => false
  | .build => true
  | _ => built

/-- The last pass of a history has come to its build. -/
def passBuilt (history : History Call Answer) : Bool :=
  history.foldl builtStep false

/-- A created session is live when it holds something, until it is torn down. -/
def liveStep (live : List Session) : Handling → List Session
  | .created session => if session = .empty then live else live ++ [session]
  | .tornDown session => live.filter fun created => ¬ session.Extends created

/-- The sessions that are live after these creations and teardowns. -/
def liveAfter (handlings : List Handling) : List Session :=
  handlings.foldl liveStep []

/-- The sessions that are live after a history. -/
def live (history : History Call Answer) : List Session :=
  liveAfter (handlings history)

/-- Each creation is followed at once by the teardown of the same session, and there are no other
teardowns. A session that holds nothing need not be torn down. -/
inductive Balanced : List Handling → Prop
  | nil : Balanced []
  | given {earlier : List Handling} {created session : Session} (before : Balanced earlier)
      (same : session.Extends created) : Balanced (earlier ++ [.created created, .tornDown session])
  | nothing {earlier : List Handling} (before : Balanced earlier) :
      Balanced (earlier ++ [.created .empty])

/-- The session is held: it was created last and not torn down since. -/
def Held (handlings : List Handling) (session : Session) : Prop :=
  ∃ earlier created, handlings = earlier ++ [.created created] ∧ Balanced earlier ∧
    session.Extends created

theorem liveAfter_of_balanced {handlings : List Handling} (h : Balanced handlings) :
    liveAfter handlings = [] := by
  induction h with
  | nil => rfl
  | @given earlier created session before same ih =>
    -- the teardown may know more files and an index than the creation did, so it is matched by
    -- `Extends` and not by equality
    unfold liveAfter at ih ⊢
    rw [List.foldl_append, ih]
    by_cases hc : created = .empty <;> simp [liveStep, hc, same]
  | nothing before ih =>
    unfold liveAfter at ih ⊢
    rw [List.foldl_append, ih]
    simp [liveStep]

/-- Of a run that holds a session, that one is live and no other. -/
theorem liveAfter_created {earlier : List Handling} (h : Balanced earlier) (created : Session) :
    liveAfter (earlier ++ [.created created]) = if created = .empty then [] else [created] := by
  have before := liveAfter_of_balanced h
  unfold liveAfter at before ⊢
  rw [List.foldl_append, before]
  simp [liveStep]

theorem Held.balanced_tornDown {handlings : List Handling} {session : Session}
    (h : Held handlings session) : Balanced (handlings ++ [.tornDown session]) := by
  obtain ⟨earlier, created, rfl, before, same⟩ := h
  rw [List.append_assoc]
  exact .given before same

/-- A session that holds nothing need not be torn down: the history is balanced already. -/
theorem Held.balanced_of_empty {handlings : List Handling} (h : Held handlings .empty) :
    Balanced handlings := by
  obtain ⟨earlier, created, rfl, before, same⟩ := h
  rw [same.eq_empty rfl]
  exact .nothing before

/-! ## The monitor

The monitor remembers the creations and teardowns, and of the passes only whether the present one
has come to its build; by that a compilation of the outer part is told from a recompilation. -/

/-- What a history says about sessions, and whether its last pass has come to its build. -/
structure Ledger where
  handlings : List Handling
  built : Bool

/-- One more creation or teardown. -/
def Ledger.add (ledger : Ledger) (handling : Handling) : Ledger :=
  { ledger with handlings := ledger.handlings ++ [handling] }

/-- Sessions are created only when none is held, and used and torn down only while they are held.
What belongs to the outer part of a pass happens with no session held. -/
def custody : Monitor Call Answer Ledger where
  note ledger
    | .worker (.createSession _), .ok session => ledger.add (.created session)
    | .worker (.teardownSession session), _ => ledger.add (.tornDown session)
    | .build, _ => { ledger with built := true }
    | .cancelled, _ => { ledger with built := false }
    | _, _ => ledger
  permits ledger
    | .worker (.createSession _) | .prepareArtifacts | .build | .cancelled =>
      Balanced ledger.handlings
    | .compile => ledger.built = false → Balanced ledger.handlings
    | .worker (.teardownSession session) => Held ledger.handlings session
    | .worker request => ∀ session, request.session? = some session → Held ledger.handlings session
    | _ => True

/-! ## Opening and closing

Every attempt ends with a session in hand that is the one that was created, whatever is known of
it by then, or with nothing created. Closing either of them balances the history, so the next
attempt may create a session again. -/

variable {ledger : Ledger}

theorem idle_of_awaitsIndex {index : String} (call : Call) (h : AwaitsIndex index call) :
    custody.Idle ledger call := by
  rcases h with ⟨ms, rfl⟩ | rfl
  · exact ⟨trivial, fun _ => rfl⟩
  · exact ⟨fun session h => (Option.some_ne_none session h.symm).elim, fun _ => rfl⟩

theorem uploadAll_extends {session created : Session} (same : session.Extends created)
    (artifacts : List Artifact) :
    custody.Ensures (Conversation.uploadAll session artifacts) ledger fun result after =>
      after = ledger ∧ result.1.Extends created := by
  induction artifacts generalizing session with
  | nil => exact ⟨rfl, same⟩
  | cons artifact rest ih =>
    refine ⟨fun session h => (Option.some_ne_none session h.symm).elim, fun answer => ?_⟩
    cases answer with
    | error failure => exact ⟨rfl, same⟩
    | ok file => exact ih (same.addFile file)

/-- What a setup leaves: nothing, or the session that it returns. -/
def AfterSetUp (ledger : Ledger) (session : Session) (failed : Bool) (after : Ledger) : Prop :=
  (failed = true ∧ session = .empty ∧ after = ledger) ∨
    ∃ created, session.Extends created ∧ after = ledger.add (.created created)

/-- A setup creates at most one session, and returns it whenever it did. -/
theorem setUp_created (conversation : Conversation) (instructions : String)
    (artifacts : List Artifact) (balanced : Balanced ledger.handlings) :
    custody.Ensures (conversation.setUp instructions artifacts) ledger fun result after =>
      AfterSetUp ledger result.1 (!result.2.isOk) after := by
  refine Monitor.ensures_ask_bind.mpr ⟨balanced, fun answer => ?_⟩
  cases answer with
  | error failure => exact .inl ⟨rfl, rfl, rfl⟩
  | ok created =>
    -- from here on something is held: every failure has to hand the session back with it
    refine Monitor.ensures_bind.mpr ((uploadAll_extends (.refl created) artifacts).mono ?_)
    rintro ⟨session, failure | _⟩ after ⟨rfl, same⟩
    · exact .inr ⟨created, same, rfl⟩
    · refine Monitor.ensures_ask_bind.mpr ⟨trivial, fun now => ?_⟩
      refine Monitor.ensures_ask_bind.mpr ⟨trivial, fun suffix => ?_⟩
      refine Monitor.ensures_ask_bind.mpr ⟨?_, fun made => ?_⟩
      · exact fun session h => (Option.some_ne_none session h.symm).elim
      · cases made with
        | error failure => exact .inr ⟨created, same, rfl⟩
        | ok index =>
          refine Monitor.ensures_ask_bind.mpr ⟨trivial, fun _ => Monitor.ensures_bind.mpr ?_⟩
          refine Monitor.ensures_of_only (only_waitForIndex conversation index _)
            idle_of_awaitsIndex fun waited => ?_
          cases waited with
          | error failure => exact .inr ⟨created, same.setIndex index, rfl⟩
          | ok _ =>
            -- the attachment is made on the session, which is the one that was just created
            refine ⟨?_, fun attached => .inr ⟨created, same.setIndex index, rfl⟩⟩
            rintro _ ⟨⟩
            exact ⟨ledger.handlings, created, rfl, balanced, same.setIndex index⟩

/-- Closing the session that is held balances the history. -/
theorem closeSession_balanced {session : Session} (held : Held ledger.handlings session) :
    custody.Ensures (Conversation.closeSession session) ledger fun _ after =>
      Balanced after.handlings ∧ after.built = ledger.built := by
  unfold Conversation.closeSession
  -- a session that holds nothing is not torn down, and there is nothing to give back
  by_cases empty : session = .empty
  · rw [if_pos empty]
    exact ⟨Held.balanced_of_empty (empty ▸ held), rfl⟩
  · rw [if_neg empty]
    exact ensures_discard.mpr ⟨held, fun _ => ⟨held.balanced_tornDown, rfl⟩⟩

/-- After a failed setup the same holds, also when nothing was created. -/
theorem closeSession_afterSetUp {before : Ledger} {session : Session} {failed : Bool}
    (balanced : Balanced before.handlings) (h : AfterSetUp before session failed ledger) :
    custody.Ensures (Conversation.closeSession session) ledger fun _ after =>
      Balanced after.handlings ∧ after.built = before.built := by
  rcases h with ⟨-, rfl, rfl⟩ | ⟨created, same, rfl⟩
  · exact ⟨balanced, rfl⟩
  · exact closeSession_balanced ⟨before.handlings, created, rfl, balanced, same⟩

/-- What opening a session leaves: a session that is held, or none. -/
def AfterOpening (built : Bool) : Except Worker.Failure Session → Ledger → Prop
  | .ok session, after => Held after.handlings session ∧ after.built = built
  | .error _, after => Balanced after.handlings ∧ after.built = built

theorem AfterSetUp.opened {before : Ledger} {session : Session}
    (balanced : Balanced before.handlings) (h : AfterSetUp before session false ledger) :
    AfterOpening before.built (.ok session) ledger := by
  rcases h with ⟨⟨⟩, -, -⟩ | ⟨created, same, rfl⟩
  exact ⟨⟨before.handlings, created, rfl, balanced, same⟩, rfl⟩

theorem openWithin_held (conversation : Conversation) (instructions : String)
    (artifacts : List Artifact) (left : Nat) (balanced : Balanced ledger.handlings) :
    custody.Ensures (conversation.openWithin instructions artifacts left) ledger
      (AfterOpening ledger.built) := by
  -- the induction is on the setups that are left; a failed one is given back before the next
  induction left generalizing ledger with
  | zero =>
    refine Monitor.ensures_bind.mpr ((setUp_created _ _ _ balanced).mono ?_)
    rintro ⟨session, failure | _⟩ after h
    · refine Monitor.ensures_bind.mpr ((closeSession_afterSetUp balanced h).mono ?_)
      exact fun _ last closed => closed
    · exact h.opened balanced
  | succ left ih =>
    refine Monitor.ensures_bind.mpr ((setUp_created _ _ _ balanced).mono ?_)
    rintro ⟨session, failure | _⟩ after h
    · refine Monitor.ensures_bind.mpr ((closeSession_afterSetUp balanced h).mono ?_)
      intro _ last closed
      rw [← closed.2]
      exact ih closed.1
    · exact h.opened balanced

/-! ## Iterations and passes

The parts of a run are walked once, with `Balanced` before and after each of them. Between opening
and closing the state does not change at all, since all calls of the work are idle while their
session is held. -/

theorem idle_of_isDisk (call : Call) (h : IsDisk call) : custody.Idle ledger call := by
  obtain ⟨request, rfl⟩ := h
  exact ⟨trivial, fun _ => rfl⟩

theorem ensures_files {action : Workspace.Action α} {post : Except Failure α → Ledger → Prop}
    (h : ∀ outcome, post outcome ledger) : custody.Ensures (onDisk action).run ledger post :=
  Monitor.ensures_of_only (only_onDisk action) idle_of_isDisk h

/-- While a session is held and the pass is built, the work within the session changes nothing. -/
theorem idle_of_worksWithin {session : Session} (held : Held ledger.handlings session)
    (built : ledger.built = true) (call : Call) (h : WorksWithin session call) :
    custody.Idle ledger call := by
  rcases h with disk | rfl | ⟨ms, rfl⟩ | ⟨request, rfl, on⟩
  · exact idle_of_isDisk call disk
  · -- a compilation of the outer pass comes before its build, so this one is none
    exact ⟨fun unbuilt => absurd unbuilt (by rw [built]; decide), fun _ => rfl⟩
  · exact ⟨trivial, fun _ => rfl⟩
  · cases request with
    | attachIndex | sendMessage | startJob | pollJob | readTranscript =>
      exact ⟨fun other h => Option.some.inj (on.symm.trans h) ▸ held, fun _ => rfl⟩
    | checkConnection | createSession | uploadArtifact | createIndex | indexStatus
    | teardownSession | purgeAll => cases on

/-- An iteration begins and ends with no session held, on every path. -/
theorem iterate_balanced (run : Run) (iteration : UInt32) (violations : List Violation)
    (balanced : Balanced ledger.handlings) (built : ledger.built = true) :
    custody.Ensures (run.iterate iteration violations).run ledger fun _ after =>
      Balanced after.handlings := by
  refine ensures_iterate trivial fun now => ensures_files ?_
  rintro (failure | backup)
  · exact balanced
  refine ⟨fun _ => balanced, (openWithin_held _ _ _ _ balanced).mono ?_⟩
  rintro (failure | session) opened ⟨held, stillBuilt⟩
  · exact held
  -- the work within the session is idle, so its result does not matter for the closing
  refine Monitor.ensures_of_only (only_remediate run session iteration violations)
    (fun call works => idle_of_worksWithin held (stillBuilt.trans built) call works.within)
    fun result => ?_
  exact (closeSession_balanced held).mono fun _ closed closing => closing.1

/-- An inspection begins and ends with nothing held, and one that found something was built. -/
theorem inspect_balanced (run : Run) (balanced : Balanced ledger.handlings) :
    custody.Ensures run.inspect.run ledger fun outcome after =>
      Balanced after.handlings ∧ ∀ found, outcome = .ok (.built found) → after.built = true := by
  refine ensures_inspect (fun s => Balanced s.handlings) (fun s => Balanced s.handlings)
    (fun _ => balanced) (fun _ => ⟨balanced, nofun⟩) (fun _ _ => ⟨balanced, nofun⟩)
    (fun _ _ => balanced) ?_ ?_
  · exact fun _ balanced => ⟨balanced, fun _ => ⟨balanced, nofun⟩, balanced⟩
  · intro s balanced
    refine ⟨balanced, fun _ => ⟨balanced, nofun⟩, fun output => ensures_files ?_⟩
    rintro (failure | logged)
    · exact ⟨balanced, nofun⟩
    refine ⟨trivial, fun now => ensures_files ?_⟩
    rintro (failure | logged)
    · exact ⟨balanced, nofun⟩
    · exact ⟨balanced, fun _ _ => rfl⟩

theorem passes_balanced (run : Run) (progress : Progress) (left : Nat)
    (balanced : Balanced ledger.handlings) :
    custody.Ensures (run.passes progress left).run ledger fun _ after =>
      Balanced after.handlings := by
  have inspected : custody.Ensures run.inspect.run (custody.note ledger .cancelled false) _ :=
    inspect_balanced run balanced
  -- the induction is on the iterations that are left, and every pass begins with nothing held
  induction left generalizing ledger progress with
  | zero =>
    refine ensures_passes balanced balanced (fun _ => balanced) (inspected.mono ?_)
    rintro (failure | _ | _ | _) after ⟨settled, -⟩ <;> exact settled
  | succ left ih =>
    refine ensures_passes balanced balanced (fun _ => balanced) (inspected.mono ?_)
    rintro (failure | _ | _ | _) after ⟨settled, built⟩
    · exact settled
    · exact settled
    · exact settled
    · -- only a pass that was built comes to an iteration
      refine (iterate_balanced run _ _ settled (built _ rfl)).mono ?_
      rintro (failure | _ | outcome) last closed
      · exact closed
      · exact ih progress.advance closed (inspect_balanced run closed)
      · exact closed

/-- A run gives back whatever it opened, however it ends. -/
theorem start_balanced (run : Run) :
    custody.Ensures run.start.run ⟨[], false⟩ fun _ after => Balanced after.handlings := by
  refine ensures_start (fun s => Balanced s.handlings) (fun s => Balanced s.handlings)
    (ensures_files ?_) ?_ ?_ ?_ ?_ ?_
  · rintro (failure | _) <;> exact .nil
  · exact fun _ _ session h => (Option.some_ne_none session h.symm).elim
  · exact fun _ _ balanced => balanced
  · exact fun _ balanced => balanced
  · exact fun _ balanced =>
      ⟨fun session h => (Option.some_ne_none session h.symm).elim, fun _ => balanced⟩
  · exact fun _ balanced => passes_balanced run _ _ balanced

/-! ## What a history says

The state of the monitor after a history is what can be read off the history (`custody_after`). So
what the monitor permits is a statement about histories, and the last theorem puts it in these
terms. -/

/-- One event moves the monitor as it moves the two folds. -/
theorem custody_note (event : Event Call Answer) :
    custody.note ledger event.1 event.2 =
      ⟨ledger.handlings ++ (handling? event).toList, builtStep ledger.built event⟩ := by
  obtain ⟨call, answer⟩ := event
  cases call with
  | worker request =>
    cases request with
    | createSession instructions =>
      cases answer <;> simp [custody, handling?, Ledger.add, builtStep]
    | _ => simp [custody, handling?, Ledger.add, builtStep]
  | _ => simp [custody, handling?, builtStep]

/-- After a history the monitor knows its creations and teardowns and whether its last pass was
built. -/
theorem custody_after (history : History Call Answer) :
    custody.after ledger history =
      ⟨ledger.handlings ++ handlings history, history.foldl builtStep ledger.built⟩ := by
  induction history generalizing ledger with
  | nil => simp [handlings]
  | cons event history ih =>
    rw [Monitor.after_cons, ih, custody_note]
    cases h : handling? event <;> simp [handlings, h]

/-- Everything that was created is given back, or all but the session that is held. -/
def Orderly (handlings : List Handling) : Prop :=
  Balanced handlings ∨ ∃ session, Held handlings session

theorem orderly_note (call : Call) (answer : Answer call) (orderly : Orderly ledger.handlings)
    (permitted : custody.permits ledger call) :
    Orderly (custody.note ledger call answer).handlings := by
  cases call with
  | worker request =>
    cases request with
    | createSession instructions =>
      cases answer with
      | error failure => exact orderly
      -- a creation is permitted only when nothing is held, and now this session is
      | ok session => exact .inr ⟨session, ledger.handlings, session, rfl, permitted, .refl session⟩
    | teardownSession session => exact .inl permitted.balanced_tornDown
    | _ => exact orderly
  | _ => exact orderly

/-- A history of permitted calls is orderly at every moment. -/
theorem orderly_of_accepts {history : History Call Answer}
    (h : custody.Accepts ⟨[], false⟩ history) : Orderly (handlings history) := by
  -- a permitted call takes an orderly history to an orderly one
  have kept := h.invariant (show Orderly (Ledger.mk [] false).handlings from .inl .nil)
    fun _ call answer => orderly_note call answer
  rw [custody_after] at kept
  exact kept

/-- In an orderly history at most one session is live. -/
theorem Orderly.liveAfter_length_le {handlings : List Handling} (h : Orderly handlings) :
    (liveAfter handlings).length ≤ 1 := by
  rcases h with balanced | ⟨session, earlier, created, rfl, balanced, -⟩
  · rw [liveAfter_of_balanced balanced]
    exact Nat.zero_le 1
  · rw [liveAfter_created balanced]
    split
    · exact Nat.zero_le 1
    · exact Nat.le_refl 1

/-- The call belongs to the outer part of a pass: the switch, the compilation before the build, the
templates and the build itself. -/
def OuterCall (before : History Call Answer) (call : Call) : Prop :=
  call = .cancelled ∨ call = .compile ∧ passBuilt before = false ∨ call = .prepareArtifacts ∨
    call = .build

/-- What is said to the worker on a session is permitted only while that session is held. -/
theorem held_of_permits {request : Worker.Call} {session : Session}
    (permitted : custody.permits ledger (.worker request)) (on : request.session? = some session) :
    Held ledger.handlings session := by
  cases request with
  | attachIndex | sendMessage | startJob | pollJob | readTranscript => exact permitted session on
  | checkConnection | createSession | uploadArtifact | createIndex | indexStatus
  | teardownSession | purgeAll => cases on

/-- The outer part of a pass is permitted only when nothing is held. -/
theorem balanced_of_outer {before : History Call Answer} {call : Call}
    (permitted : custody.permits ⟨handlings before, passBuilt before⟩ call)
    (outer : OuterCall before call) : Balanced (handlings before) := by
  rcases outer with rfl | ⟨rfl, unbuilt⟩ | rfl | rfl
  · exact permitted
  · exact permitted unbuilt
  · exact permitted
  · exact permitted

/-- **Session discipline.** In every run, whatever the world answers and however the run ends: at
most one session is live at any moment; every message, job, poll and transcript is dealt with on the
session created last, which is live; nothing is live during the outer part of a pass nor at the end;
and each session was given back exactly once, before the next one was created. -/
theorem session_discipline (run : Run) {history : History Call Answer}
    {result : Except Failure Outcome} (h : Yields run.start.run history result) :
    (∀ before, before <+: history → (live before).length ≤ 1) ∧
    (∀ before request answer rest session,
      history = before ++ ⟨.worker request, answer⟩ :: rest → request.session? = some session →
      ∃ created, (handlings before).getLast? = some (.created created) ∧
        session.Extends created ∧ (created ≠ .empty → live before = [created])) ∧
    (∀ before call answer rest, history = before ++ ⟨call, answer⟩ :: rest →
      OuterCall before call → live before = []) ∧
    live history = [] ∧ Balanced (handlings history) := by
  obtain ⟨accepted, balanced⟩ := (start_balanced run).sound h
  rw [custody_after] at balanced
  refine ⟨fun before hp => ?_, ?_, ?_, liveAfter_of_balanced balanced, balanced⟩
  · exact (orderly_of_accepts (accepted.of_prefix hp)).liveAfter_length_le
  · -- what is said to the worker was permitted, so its session is held, and a held session is live
    rintro before request answer rest session rfl on
    have permitted := accepted.permits
    rw [custody_after] at permitted
    obtain ⟨earlier, created, last, settled, same⟩ := held_of_permits permitted on
    have last : handlings before = earlier ++ [.created created] := last
    refine ⟨created, by rw [last, List.getLast?_concat], same, fun holds => ?_⟩
    rw [live, last, liveAfter_created settled, if_neg holds]
  · rintro before call answer rest rfl outer
    have permitted := accepted.permits
    rw [custody_after] at permitted
    exact liveAfter_of_balanced (balanced_of_outer permitted outer)

/-- A world in which the first upload fails and the second session gets no usable reply. -/
def refusing (past : History Call Answer) : (call : Call) → Answer call
  | .build => .ok ⟨"AZC0012: Model", false⟩
  | .worker (.createSession _) =>
    .ok ⟨if handlings past = [] then "first" else "second", "agent", none, []⟩
  | .worker (.uploadArtifact _) =>
    if (handlings past).length = 1 then .error (.unexpected "full") else .ok "file"
  | .worker (.readTranscript _) => .ok [⟨"message", .user, ""⟩, ⟨"reply", .assistant, "no"⟩]
  | .worker (.teardownSession _) => .error (.unexpected "busy")
  | call => obliging call

/-- Both sessions of that world are given back, although the teardowns fail and so does the run. -/
theorem session_discipline_refusing :
    (plainRun.start.run.replay refusing []).2 = .error (.contract .remediation .noJsonObject) ∧
    handlings (plainRun.start.run.replay refusing []).1 =
      [.created ⟨"first", "agent", none, []⟩, .tornDown ⟨"first", "agent", none, []⟩,
        .created ⟨"second", "agent", none, []⟩,
        .tornDown ⟨"second", "agent", some "index", ["file", "file", "file"]⟩] ∧
    live (plainRun.start.run.replay refusing []).1 = [] :=
  ⟨rfl, rfl, (session_discipline plainRun (Procedure.yields_replay _ _)).2.2.2.1⟩

end Run

end AzcRepair
