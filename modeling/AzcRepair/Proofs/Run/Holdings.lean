import AzcRepair.Proofs.Run.Passes

/-!
# What a run holds

What the worker handed out has to be given back: an agent and a conversation when a session is
created, a file with every upload, an index. What is held is read off the calls, and compared with
the session that the run gives back.

* `hold` — what is held after a call, beside what the run believes to have (`Covers`).
* `holding` — nothing may be given back but what is held, and nothing be acquired in its place.
* `start_released` — a run that ends holds nothing, by a walk through the run.
-/

namespace AzcRepair

open Monitor (Only)
open Procedure (History Yields)

namespace Run

open Worker (Session)

/-! ## Holding and giving back

What is held is a fact about the history, computed from the answers of the worker. What the run
believes to hold is the session in its hands. The two agree (`Covers`) except for the index, which
is in the session as soon as it is named and held only when it was made here. -/

/-- What is held after a call. A session is created without an index. -/
def hold (held : Session) : (call : Call) → Answer call → Session
  | .worker (.createSession _), .ok session => { session with index := none }
  | .worker (.uploadArtifact _), .ok file => { held with files := held.files ++ [file] }
  | .worker (.createIndex ..), .ok index => { held with index := some index }
  | .worker (.teardownSession _), _ => .empty
  | _, _ => held

/-- The session lists all that is held. -/
structure Covers (session held : Session) : Prop where
  id : session.id = held.id
  agent : session.agent = held.agent
  files : session.files = held.files
  index : held.index = none ∨ held.index = session.index

/-- A call that loses nothing: a session is created when nothing is held, an index is made when none
is, and all that is held is given back at once. -/
def Keeps (held : Session) : Call → Prop
  | .worker (.createSession _) => held = .empty
  | .worker (.createIndex ..) => held.index = none
  | .worker (.teardownSession session) => Covers session held
  | _ => True

/-- The monitor that follows what is held and refuses a call by which something would be lost. -/
def holding : Monitor Call Answer Session where
  note := hold
  permits := Keeps

variable {run : Run} {held : Session} {α : Type}

/-- When the session at hand is empty, nothing is held. -/
theorem Covers.of_empty (covers : Covers .empty held) : held = .empty := by
  obtain ⟨id, agent, index, files⟩ := held
  obtain ⟨rfl, rfl, rfl, same | same⟩ := covers <;> cases same <;> rfl

/-! ## Calls that acquire and release nothing

Most parts of a run can be passed over: their calls neither acquire nor release. Each lemma takes
one of the kinds of calls that `Only` knows of such a part. -/

theorem idle_of_disk (call : Call) (h : IsDisk call) : holding.Idle held call := by
  obtain ⟨request, rfl⟩ := h
  exact ⟨trivial, fun _ => rfl⟩

theorem idle_of_inspects {workspace : Workspace} (call : Call) (h : Inspects workspace call) :
    holding.Idle held call := by
  rcases h with rfl | rfl | rfl | rfl | ⟨text, rfl | rfl⟩ | ⟨text, now, rfl | rfl | rfl⟩ <;>
    exact ⟨trivial, fun _ => rfl⟩

/-- To ask for the status of an index does not make one. -/
theorem idle_of_awaits {index : String} (call : Call) (h : AwaitsIndex index call) :
    holding.Idle held call := by
  rcases h with ⟨ms, rfl⟩ | rfl <;> exact ⟨trivial, fun _ => rfl⟩

/-- Within a session messages are sent and jobs are run, and nothing is acquired. -/
theorem idle_of_worksOn {workspace : Workspace} {session : Session} (call : Call)
    (h : WorksOn workspace session call) : holding.Idle held call := by
  rcases h with (rfl | rfl | ⟨text, rfl⟩) | rfl | ⟨ms, rfl⟩ | ⟨request, rfl, speaks⟩
  · exact ⟨trivial, fun _ => rfl⟩
  · exact ⟨trivial, fun _ => rfl⟩
  · exact ⟨trivial, fun _ => rfl⟩
  · exact ⟨trivial, fun _ => rfl⟩
  · exact ⟨trivial, fun _ => rfl⟩
  · -- the requests on a session are harmless one by one, and the others are not made on a session
    cases request with
    | attachIndex | sendMessage | startJob | pollJob | readTranscript =>
      exact ⟨trivial, fun _ => rfl⟩
    | checkConnection | createSession | uploadArtifact | createIndex | indexStatus
    | teardownSession | purgeAll => cases speaks

/-! ## Opening and closing

An attempt begins with nothing held and ends with a session that covers what is held, also when it
fails; that is why closing this session gives everything back. The openings follow by induction on
the attempts that are left. -/

/-- Each file that is accepted is in the session and is held. -/
theorem uploadAll_covers {session : Session} (artifacts : List Worker.Artifact)
    (covers : Covers session held) (unindexed : held.index = none) :
    holding.Ensures (Conversation.uploadAll session artifacts) held fun result held =>
      Covers result.1 held ∧ held.index = none := by
  induction artifacts generalizing session held with
  | nil => exact ⟨covers, unindexed⟩
  | cons artifact rest ih =>
    refine Monitor.ensures_ask_bind.mpr ⟨trivial, fun answer => ?_⟩
    cases answer with
    | error failure => exact ⟨covers, unindexed⟩
    | ok file =>
      have added : Covers { session with files := session.files ++ [file] }
          { held with files := held.files ++ [file] } :=
        ⟨covers.id, covers.agent, by simp [covers.files], .inl unindexed⟩
      exact ih added unindexed

/-- An attempt ends with a session that covers what it acquired, wherever it stopped. -/
theorem setUp_covers (conversation : Conversation) (instructions : String)
    (artifacts : List Worker.Artifact) :
    holding.Ensures (conversation.setUp instructions artifacts) .empty fun result =>
      Covers result.1 := by
  refine Monitor.ensures_ask_bind.mpr ⟨rfl, fun created => ?_⟩
  cases created with
  | error failure => exact ⟨rfl, rfl, rfl, .inl rfl⟩
  | ok session =>
    have created : Covers session { session with index := none } := ⟨rfl, rfl, rfl, .inl rfl⟩
    refine Monitor.ensures_bind.mpr ((uploadAll_covers artifacts created rfl).mono ?_)
    rintro ⟨session, failure | _⟩ held ⟨covers, unindexed⟩
    · exact covers
    refine Monitor.ensures_ask_bind.mpr ⟨trivial, fun now => ?_⟩
    refine Monitor.ensures_ask_bind.mpr ⟨trivial, fun suffix => ?_⟩
    refine Monitor.ensures_ask_bind.mpr ⟨unindexed, fun made => ?_⟩
    cases made with
    | error failure => exact covers
    | ok index =>
      -- the index goes into the session at the moment at which it is held
      have indexed : Covers { session with index := some index }
          { held with index := some index } :=
        ⟨covers.id, covers.agent, covers.files, .inr rfl⟩
      refine Monitor.ensures_ask_bind.mpr ⟨trivial, fun _ => ?_⟩
      refine Monitor.ensures_bind.mpr
        (Monitor.ensures_of_only (only_waitForIndex conversation index _) idle_of_awaits ?_)
      rintro (failure | _)
      · exact indexed
      · exact ⟨trivial, fun attached => indexed⟩

/-- After closing a session that covers what is held, nothing is held. -/
theorem closeSession_released {session : Session} (covers : Covers session held) :
    holding.Ensures (Conversation.closeSession session) held fun _ held => held = .empty := by
  unfold Conversation.closeSession
  split
  · next empty =>
    subst empty
    exact covers.of_empty
  · exact ensures_discard.mpr ⟨covers, fun _ => rfl⟩

/-- A session that was opened lists all that is held; when none was, nothing is held. -/
def HeldBy : Except Worker.Failure Session → Session → Prop
  | .ok session, held => Covers session held
  | .error _, held => held = .empty

/-- An opening ends with its session, which covers what is held, or with nothing. -/
theorem openWithin_heldBy (conversation : Conversation) (instructions : String)
    (artifacts : List Worker.Artifact) (left : Nat) :
    holding.Ensures (conversation.openWithin instructions artifacts left) .empty HeldBy := by
  -- each failed attempt gives back what it acquired, so the next one begins with nothing
  induction left with
  | zero =>
    refine Monitor.ensures_bind.mpr ((setUp_covers conversation instructions artifacts).mono ?_)
    rintro ⟨session, failure | _⟩ held covers
    · exact Monitor.ensures_bind.mpr ((closeSession_released covers).mono fun _ _ gone => gone)
    · exact covers
  | succ left ih =>
    refine Monitor.ensures_bind.mpr ((setUp_covers conversation instructions artifacts).mono ?_)
    rintro ⟨session, failure | _⟩ held covers
    · refine Monitor.ensures_bind.mpr ((closeSession_released covers).mono ?_)
      rintro _ _ rfl
      exact ih
    · exact covers

/-! ## Iterations and passes

Every iteration begins with nothing held and ends that way, whatever became of its work. So does a
pass, and the whole run. -/

/-- An iteration gives back the session that it opened. -/
theorem iterate_released (iteration : UInt32) (violations : List Violation) :
    holding.Ensures (run.iterate iteration violations).run .empty fun _ held => held = .empty := by
  refine ensures_iterate trivial fun now => ?_
  refine Monitor.ensures_of_only (only_onDisk _) idle_of_disk ?_
  rintro (failure | backup)
  · rfl
  -- a panic before the first attempt leaves nothing behind
  refine ⟨fun _ => rfl, ?_⟩
  refine (openWithin_heldBy run.conversation run.instructions run.workspace.artifacts _).mono ?_
  rintro (failure | session) held heldBy
  · exact heldBy
  refine Monitor.ensures_of_only (only_remediate run session iteration violations) idle_of_worksOn
    fun result => ?_
  exact closeSession_released heldBy

theorem passes_released (progress : Progress) (left : Nat) :
    holding.Ensures (run.passes progress left).run .empty fun _ held => held = .empty := by
  -- the induction is on the iterations that are left
  induction left generalizing progress with
  | zero =>
    refine ensures_passes trivial rfl (fun _ => rfl)
      (Monitor.ensures_of_only (only_inspect run) idle_of_inspects ?_)
    rintro (failure | _ | _ | _) <;> rfl
  | succ left ih =>
    refine ensures_passes trivial rfl (fun _ => rfl)
      (Monitor.ensures_of_only (only_inspect run) idle_of_inspects ?_)
    rintro (failure | _ | _ | _)
    · rfl
    · rfl
    · rfl
    · refine (iterate_released progress.number _).mono ?_
      rintro (failure | _ | outcome) _ rfl
      · rfl
      · exact ih progress.advance
      · rfl

/-- A run loses nothing that it holds, and at its end it holds nothing. -/
theorem start_released (run : Run) :
    holding.Ensures run.start.run .empty fun _ held => held = .empty := by
  let Nothing (held : Session) : Prop := held = .empty
  refine ensures_start Nothing Nothing ?_ (fun _ _ => trivial) (fun _ _ => id) (fun _ => id)
    (fun _ nothing => ⟨trivial, fun _ => nothing⟩) ?_
  · refine Monitor.ensures_of_only (only_onDisk run.workspace.ensureSources) idle_of_disk ?_
    rintro (failure | _) <;> rfl
  · rintro _ rfl
    exact passes_released _ _

end Run

end AzcRepair
