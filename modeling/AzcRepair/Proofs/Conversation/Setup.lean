import AzcRepair.Proofs.Conversation.Dispatch
import AzcRepair.Proofs.Run.Holdings

/-!
# What the opening of a session does

The histories that the opening of a session can have and what it comes to, as relations on lists of
events, and what the sessions list that are named on the way.

* `Uploads` — artifacts sent one after the other, up to the first that is refused.
* `Builds` — waiting for an index, with a wait after each poll that saw it pending.
* `Setup` — one attempt, and the session that it acquired.
* `Opens` — attempts up to the first that succeeds; what a failed one acquired is given back first.
* `Leads` — on the way every session that is passed on lists exactly what is held.
* `Opens.leads` — the rules keep the ledger, by one lemma for each relation.
* `yields_openSession_iff` — there are attempts as long as 32 bits hold their number.
* `openSession_exact` — the opening follows the rules, and can do all that they allow.
-/

namespace AzcRepair

open Procedure (Event History Yields yields_ask_bind_iff yields_bind_iff yields_call_iff
  yields_done_iff)

namespace Conversation

open Run (Answer AwaitsIndex Call Panic hold only_waitForIndex)
open Worker (Artifact Failure Session Snapshot)

variable {conversation : Conversation} {instructions : String} {artifacts : List Artifact}
  {history : History Call Answer}

/-! ## Uploading the artifacts

What was sent is a list of artifacts with the ids that came back, and the rules compare it with
the artifacts that there are: all of them, or those before the first that was refused. The
induction is on the artifacts; `Uploads.later` is its step. -/

/-- An artifact that was accepted, and the id of its file. -/
def upload (sent : Artifact × String) : Event Call Answer :=
  ⟨.worker (.uploadArtifact sent.1), .ok sent.2⟩

/-- Sending artifacts, and the ids of the files that this acquires. A file that was accepted
before the refusal is acquired all the same, so the list of ids is there in both rules. -/
inductive Uploads (artifacts : List Artifact) :
    History Call Answer → List String → Except Failure Unit → Prop
  /-- An artifact was refused, and the ones behind it are not sent. -/
  | refused (sent : List (Artifact × String)) {artifact : Artifact} {unsent : List Artifact}
    {failure : Failure} (order : artifacts = sent.map (·.1) ++ artifact :: unsent) :
    Uploads artifacts
      (sent.map upload ++ [⟨.worker (.uploadArtifact artifact), .error failure⟩])
      (sent.map (·.2)) (.error failure)
  /-- All artifacts were sent. -/
  | all (sent : List (Artifact × String)) (order : artifacts = sent.map (·.1)) :
    Uploads artifacts (sent.map upload) (sent.map (·.2)) (.ok ())

/-- An artifact that is accepted first leaves the sending of the others as it was. -/
theorem Uploads.later {files : List String} {result : Except Failure Unit}
    (uploads : Uploads artifacts history files result) (artifact : Artifact) (file : String) :
    Uploads (artifact :: artifacts) (upload (artifact, file) :: history) (file :: files)
      result := by
  cases uploads with
  | refused sent order =>
    rw [order]
    exact .refused ((artifact, file) :: sent) rfl
  | all sent order =>
    rw [order]
    exact .all ((artifact, file) :: sent) rfl

/-- The sending follows the rules, and the session lists the files it had and those that came
back. -/
theorem uploads_of_yields {session : Session} {uploaded : Session × Except Failure Unit}
    (yields : Yields (uploadAll session artifacts) history uploaded) :
    ∃ files, Uploads artifacts history files uploaded.2 ∧
      uploaded.1 = { session with files := session.files ++ files } := by
  -- the session grows with every artifact, so the induction is for all sessions
  induction artifacts generalizing session history with
  | nil =>
    obtain ⟨rfl, rfl⟩ := yields_done_iff.mp yields
    exact ⟨[], .all [] rfl, by simp⟩
  | cons artifact rest ih =>
    obtain ⟨answer, later, rfl, goesOn⟩ := yields_ask_bind_iff.mp yields
    cases answer with
    | error failure =>
      obtain ⟨rfl, rfl⟩ := yields_done_iff.mp goesOn
      exact ⟨[], .refused [] rfl, by simp⟩
    | ok file =>
      obtain ⟨files, uploads, acquired⟩ := ih goesOn
      refine ⟨file :: files, uploads.later artifact file, ?_⟩
      rw [acquired]
      simp

/-- Accepted artifacts are followed by the sending of the others. -/
theorem yields_uploads (sent : List (Artifact × String)) {session : Session}
    {uploaded : Session × Except Failure Unit}
    (goesOn : Yields (uploadAll { session with files := session.files ++ sent.map (·.2) } artifacts)
      history uploaded) :
    Yields (uploadAll session (sent.map (·.1) ++ artifacts)) (sent.map upload ++ history)
      uploaded := by
  induction sent generalizing session with
  | nil => simpa using goesOn
  | cons first sent ih =>
    refine .ask_bind (ih ?_)
    simpa using goesOn

theorem yields_of_uploads {session : Session} {files : List String} {result : Except Failure Unit}
    (uploads : Uploads artifacts history files result) :
    Yields (uploadAll session artifacts) history
      ({ session with files := session.files ++ files }, result) := by
  cases uploads with
  | refused sent order =>
    rw [order]
    exact yields_uploads sent (.call _ (.done _))
  | all sent order =>
    rw [order, ← List.append_nil (sent.map _), ← List.append_nil (sent.map upload)]
    exact yields_uploads sent (.done _)

/-! ## Waiting for the index

As for a job, with two differences: here the wait comes after a poll that saw the index pending
and not before each one, and a status that says it timed out is a failure as any other. So no
condition on what the worker reports is needed. -/

/-- Polls that saw the index pending, each with the wait after it. -/
def indexPolls (conversation : Conversation) (index : String) (seen : List Snapshot) :
    History Call Answer :=
  seen.flatMap fun snapshot =>
    [⟨.worker (.indexStatus index), .ok snapshot⟩, ⟨.pause conversation.pollIntervalMs, ()⟩]

/-- Waiting for an index with so many polls. -/
inductive Builds (conversation : Conversation) (index : String) (left : Nat) :
    History Call Answer → Except Failure Unit → Prop
  /-- A poll was refused. -/
  | refused {seen : List Snapshot} {failure : Failure} (pending : Pending seen)
    (within : seen.length < left) :
    Builds conversation index left
      (conversation.indexPolls index seen ++ [⟨.worker (.indexStatus index), .error failure⟩])
      (.error failure)
  /-- A poll saw the index completed. -/
  | completed {seen : List Snapshot} {reason : Option String} (pending : Pending seen)
    (within : seen.length < left) :
    Builds conversation index left
      (conversation.indexPolls index seen ++
        [⟨.worker (.indexStatus index), .ok ⟨.completed, reason⟩⟩])
      (.ok ())
  /-- A poll saw that the index will not be completed. -/
  | failed {seen : List Snapshot} {status : Worker.Status} {reason : Option String}
    (pending : Pending seen) (within : seen.length < left)
    (ended : status = .failed ∨ status = .timedOut) :
    Builds conversation index left
      (conversation.indexPolls index seen ++ [⟨.worker (.indexStatus index), .ok ⟨status, reason⟩⟩])
      (.error (.indexFailed index (reason.getD "indexing failed")))
  /-- All polls saw the index pending. -/
  | timedOut {seen : List Snapshot} (pending : Pending seen) (all : seen.length = left) :
    Builds conversation index left (conversation.indexPolls index seen)
      (.error (.timedOut index conversation.maxPolls))

theorem indexPolls_cons (index : String) (snapshot : Snapshot) (seen : List Snapshot) :
    conversation.indexPolls index (snapshot :: seen) =
      ⟨.worker (.indexStatus index), .ok snapshot⟩ :: ⟨.pause conversation.pollIntervalMs, ()⟩ ::
        conversation.indexPolls index seen :=
  rfl

/-- A poll that sees the index pending leaves one poll less. -/
theorem Builds.later {index : String} {left : Nat} {snapshot : Snapshot}
    {result : Except Failure Unit} (still : snapshot.status.isPending = true)
    (builds : Builds conversation index left history result) :
    Builds conversation index (left + 1) (⟨.worker (.indexStatus index), .ok snapshot⟩ ::
      ⟨.pause conversation.pollIntervalMs, ()⟩ :: history) result := by
  cases builds with
  | @refused seen failure pending within =>
    have more : Pending (snapshot :: seen) := pending_cons.mpr ⟨still, pending⟩
    exact .refused more (Nat.succ_lt_succ within)
  | @completed seen reason pending within =>
    have more : Pending (snapshot :: seen) := pending_cons.mpr ⟨still, pending⟩
    exact .completed more (Nat.succ_lt_succ within)
  | @failed seen status reason pending within ended =>
    have more : Pending (snapshot :: seen) := pending_cons.mpr ⟨still, pending⟩
    exact .failed more (Nat.succ_lt_succ within) ended
  | @timedOut seen pending all =>
    have more : Pending (snapshot :: seen) := pending_cons.mpr ⟨still, pending⟩
    exact .timedOut more (congrArg Nat.succ all)

/-- The waiting for an index follows the rules, whatever status is reported. -/
theorem builds_of_yields {index : String} {left : Nat} {result : Except Failure Unit}
    (yields : Yields (conversation.waitForIndex index left) history result) :
    Builds conversation index left history result := by
  -- the induction is on the polls that are left
  induction left generalizing history with
  | zero =>
    obtain ⟨rfl, rfl⟩ := yields_done_iff.mp yields
    have none : Pending [] := pending_nil
    exact .timedOut none rfl
  | succ left ih =>
    obtain ⟨answer, rest, rfl, goesOn⟩ := yields_ask_bind_iff.mp yields
    have first : ([] : List Snapshot).length < left + 1 := Nat.succ_pos left
    cases answer with
    | error failure =>
      obtain ⟨rfl, rfl⟩ := yields_done_iff.mp goesOn
      exact .refused pending_nil first
    | ok snapshot =>
      obtain ⟨status, reason⟩ := snapshot
      cases status with
      -- only here the loop goes on, after a wait
      | queued | running =>
        obtain ⟨_, later, rfl, waits⟩ := yields_ask_bind_iff.mp goesOn
        exact (ih waits).later rfl
      | completed =>
        obtain ⟨rfl, rfl⟩ := yields_done_iff.mp goesOn
        exact .completed pending_nil first
      | failed =>
        obtain ⟨rfl, rfl⟩ := yields_done_iff.mp goesOn
        exact .failed pending_nil first (.inl rfl)
      | timedOut =>
        obtain ⟨rfl, rfl⟩ := yields_done_iff.mp goesOn
        exact .failed pending_nil first (.inr rfl)

/-- Polls that see the index pending are followed by the waiting for it with the other polls. -/
theorem yields_indexPolls {index : String} {left : Nat} {seen : List Snapshot}
    (pending : Pending seen) {result : Except Failure Unit}
    (goesOn : Yields (conversation.waitForIndex index left) history result) :
    Yields (conversation.waitForIndex index (left + seen.length))
      (conversation.indexPolls index seen ++ history) result := by
  induction seen with
  | nil => exact goesOn
  | cons snapshot seen ih =>
    obtain ⟨still, rest⟩ := pending_cons.mp pending
    obtain ⟨status, reason⟩ := snapshot
    rw [indexPolls_cons]
    refine .ask_bind ?_
    cases status with
    | queued | running => exact .ask_bind (ih rest)
    | completed | failed | timedOut => cases still

/-- What the rules allow, the waiting for an index can do. -/
theorem yields_of_builds {index : String} {left : Nat} {result : Except Failure Unit}
    (builds : Builds conversation index left history result) :
    Yields (conversation.waitForIndex index left) history result := by
  -- as long as a poll is left, one can be made behind those that saw the index pending
  have more {seen : List Snapshot} (within : seen.length < left) :
      ∃ later, left = later + 1 + seen.length := ⟨left - 1 - seen.length, by omega⟩
  cases builds with
  | refused pending within =>
    obtain ⟨later, rfl⟩ := more within
    exact yields_indexPolls pending (.call _ (.done _))
  | completed pending within =>
    obtain ⟨later, rfl⟩ := more within
    exact yields_indexPolls pending (.call _ (.done _))
  | failed pending within ended =>
    obtain ⟨later, rfl⟩ := more within
    apply yields_indexPolls pending
    rcases ended with rfl | rfl <;> exact .call _ (.done _)
  | @timedOut seen pending all =>
    rw [← all, ← Nat.zero_add seen.length, ← List.append_nil (indexPolls _ _ _)]
    exact yields_indexPolls pending (.done _)

/-! ## One attempt

An attempt is a sequence of calls of which each can be its last. The rules name the call that
failed and the session as it was then, because that is what has to be given back. The worker is
asked for one thing only: what it creates is not the empty session and lists nothing yet
(`Fresh`); with the empty one, giving back would skip the call. -/

/-- A session that was created, with no index and no files yet. -/
def created (instructions id agent : String) : Event Call Answer :=
  ⟨.worker (.createSession instructions), .ok ⟨id, agent, none, []⟩⟩

/-- The question for an index over files, under a new name. -/
def indexing (files : List String) (now : Instant) (suffix : String)
    (answer : Except Failure String) : History Call Answer :=
  [⟨.clock, now⟩, ⟨.freshSuffix, suffix⟩,
    ⟨.worker (.createIndex (indexName now suffix) files), answer⟩]

/-- One attempt to set up a session, with what it acquired. -/
inductive Setup (conversation : Conversation) (instructions : String) (artifacts : List Artifact) :
    History Call Answer → Option Session → Except Failure Unit → Prop
  /-- No session was created. -/
  | refused {failure : Failure} :
    Setup conversation instructions artifacts
      [⟨.worker (.createSession instructions), .error failure⟩] none (.error failure)
  /-- An artifact was not accepted. -/
  | unsent {id agent : String} {sending : History Call Answer} {files : List String}
    {failure : Failure} (uploads : Uploads artifacts sending files (.error failure)) :
    Setup conversation instructions artifacts (created instructions id agent :: sending)
      (some ⟨id, agent, none, files⟩) (.error failure)
  /-- No index was made. -/
  | unindexed {id agent suffix : String} {sending : History Call Answer} {files : List String}
    {now : Instant} {failure : Failure} (uploads : Uploads artifacts sending files (.ok ())) :
    Setup conversation instructions artifacts
      (created instructions id agent :: (sending ++ indexing files now suffix (.error failure)))
      (some ⟨id, agent, none, files⟩) (.error failure)
  /-- The index was not completed. -/
  | unready {id agent suffix index : String} {sending waiting : History Call Answer}
    {files : List String} {now : Instant} {failure : Failure}
    (uploads : Uploads artifacts sending files (.ok ()))
    (builds : Builds conversation index conversation.maxPolls.toNat waiting (.error failure)) :
    Setup conversation instructions artifacts
      (created instructions id agent :: (sending ++ (indexing files now suffix (.ok index) ++
        ⟨.pause conversation.indexDelayMs, ()⟩ :: waiting)))
      (some ⟨id, agent, some index, files⟩) (.error failure)
  /-- The index was completed, and is attached or not. -/
  | attaching {id agent suffix index : String} {sending waiting : History Call Answer}
    {files : List String} {now : Instant} {attached : Except Failure Unit}
    (uploads : Uploads artifacts sending files (.ok ()))
    (builds : Builds conversation index conversation.maxPolls.toNat waiting (.ok ())) :
    Setup conversation instructions artifacts
      (created instructions id agent :: (sending ++ (indexing files now suffix (.ok index) ++
        ⟨.pause conversation.indexDelayMs, ()⟩ :: (waiting ++
          [⟨.worker (.attachIndex ⟨id, agent, some index, files⟩ index), attached⟩]))))
      (some ⟨id, agent, some index, files⟩) attached

/-- The sessions that were created in a history. -/
def creations (history : History Call Answer) : List Session :=
  history.filterMap fun
    | ⟨.worker (.createSession _), .ok session⟩ => some session
    | _ => none

/-- What is created is a session with an id or an agent, and with no index and no files yet.
Without this, what a session lists at the end could have been there from the beginning. -/
def Fresh (history : History Call Answer) : Prop :=
  ∀ session ∈ creations history, session ≠ .empty ∧ session.index = none ∧ session.files = []

theorem fresh_append {first second : History Call Answer} :
    Fresh (first ++ second) ↔ Fresh first ∧ Fresh second := by
  unfold Fresh creations
  rw [List.filterMap_append, List.forall_mem_append]

/-- An attempt goes and ends as the rules say, and returns the session that they name. Where
nothing was created that is the empty one. -/
theorem setup_of_yields {ended : Session × Except Failure Unit} (fresh : Fresh history)
    (yields : Yields (conversation.setUp instructions artifacts) history ended) :
    ∃ acquired, Setup conversation instructions artifacts history acquired ended.2 ∧
      ended.1 = acquired.getD .empty := by
  obtain ⟨answer, later, rfl, afterCreating⟩ := yields_ask_bind_iff.mp yields
  cases answer with
  | error failure =>
    obtain ⟨rfl, rfl⟩ := yields_done_iff.mp afterCreating
    exact ⟨none, .refused, rfl⟩
  | ok session =>
    -- a new session lists nothing, so what it lists later is what was acquired
    obtain ⟨-, unindexed, unsent⟩ := fresh session List.mem_cons_self
    obtain ⟨id, agent, index, files⟩ := session
    obtain rfl : index = none := unindexed
    obtain rfl : files = [] := unsent
    obtain ⟨sending, rest, uploaded, rfl, sends, afterSending⟩ := yields_bind_iff.mp afterCreating
    obtain ⟨files, uploads, acquired⟩ := uploads_of_yields sends
    obtain ⟨session, sent⟩ := uploaded
    obtain rfl : session = ⟨id, agent, none, files⟩ := acquired
    cases sent with
    | error failure =>
      obtain ⟨rfl, rfl⟩ := yields_done_iff.mp afterSending
      rw [List.append_nil]
      exact ⟨_, .unsent uploads, rfl⟩
    | ok _ =>
      -- the name of the index is made from the clock and a suffix, each asked for once
      obtain ⟨now, _, rfl, afterClock⟩ := yields_ask_bind_iff.mp afterSending
      obtain ⟨suffix, _, rfl, afterSuffix⟩ := yields_ask_bind_iff.mp afterClock
      obtain ⟨made, _, rfl, afterIndexing⟩ := yields_ask_bind_iff.mp afterSuffix
      cases made with
      | error failure =>
        obtain ⟨rfl, rfl⟩ := yields_done_iff.mp afterIndexing
        exact ⟨_, .unindexed uploads, rfl⟩
      | ok index =>
        obtain ⟨_, _, rfl, afterPause⟩ := yields_ask_bind_iff.mp afterIndexing
        obtain ⟨waiting, rest, waited, rfl, waits, afterWaiting⟩ := yields_bind_iff.mp afterPause
        have builds := builds_of_yields waits
        cases waited with
        | error failure =>
          obtain ⟨rfl, rfl⟩ := yields_done_iff.mp afterWaiting
          rw [List.append_nil]
          exact ⟨_, .unready uploads builds, rfl⟩
        | ok _ =>
          obtain ⟨attached, _, rfl, ends⟩ := yields_ask_bind_iff.mp afterWaiting
          obtain ⟨rfl, rfl⟩ := yields_done_iff.mp ends
          exact ⟨_, .attaching uploads builds, rfl⟩

theorem yields_of_setup {acquired : Option Session} {result : Except Failure Unit}
    (setup : Setup conversation instructions artifacts history acquired result) :
    Yields (conversation.setUp instructions artifacts) history
      (acquired.getD .empty, result) := by
  cases setup with
  | refused => exact .call _ (.done _)
  | @unsent id agent sending files failure uploads =>
    rw [← List.append_nil sending]
    refine .ask_bind ((yields_of_uploads uploads).bind ?_)
    exact .done _
  | unindexed uploads =>
    refine .ask_bind ((yields_of_uploads uploads).bind ?_)
    exact .ask_bind (.ask_bind (.ask_bind (.done _)))
  | @unready id agent suffix index sending waiting files now failure uploads builds =>
    rw [← List.append_nil waiting]
    refine .ask_bind ((yields_of_uploads uploads).bind ?_)
    refine .ask_bind (.ask_bind (.ask_bind (.ask_bind ?_)))
    exact (yields_of_builds builds).bind (.done _)
  -- the last rule goes through every call of the attempt, the others stop on the way
  | attaching uploads builds =>
    refine .ask_bind ((yields_of_uploads uploads).bind ?_)
    refine .ask_bind (.ask_bind (.ask_bind (.ask_bind ?_)))
    exact (yields_of_builds builds).bind (.ask_bind (.done _))

/-! ## Attempts

The loop over the attempts branches on one attempt and on what it leaves behind. That branch is
stated once for any continuation (`yields_attempt_iff`), so that it serves both the last attempt,
which returns its failure, and the ones before it, which try again. -/

/-- Giving back what was acquired: nothing, or all that a session lists, by a single call. -/
inductive GivenBack : Option Session → History Call Answer → Prop
  | nothing : GivenBack none []
  | all {session : Session} {answer : Except Failure Unit} :
    GivenBack (some session) [⟨.worker (.teardownSession session), answer⟩]

/-- Opening a session when so many attempts may follow on the first. -/
inductive Opens (conversation : Conversation) (instructions : String) (artifacts : List Artifact) :
    Nat → History Call Answer → Except Failure Session → Prop
  /-- The attempt succeeded. -/
  | opened {left : Nat} {attempt : History Call Answer} {session : Session}
    (setup : Setup conversation instructions artifacts attempt (some session) (.ok ())) :
    Opens conversation instructions artifacts left attempt (.ok session)
  /-- The last attempt failed. -/
  | exhausted {attempt closing : History Call Answer} {acquired : Option Session}
    {failure : Failure}
    (setup : Setup conversation instructions artifacts attempt acquired (.error failure))
    (givenBack : GivenBack acquired closing) :
    Opens conversation instructions artifacts 0 (attempt ++ closing) (.error failure)
  /-- The attempt failed, and what it acquired is given back before the next one. -/
  | again {left : Nat} {attempt closing later : History Call Answer} {acquired : Option Session}
    {failure : Failure} {result : Except Failure Session}
    (setup : Setup conversation instructions artifacts attempt acquired (.error failure))
    (givenBack : GivenBack acquired closing)
    (opens : Opens conversation instructions artifacts left later result) :
    Opens conversation instructions artifacts (left + 1) (attempt ++ (closing ++ later)) result

/-- What was acquired is not nothing: giving it back is a call, and not skipped as for the empty
session. -/
theorem Setup.ne_empty {acquired : Option Session} {result : Except Failure Unit}
    (fresh : Fresh history)
    (setup : Setup conversation instructions artifacts history acquired result) :
    ∀ session, acquired = some session → session ≠ .empty := by
  -- the id and the agent are those that the session was created with
  have kept {id agent : String} {index : Option String} {files : List String}
      {later : History Call Answer} (fresh : Fresh (created instructions id agent :: later)) :
      (⟨id, agent, index, files⟩ : Session) ≠ .empty := by
    rintro ⟨⟩
    exact (fresh .empty List.mem_cons_self).1 rfl
  rintro session rfl
  cases setup <;> exact kept fresh

theorem Setup.acquired_of_ok {acquired : Option Session}
    (setup : Setup conversation instructions artifacts history acquired (.ok ())) :
    ∃ session, acquired = some session := by
  cases setup
  exact ⟨_, rfl⟩

/-- Closing what was acquired is one call if there is anything to close. -/
theorem givenBack_of_yields {acquired : Option Session}
    (held : ∀ session, acquired = some session → session ≠ .empty)
    (yields : Yields (closeSession (acquired.getD .empty)) history ()) :
    GivenBack acquired history := by
  unfold closeSession at yields
  cases acquired with
  | none =>
    obtain ⟨rfl, -⟩ := yields_done_iff.mp yields
    exact .nothing
  | some session =>
    rw [Option.getD_some, if_neg (held session rfl)] at yields
    obtain ⟨answer, rest, rfl, ends⟩ := yields_call_iff.mp yields
    obtain ⟨rfl, -⟩ := yields_done_iff.mp ends
    exact .all

/-- Giving back can have any answer: it is ignored. -/
theorem yields_of_givenBack {acquired : Option Session}
    (held : ∀ session, acquired = some session → session ≠ .empty)
    (givenBack : GivenBack acquired history) :
    Yields (closeSession (acquired.getD .empty)) history () := by
  unfold closeSession
  cases givenBack with
  | nothing => exact .done ()
  | @all session answer =>
    rw [Option.getD_some, if_neg (held session rfl)]
    exact .ask_bind (.done ())

/-- An attempt that goes on in some way when it failed, after what it acquired was given back. -/
theorem yields_attempt_iff {failed : Failure → Run.Act (Except Failure Session)}
    {result : Except Failure Session} :
    Yields (conversation.setUp instructions artifacts >>= fun
      | (session, .ok ()) => return .ok session
      | (session, .error failure) => closeSession session >>= fun _ => failed failure)
      history result ↔
    (∃ session, result = .ok session ∧
      Yields (conversation.setUp instructions artifacts) history (session, .ok ())) ∨
    ∃ attempt closing later session failure, history = attempt ++ (closing ++ later) ∧
      Yields (conversation.setUp instructions artifacts) attempt (session, .error failure) ∧
        Yields (closeSession session) closing () ∧ Yields (failed failure) later result := by
  constructor
  · intro yields
    obtain ⟨attempt, rest, ⟨session, ended⟩, rfl, sets, goesOn⟩ := yields_bind_iff.mp yields
    cases ended with
    | ok _ =>
      obtain ⟨rfl, rfl⟩ := yields_done_iff.mp goesOn
      rw [List.append_nil]
      exact .inl ⟨session, rfl, sets⟩
    | error failure =>
      obtain ⟨closing, later, _, rfl, closes, fails⟩ := yields_bind_iff.mp goesOn
      exact .inr ⟨attempt, closing, later, session, failure, rfl, sets, closes, fails⟩
  · rintro (⟨session, rfl, sets⟩ |
      ⟨attempt, closing, later, session, failure, rfl, sets, closes, fails⟩)
    · rw [← List.append_nil history]
      exact sets.bind (.done _)
    · exact sets.bind (closes.bind fails)

/-- The same by the rules: an attempt either succeeds and is all of the history, or it fails,
gives back what it acquired and goes on. -/
theorem attempt_of_yields {failed : Failure → Run.Act (Except Failure Session)}
    {result : Except Failure Session} (fresh : Fresh history)
    (yields : Yields (conversation.setUp instructions artifacts >>= fun
      | (session, .ok ()) => return .ok session
      | (session, .error failure) => closeSession session >>= fun _ => failed failure)
      history result) :
    (∃ session, result = .ok session ∧
      Setup conversation instructions artifacts history (some session) (.ok ())) ∨
    ∃ attempt closing later acquired failure, history = attempt ++ (closing ++ later) ∧
      Setup conversation instructions artifacts attempt acquired (.error failure) ∧
        GivenBack acquired closing ∧ Yields (failed failure) later result := by
  rcases yields_attempt_iff.mp yields with
    ⟨session, rfl, sets⟩ | ⟨attempt, closing, later, session, failure, rfl, sets, closes, fails⟩
  · obtain ⟨acquired, setup, same⟩ := setup_of_yields fresh sets
    obtain ⟨held, rfl⟩ := setup.acquired_of_ok
    obtain rfl : session = held := same
    exact .inl ⟨session, rfl, setup⟩
  · obtain ⟨freshAttempt, -⟩ := fresh_append.mp fresh
    obtain ⟨acquired, setup, rfl⟩ := setup_of_yields freshAttempt sets
    have givenBack := givenBack_of_yields (setup.ne_empty freshAttempt) closes
    exact .inr ⟨attempt, closing, later, acquired, failure, rfl, setup, givenBack, fails⟩

/-- The opening follows the rules: the first attempt that succeeds ends it. -/
theorem opens_of_yields {left : Nat} {result : Except Failure Session} (fresh : Fresh history)
    (yields : Yields (conversation.openWithin instructions artifacts left) history result) :
    Opens conversation instructions artifacts left history result := by
  -- the induction is on the attempts that are left
  induction left generalizing history with
  | zero =>
    rcases attempt_of_yields fresh yields with
      ⟨session, rfl, setup⟩ | ⟨attempt, closing, later, acquired, failure, rfl, setup, gone, fails⟩
    · exact .opened setup
    · obtain ⟨rfl, rfl⟩ := yields_done_iff.mp fails
      rw [List.append_nil]
      exact .exhausted setup gone
  | succ left ih =>
    rcases attempt_of_yields fresh yields with
      ⟨session, rfl, setup⟩ | ⟨attempt, closing, later, acquired, failure, rfl, setup, gone, opens⟩
    · exact .opened setup
    · -- the rest of the history creates only new sessions as well, so the induction applies to it
      obtain ⟨-, freshRest⟩ := fresh_append.mp fresh
      exact .again setup gone (ih (fresh_append.mp freshRest).2 opens)

/-- What the rules allow, the opening of a session can do. -/
theorem yields_of_opens {left : Nat} {result : Except Failure Session} (fresh : Fresh history)
    (opens : Opens conversation instructions artifacts left history result) :
    Yields (conversation.openWithin instructions artifacts left) history result := by
  induction opens with
  | @opened left attempt session setup =>
    rw [← List.append_nil attempt]
    -- with attempts left or without, a success returns at once
    cases left <;> exact (yields_of_setup setup).bind (.done _)
  | @exhausted attempt closing acquired failure setup givenBack =>
    have nonempty := setup.ne_empty (fresh_append.mp fresh).1
    rw [← List.append_nil closing]
    apply (yields_of_setup setup).bind
    exact (yields_of_givenBack nonempty givenBack).bind (.done _)
  | again setup givenBack opens ih =>
    obtain ⟨freshAttempt, freshRest⟩ := fresh_append.mp fresh
    have nonempty := setup.ne_empty freshAttempt
    apply (yields_of_setup setup).bind
    exact (yields_of_givenBack nonempty givenBack).bind (ih (fresh_append.mp freshRest).2)

/-! ## What the sessions list

The rules say which calls are made, the ledger says that they are made with the right session. It
is a monitor whose state is what is held; each relation above leads from what was held before it
to what is held after it, and `Leads.append` puts them together. So the whole opening needs no
more than one lemma for each relation. -/

/-- A call that passes on what is held, and exactly that: an index is made of the files that were
uploaded, it is that index which is asked for and attached, a session is created when nothing is
held, and what is given back is all that is held. -/
def Lists (held : Session) : Call → Prop
  | .worker (.createSession _) => held = .empty
  | .worker (.createIndex _ files) => held.index = none ∧ files = held.files
  | .worker (.indexStatus index) => held.index = some index
  | .worker (.attachIndex session index) => session = held ∧ held.index = some index
  | .worker (.teardownSession session) => session = held ∧ held ≠ .empty
  | _ => True

/-- The monitor that holds every call against what is held before it. -/
def ledger : Monitor Call Answer Session where
  note := hold
  permits := Lists

/-- A history whose calls pass on what is held, from what is held before it to what is after it. -/
def Leads (held : Session) (history : History Call Answer) (later : Session) : Prop :=
  ledger.Accepts held history ∧ ledger.after held history = later

theorem leads_nil (held : Session) : Leads held [] held :=
  ⟨trivial, rfl⟩

theorem leads_cons {held later : Session} {event : Event Call Answer}
    (listed : Lists held event.1) (rest : Leads (hold held event.1 event.2) history later) :
    Leads held (event :: history) later :=
  ⟨⟨listed, rest.1⟩, rest.2⟩

theorem Leads.append {held middle later : Session} {rest : History Call Answer}
    (first : Leads held history middle) (second : Leads middle rest later) :
    Leads held (history ++ rest) later := by
  obtain ⟨accepted, rfl⟩ := first
  refine ⟨Monitor.accepts_append.mpr ⟨accepted, second.1⟩, ?_⟩
  rw [Monitor.after_append]
  exact second.2

theorem leads_uploads (sent : List (Artifact × String)) (held : Session) :
    Leads held (sent.map upload) { held with files := held.files ++ sent.map (·.2) } := by
  induction sent generalizing held with
  | nil => simpa using leads_nil held
  | cons first sent ih =>
    have rest := ih { held with files := held.files ++ [first.2] }
    rw [List.append_assoc] at rest
    exact leads_cons trivial rest

theorem Uploads.leads {files : List String} {result : Except Failure Unit}
    (uploads : Uploads artifacts history files result) (held : Session) :
    Leads held history { held with files := held.files ++ files } := by
  cases uploads with
  | refused sent order =>
    exact (leads_uploads sent held).append (leads_cons trivial (leads_nil _))
  | all sent order => exact leads_uploads sent held

theorem Builds.leads {index : String} {left : Nat} {result : Except Failure Unit}
    (builds : Builds conversation index left history result) {held : Session}
    (made : held.index = some index) : Leads held history held := by
  have calls : ∀ event ∈ history, AwaitsIndex index event.1 :=
    (only_waitForIndex conversation index left).of_mem (yields_of_builds builds)
  -- polls and waits acquire nothing, so what is held stays the same all the way
  refine Monitor.accepts_of_kept (· = held) calls rfl ?_
  rintro _ call (⟨ms, rfl⟩ | rfl) rfl
  · exact ⟨trivial, fun _ => rfl⟩
  · exact ⟨made, fun _ => rfl⟩

/-- An attempt begins with nothing and ends with what it acquired. -/
theorem Setup.leads {acquired : Option Session} {result : Except Failure Unit}
    (setup : Setup conversation instructions artifacts history acquired result) :
    Leads .empty history (acquired.getD .empty) := by
  cases setup with
  | refused => exact leads_cons rfl (leads_nil _)
  | @unsent id agent sending files failure uploads =>
    exact leads_cons rfl (uploads.leads ⟨id, agent, none, []⟩)
  | @unindexed id agent suffix sending files now failure uploads =>
    refine leads_cons rfl ((uploads.leads ⟨id, agent, none, []⟩).append ?_)
    exact leads_cons trivial (leads_cons trivial (leads_cons ⟨rfl, rfl⟩ (leads_nil _)))
  | @unready id agent suffix index sending waiting files now failure uploads builds =>
    refine leads_cons rfl ((uploads.leads ⟨id, agent, none, []⟩).append ?_)
    refine leads_cons trivial (leads_cons trivial (leads_cons ⟨rfl, rfl⟩ (leads_cons trivial ?_)))
    exact builds.leads rfl
  | @attaching id agent suffix index sending waiting files now attached uploads builds =>
    refine leads_cons rfl ((uploads.leads ⟨id, agent, none, []⟩).append ?_)
    refine leads_cons trivial (leads_cons trivial (leads_cons ⟨rfl, rfl⟩ (leads_cons trivial ?_)))
    exact (builds.leads rfl).append (leads_cons ⟨rfl, rfl⟩ (leads_nil _))

/-- Giving back begins with what was acquired and ends with nothing. -/
theorem GivenBack.leads {acquired : Option Session}
    (held : ∀ session, acquired = some session → session ≠ .empty)
    (givenBack : GivenBack acquired history) : Leads (acquired.getD .empty) history .empty := by
  cases givenBack with
  | nothing => exact leads_nil _
  | all => exact leads_cons ⟨rfl, held _ rfl⟩ (leads_nil _)

/-- What is held when the opening is over. -/
def kept : Except Failure Session → Session
  | .ok session => session
  | .error _ => .empty

/-- Attempt by attempt the ledger begins and ends with nothing, up to the one that succeeds. -/
theorem Opens.leads {left : Nat} {result : Except Failure Session} (fresh : Fresh history)
    (opens : Opens conversation instructions artifacts left history result) :
    Leads .empty history (kept result) := by
  induction opens with
  | opened setup => exact setup.leads
  | exhausted setup givenBack =>
    have nonempty := setup.ne_empty (fresh_append.mp fresh).1
    exact setup.leads.append (givenBack.leads nonempty)
  | again setup givenBack opens ih =>
    obtain ⟨freshAttempt, freshRest⟩ := fresh_append.mp fresh
    have closed := givenBack.leads (setup.ne_empty freshAttempt)
    exact setup.leads.append (closed.append (ih (fresh_append.mp freshRest).2))

/-- A session is opened by as many attempts as there are retries and one more. Where 32 bits do not
hold that number nothing is called, and there is neither a session nor a failure. -/
theorem yields_openSession_iff {opened : Except Panic (Except Failure Session)} :
    Yields (conversation.openSession instructions artifacts) history opened ↔
      (∃ result, opened = .ok result ∧ conversation.sessionRetries.toNat + 1 < UInt32.size ∧
        Yields (conversation.openWithin instructions artifacts conversation.sessionRetries.toNat)
          history result) ∨
      (conversation.sessionRetries.toNat + 1 = UInt32.size ∧ opened = .error .addOverflow ∧
        history = []) := by
  -- the number of attempts is computed before the first one is made, so this case comes first
  rcases openSession_cases conversation instructions artifacts with ⟨fits, same⟩ | ⟨all, same⟩
  · rw [same]
    constructor
    · intro yields
      obtain ⟨first, rest, result, rfl, opens, ends⟩ := yields_bind_iff.mp yields
      obtain ⟨rfl, rfl⟩ := yields_done_iff.mp ends
      rw [List.append_nil]
      exact .inl ⟨result, rfl, fits, opens⟩
    · rintro (⟨result, rfl, -, opens⟩ | ⟨all, -, -⟩)
      · rw [← List.append_nil history]
        exact opens.bind (.done _)
      · exact absurd all (Nat.ne_of_lt fits)
  · rw [same]
    constructor
    · intro yields
      obtain ⟨rfl, rfl⟩ := yields_done_iff.mp yields
      exact .inr ⟨all, rfl, rfl⟩
    · rintro (⟨result, -, fits, -⟩ | ⟨-, rfl, rfl⟩)
      · exact absurd all (Nat.ne_of_lt fits)
      · exact .done _

/-- **What the opening of a session does.** As long as every session that the worker creates has an
id or an agent and neither an index nor files, the histories and results of an opening are exactly
those of the rules: attempts up to the first that succeeds, each up to its first failing call, and
after a failed one a single call that gives back what it acquired. On the way every session that is
passed on lists exactly what is held, and at the end that is the session that was opened, or
nothing. Only with as many retries as 32 bits hold there is no attempt: the opening panics, and the
worker is not called at all. -/
theorem openSession_exact (conversation : Conversation) (instructions : String)
    (artifacts : List Artifact) {history : History Call Answer} (fresh : Fresh history) :
    (∀ result, Yields (conversation.openSession instructions artifacts) history (.ok result) ↔
      conversation.sessionRetries.toNat + 1 < UInt32.size ∧
        Opens conversation instructions artifacts conversation.sessionRetries.toNat history
          result) ∧
    (∀ result, Yields (conversation.openSession instructions artifacts) history (.ok result) →
      Leads .empty history (kept result)) ∧
    (∀ cause, Yields (conversation.openSession instructions artifacts) history (.error cause) ↔
      conversation.sessionRetries.toNat + 1 = UInt32.size ∧ history = []) := by
  have exactly (result : Except Failure Session) :
      Yields (conversation.openSession instructions artifacts) history (.ok result) ↔
        conversation.sessionRetries.toNat + 1 < UInt32.size ∧
          Opens conversation instructions artifacts conversation.sessionRetries.toNat history
            result := by
    rw [yields_openSession_iff]
    constructor
    · rintro (⟨_, ⟨⟩, fits, opens⟩ | ⟨-, ⟨⟩, -⟩)
      exact ⟨fits, opens_of_yields fresh opens⟩
    · rintro ⟨fits, opens⟩
      exact .inl ⟨result, rfl, fits, yields_of_opens fresh opens⟩
  refine ⟨exactly, fun result yields => ((exactly result).mp yields).2.leads fresh, fun cause => ?_⟩
  rw [yields_openSession_iff]
  constructor
  · rintro (⟨_, ⟨⟩, -⟩ | ⟨all, -, nothing⟩)
    exact ⟨all, nothing⟩
  · rintro ⟨all, nothing⟩
    -- there is one kind of panic here, the addition
    cases cause
    exact .inr ⟨all, rfl, nothing⟩

/-- Two attempts, and two polls for an index in each of them. -/
def twice : Conversation where
  pollIntervalMs := 7
  maxPolls := 2
  indexDelayMs := 5
  sessionRetries := 1

/-- The one artifact that is sent along. -/
def note : Artifact :=
  ⟨"note", ⟨"note.md"⟩⟩

/-- An attempt of `twice` with one artifact that comes to the waiting for its index. -/
def attempt (id agent file suffix index : String) (waiting : History Call Answer) :
    History Call Answer :=
  created "help" id agent :: ([(note, file)].map upload ++
    (indexing [file] ⟨0, 0⟩ suffix (.ok index) ++ ⟨.pause twice.indexDelayMs, ()⟩ :: waiting))

/-- The first attempt fails at its index, and giving it back fails as well. The second attempt sees
its index pending and then completed, and attaches it. -/
def secondChance : History Call Answer :=
  attempt "thread" "agent" "file" "aaaaaaaa" "index"
      [⟨.worker (.indexStatus "index"), .ok ⟨.failed, none⟩⟩] ++
    ([⟨.worker (.teardownSession ⟨"thread", "agent", some "index", ["file"]⟩),
      .error (.api 500 "busy")⟩] ++
    attempt "other thread" "other agent" "other file" "bbbbbbbb" "other index"
      ((twice.indexPolls "other index" [⟨.queued, none⟩] ++
        [⟨.worker (.indexStatus "other index"), .ok ⟨.completed, none⟩⟩]) ++
        [⟨.worker (.attachIndex ⟨"other thread", "other agent", some "other index", ["other file"]⟩
          "other index"), .ok ()⟩]))

/-- What is opened by the second attempt lists nothing of the first. -/
theorem openSession_exact_second_chance :
    Fresh secondChance ∧
      Yields (twice.openSession "help" [note]) secondChance
        (.ok (.ok ⟨"other thread", "other agent", some "other index", ["other file"]⟩)) ∧
      Leads .empty secondChance
        ⟨"other thread", "other agent", some "other index", ["other file"]⟩ := by
  have fresh : Fresh secondChance := by
    unfold Fresh
    decide
  have nothing : Pending [] := pending_nil
  have once : Pending [⟨.queued, none⟩] := pending_cons.mpr ⟨rfl, nothing⟩
  have uploads (file : String) :
      Uploads [note] ([(note, file)].map upload) [file] (.ok ()) := .all [(note, file)] rfl
  have failed : Builds twice "index" twice.maxPolls.toNat
      [⟨.worker (.indexStatus "index"), .ok ⟨.failed, none⟩⟩]
      (.error (.indexFailed "index" "indexing failed")) :=
    .failed nothing (by decide) (.inl rfl)
  have completed : Builds twice "other index" twice.maxPolls.toNat
      (twice.indexPolls "other index" [⟨.queued, none⟩] ++
        [⟨.worker (.indexStatus "other index"), .ok ⟨.completed, none⟩⟩]) (.ok ()) :=
    .completed once (by decide)
  have yields : Yields (twice.openSession "help" [note]) secondChance
      (.ok (.ok ⟨"other thread", "other agent", some "other index", ["other file"]⟩)) := by
    refine ((openSession_exact twice "help" [note] fresh).1 _).mpr ⟨by decide, ?_⟩
    refine .again (.unready (uploads "file") failed) .all (.opened ?_)
    exact .attaching (uploads "other file") completed
  exact ⟨fresh, yields, (openSession_exact twice "help" [note] fresh).2.1 _ yields⟩

end Conversation

end AzcRepair
