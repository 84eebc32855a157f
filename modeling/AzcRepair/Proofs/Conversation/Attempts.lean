import AzcRepair.Proofs.Conversation.Setup
import AzcRepair.Proofs.Run.Costs
import AzcRepair.Proofs.Settings.Demands

/-!
# How often a setup is tried

The opening of a session tries to set one up until that succeeds or no attempt is left. The attempts
are counted, and each of them is taken as a whole, whatever the worker answers in it.

* `Tries` — attempts in a row: all but the last one failed, and the last one decides.
* `Tries.begun` — every attempt begins by creating a session, and nothing else creates one.
* `tries_of_yields`, `yields_of_tries` — the openings that make so many attempts, by induction.
* `openSession_attempts` — one attempt more than there are retries, or a panic when 32 bits do not
  hold that number, as in the settings of `openSession_panics`.
-/

namespace AzcRepair

open Procedure (Event History Yields yields_done_iff)

namespace Conversation

open Run (Answer AwaitsIndex Call Panic only_uploadAll only_waitForIndex)
open Worker (Artifact Failure Session)

variable {conversation : Conversation} {instructions : String} {artifacts : List Artifact}
  {history : History Call Answer}

/-- So many attempts, and what they come to: the session of the last one, or its failure. What a
failed attempt acquired is given back before the next one begins. -/
inductive Tries (conversation : Conversation) (instructions : String) (artifacts : List Artifact) :
    Nat → History Call Answer → Except Failure Session → Prop
  /-- The attempt succeeded, and there is no other. -/
  | opened {attempt : History Call Answer} {session : Session}
    (sets : Yields (conversation.setUp instructions artifacts) attempt (session, .ok ())) :
    Tries conversation instructions artifacts 1 attempt (.ok session)
  /-- The attempt failed, and there is no other. -/
  | failed {attempt closing : History Call Answer} {session : Session} {failure : Failure}
    (sets : Yields (conversation.setUp instructions artifacts) attempt (session, .error failure))
    (closes : Yields (closeSession session) closing ()) :
    Tries conversation instructions artifacts 1 (attempt ++ closing) (.error failure)
  /-- The attempt failed, and is followed by others. -/
  | again {more : Nat} {attempt closing later : History Call Answer} {session : Session}
    {failure : Failure} {result : Except Failure Session}
    (sets : Yields (conversation.setUp instructions artifacts) attempt (session, .error failure))
    (closes : Yields (closeSession session) closing ())
    (tries : Tries conversation instructions artifacts more later result) :
    Tries conversation instructions artifacts (more + 1) (attempt ++ (closing ++ later)) result

/-- Before anything is known about the worker an attempt is made: there is no opening without one.
-/
theorem Tries.pos {made : Nat} {result : Except Failure Session}
    (tries : Tries conversation instructions artifacts made history result) : 0 < made := by
  cases tries with
  | opened | failed => exact Nat.one_pos
  | again => exact Nat.succ_pos _

/-! ## Counting attempts

An attempt can be told from the history alone: it creates a session, or is refused one, exactly
once and at its beginning. So the number of attempts is a number of events. That is shown by a
monitor that counts, walked once through an attempt and once through what gives it back. -/

/-- An attempt begins: a session is to be created. -/
def begins : Event Call Answer → Bool
  | ⟨.worker (.createSession _), _⟩ => true
  | _ => false

/-- One attempt creates a session once, however it ends. -/
theorem begun_of_setUp {ended : Session × Except Failure Unit}
    (sets : Yields (conversation.setUp instructions artifacts) history ended) :
    history.countP begins = 1 := by
  have walk : (Monitor.counter begins).Ensures (conversation.setUp instructions artifacts) 0
      fun _ begun => begun = 1 := by
    -- the count is one after the first call; what follows must not add to it
    refine Monitor.ensures_ask_bind.mpr ⟨trivial, fun created => ?_⟩
    cases created with
    | error failure => rfl
    | ok session =>
      have uploads : ∀ call answer, Run.Uploads call → begins ⟨call, answer⟩ = false := by
        rintro _ answer ⟨artifact, rfl⟩
        rfl
      apply Monitor.ensures_bind.mpr
      refine Monitor.ensures_uncounted (only_uploadAll session artifacts) uploads ?_
      rintro ⟨session, failure | _⟩
      · rfl
      refine Monitor.ensures_ask_bind.mpr ⟨trivial, fun now => ?_⟩
      refine Monitor.ensures_ask_bind.mpr ⟨trivial, fun suffix => ?_⟩
      refine Monitor.ensures_ask_bind.mpr ⟨trivial, fun made => ?_⟩
      cases made with
      | error failure => rfl
      | ok index =>
        refine Monitor.ensures_ask_bind.mpr ⟨trivial, fun _ => ?_⟩
        have awaits : ∀ call answer, AwaitsIndex index call → begins ⟨call, answer⟩ = false := by
          rintro _ answer (⟨ms, rfl⟩ | rfl) <;> rfl
        apply Monitor.ensures_bind.mpr
        refine Monitor.ensures_uncounted (only_waitForIndex conversation index _) awaits ?_
        intro waited
        cases waited with
        | error failure => rfl
        | ok _ => exact ⟨trivial, fun attached => rfl⟩
  have counted := (walk.sound sets).2
  rw [Monitor.counter_after, Nat.zero_add] at counted
  exact counted

theorem begun_of_closeSession {session : Session} (closes : Yields (closeSession session) history ()) :
    history.countP begins = 0 := by
  have walk : (Monitor.counter begins).Ensures (closeSession session) 0 fun _ begun => begun = 0 := by
    unfold closeSession
    split
    · rfl
    · exact Run.ensures_discard.mpr ⟨trivial, fun _ => rfl⟩
  have counted := (walk.sound closes).2
  rw [Monitor.counter_after, Nat.zero_add] at counted
  exact counted

/-- As many sessions were asked for as attempts were made. -/
theorem Tries.begun {made : Nat} {result : Except Failure Session}
    (tries : Tries conversation instructions artifacts made history result) :
    history.countP begins = made := by
  induction tries with
  | opened sets => exact begun_of_setUp sets
  | failed sets closes => rw [List.countP_append, begun_of_setUp sets, begun_of_closeSession closes]
  | again sets closes tries ih =>
    rw [List.countP_append, List.countP_append, begun_of_setUp sets, begun_of_closeSession closes, ih]
    omega

/-! ## Openings

The openings are exactly the attempts in a row that stop in time. In one direction the induction
is on the attempts that are left, in the other on the attempts that were made. -/

/-- An opening makes attempts, at most one more than are left, and that many before it is given
up. -/
theorem tries_of_yields {left : Nat} {result : Except Failure Session}
    (yields : Yields (conversation.openWithin instructions artifacts left) history result) :
    ∃ made, Tries conversation instructions artifacts made history result ∧ made ≤ left + 1 ∧
      ∀ failure, result = .error failure → made = left + 1 := by
  -- the induction is on the attempts that are left
  induction left generalizing history with
  | zero =>
    rcases yields_attempt_iff.mp yields with
      ⟨session, rfl, sets⟩ | ⟨attempt, closing, later, session, failure, rfl, sets, closes, ends⟩
    · exact ⟨1, .opened sets, Nat.le_refl 1, nofun⟩
    · obtain ⟨rfl, rfl⟩ := yields_done_iff.mp ends
      rw [List.append_nil]
      exact ⟨1, .failed sets closes, Nat.le_refl 1, fun _ _ => rfl⟩
  | succ left ih =>
    rcases yields_attempt_iff.mp yields with
      ⟨session, rfl, sets⟩ | ⟨attempt, closing, later, session, failure, rfl, sets, closes, opens⟩
    · exact ⟨1, .opened sets, Nat.succ_pos _, nofun⟩
    · obtain ⟨more, tries, within, all⟩ := ih opens
      refine ⟨more + 1, .again sets closes tries, Nat.succ_le_succ within, fun failure gaveUp => ?_⟩
      rw [all failure gaveUp]

/-- Attempts that stop at a success, or when no other is left, are an opening. -/
theorem yields_of_tries {left made : Nat} {result : Except Failure Session}
    (tries : Tries conversation instructions artifacts made history result)
    (within : made ≤ left + 1) (all : ∀ failure, result = .error failure → made = left + 1) :
    Yields (conversation.openWithin instructions artifacts left) history result := by
  induction tries generalizing left with
  | opened sets =>
    cases left <;> exact yields_attempt_iff.mpr (.inl ⟨_, rfl, sets⟩)
  | @failed attempt closing session failure sets closes =>
    -- the attempt failed and is the last, so none may be left
    have last : 1 = left + 1 := all failure rfl
    obtain rfl : left = 0 := by omega
    rw [← List.append_nil closing]
    exact yields_attempt_iff.mpr (.inr ⟨_, _, _, _, _, rfl, sets, closes, .done _⟩)
  | @again more attempt closing later session failure result sets closes tries ih =>
    -- one more was made, so one was left
    have another : 0 < more := tries.pos
    obtain ⟨left, rfl⟩ : ∃ fewer, left = fewer + 1 := ⟨left - 1, by omega⟩
    have opens : Yields (conversation.openWithin instructions artifacts left) later result := by
      refine ih (by omega) fun failure gaveUp => ?_
      have last := all failure gaveUp
      omega
    exact yields_attempt_iff.mpr (.inr ⟨_, _, _, _, _, rfl, sets, closes, opens⟩)

/-- **How often a setup is tried.** Whatever the worker answers, an opening consists of attempts of
which each but the last one failed. It ends with the session of the first attempt that succeeds, or
with the failure of the last of the attempts that it has, which are one more than there are retries.
Every attempt has a number that 32 bits hold. There is one exception: with as many retries as 32
bits hold, the attempts cannot be counted, and the opening panics before it makes the first one. -/
theorem openSession_attempts (conversation : Conversation) (instructions : String)
    (artifacts : List Artifact) (history : History Call Answer)
    (result : Except Panic (Except Failure Session)) :
    Yields (conversation.openSession instructions artifacts) history result ↔
      (conversation.sessionRetries.toNat + 1 < UInt32.size ∧
        ∃ made opened, result = .ok opened ∧
          Tries conversation instructions artifacts made history opened ∧
          history.countP begins = made ∧ made ≤ conversation.sessionRetries.toNat + 1 ∧
          made < UInt32.size ∧
          ∀ failure, opened = .error failure → made = conversation.sessionRetries.toNat + 1) ∨
      (conversation.sessionRetries.toNat + 1 = UInt32.size ∧ result = .error .addOverflow ∧
        history = []) := by
  rw [yields_openSession_iff]
  -- the exception is the same on both sides, so only openings that make attempts are compared
  refine or_congr_left ⟨?_, ?_⟩
  · rintro ⟨opened, rfl, fits, opens⟩
    obtain ⟨made, tries, within, all⟩ := tries_of_yields opens
    exact ⟨fits, made, opened, rfl, tries, tries.begun, within, Nat.lt_of_le_of_lt within fits, all⟩
  · rintro ⟨fits, made, opened, rfl, tries, -, within, -, all⟩
    exact ⟨opened, rfl, fits, yields_of_tries tries within all⟩

/-- Accepted settings with as many retries as 32 bits hold: the worker is not called at all, and no
answer of it would lead to a session or to a failure. -/
theorem openSession_panics :
    let settings : Settings :=
      { worker := { endpoint := "http://localhost", sessionRetries := 4294967295 } }
    let opening := (ofSettings settings.worker).openSession "help" []
    settings.check = .ok () ∧ Yields opening [] (.error .addOverflow) ∧
      ¬ ∃ history opened, Yields opening history (.ok opened) := by
  intro settings opening
  have accepted : settings.check = .ok () := Settings.check_eq_ok_iff.mpr (by decide +kernel)
  have greatest : (ofSettings settings.worker).sessionRetries.toNat + 1 = UInt32.size := by decide
  refine ⟨accepted, yields_openSession_iff.mpr (.inr ⟨greatest, rfl, rfl⟩), ?_⟩
  rintro ⟨history, opened, yields⟩
  rcases yields_openSession_iff.mp yields with ⟨_, -, fits, -⟩ | ⟨-, ⟨⟩, -⟩
  exact absurd greatest (Nat.ne_of_lt fits)

end Conversation

end AzcRepair
