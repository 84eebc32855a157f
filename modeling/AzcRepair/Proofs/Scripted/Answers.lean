import AzcRepair.Proofs.Conversation.Answers
import AzcRepair.Proofs.Scripted.Worker

/-!
# A reply belongs to its request

Whatever was said before, in this conversation and in others, the text that a dispatch returns is
what came into its conversation after its own request. For a scripted worker that is the text of the
script which the job of the dispatch followed, however often it was polled.

* `exists_script_of_dispatch` — the script of a dispatch and what it put into the conversation.
* `answers_own_request` — the replies of every sequence of posts and dispatches.
-/

namespace AzcRepair

open Procedure (Event History Yields yields_ask_bind_iff yields_bind_iff yields_call_iff
  yields_done_iff)

namespace Conversation

open Run (Answer Call)
open Worker (Session Message Failure)
open Scripted (JobScript)
open Scripted.Worker (Continues isStart)

variable {conversation : Conversation} {session : Session} {history : History Call Answer}

/-! ## The events of turns

Of all the events of a turn only two matter to a scripted worker: the message that is posted and
the job that is started. The rest of a dispatch polls, waits and reads, which starts nothing and
opens nothing. -/

/-- The event neither says nor starts anything. -/
def Quiet : Event Call Answer → Prop
  | ⟨.pause _, _⟩ | ⟨.worker (.pollJob ..), _⟩ | ⟨.worker (.readTranscript _), _⟩ => True
  | _ => False

theorem Quiet.continues {event : Event Call Answer} (quiet : Quiet event) :
    Continues event ∧ isStart event = false := by
  unfold Quiet at quiet
  split at quiet
  · exact ⟨trivial, rfl⟩
  · exact ⟨trivial, rfl⟩
  · exact ⟨trivial, rfl⟩
  · cases quiet

theorem quiet_of_waitForJob {left : Nat} {job : Worker.Job} {waited : Except Failure Worker.Job}
    (yields : Yields (conversation.waitForJob session job left) history waited) :
    ∀ event ∈ history, Quiet event := by
  -- the induction is on the polls that are left; each of them is a pause and a poll
  induction left generalizing job history with
  | zero =>
    obtain ⟨rfl, -⟩ := yields_done_iff.mp yields
    exact List.forall_mem_nil _
  | succ left ih =>
    obtain ⟨-, polling, rfl, polls⟩ := yields_ask_bind_iff.mp yields
    obtain ⟨answer, rest, rfl, goesOn⟩ := yields_ask_bind_iff.mp polls
    refine List.forall_mem_cons.mpr ⟨trivial, List.forall_mem_cons.mpr ⟨trivial, ?_⟩⟩
    have ended {result : Except Failure Worker.Job} (ends : Yields (.done result) rest waited) :
        ∀ event ∈ rest, Quiet event := by
      obtain ⟨rfl, -⟩ := yields_done_iff.mp ends
      exact List.forall_mem_nil _
    split at goesOn
    · exact ended goesOn
    · split at goesOn
      · exact ended goesOn
      · split at goesOn
        · exact ended goesOn
        · exact ended goesOn
        all_goals exact ih goesOn

/-- A dispatch posts its request and, unless that is refused, starts one job; the rest is quiet. -/
theorem exists_rest_of_dispatch {request : Request} {result : Except Failure String}
    (yields : Yields (conversation.dispatch session request) history result) :
    (∃ failure, history = [⟨.worker (.sendMessage session request.body), .error failure⟩]) ∨
      ∃ message started rest,
        history = ⟨.worker (.sendMessage session request.body), .ok message⟩ ::
          ⟨.worker (.startJob session), started⟩ :: rest ∧ ∀ event ∈ rest, Quiet event := by
  obtain ⟨posted, starting, rfl, starts⟩ := yields_ask_bind_iff.mp yields
  cases posted with
  | error failure =>
    obtain ⟨rfl, -⟩ := yields_done_iff.mp starts
    exact .inl ⟨failure, rfl⟩
  | ok message =>
    obtain ⟨started, rest, rfl, runs⟩ := yields_ask_bind_iff.mp starts
    refine .inr ⟨message, started, rest, rfl, ?_⟩
    -- without a job nothing follows; with one it is waited for, and read when it ended well
    cases started with
    | error failure =>
      obtain ⟨rfl, -⟩ := yields_done_iff.mp runs
      exact List.forall_mem_nil _
    | ok job =>
      obtain ⟨waiting, reading, waited, rfl, waits, reads⟩ := yields_bind_iff.mp runs
      refine List.forall_mem_append.mpr ⟨quiet_of_waitForJob waits, ?_⟩
      cases waited with
      | error failure =>
        obtain ⟨rfl, -⟩ := yields_done_iff.mp reads
        exact List.forall_mem_nil _
      | ok ended =>
        obtain ⟨read, rest, rfl, ends⟩ := yields_ask_bind_iff.mp reads
        have last : rest = [] := by
          cases read <;> exact (yields_done_iff.mp ends).1
        rw [last]
        exact List.forall_mem_singleton.mpr trivial

/-- A scripted worker refuses no message. -/
theorem not_allows_error {worker : Scripted.Worker} {text : String} {failure : Failure} :
    ¬ worker.Allows ⟨.worker (.sendMessage session text), .error failure⟩ :=
  nofun

theorem continues_of_turn {turn : Turn} {result : Except Failure String}
    (yields : Yields (turn.act conversation) history result) :
    ∀ event ∈ history, Continues event := by
  cases turn with
  | post session request =>
    obtain ⟨answer, rest, rfl, ends⟩ := yields_call_iff.mp yields
    obtain ⟨rfl, -⟩ := yields_done_iff.mp ends
    exact List.forall_mem_singleton.mpr trivial
  | dispatch session request =>
    obtain ⟨failure, rfl⟩ | ⟨message, started, rest, rfl, quiet⟩ := exists_rest_of_dispatch yields
    · exact List.forall_mem_singleton.mpr trivial
    · refine List.forall_mem_cons.mpr ⟨trivial, List.forall_mem_cons.mpr ⟨trivial, ?_⟩⟩
      exact fun event mem => (quiet event mem).continues.1

/-- With a scripted worker a dispatch starts one job, and a post none. -/
theorem starts_of_turn {worker : Scripted.Worker} {turn : Turn} {result : Except Failure String}
    (yields : Yields (turn.act conversation) history result) (gives : worker.Gives history) :
    history.countP isStart = [turn].countP Turn.isDispatch := by
  cases turn with
  | post session request =>
    obtain ⟨answer, rest, rfl, ends⟩ := yields_call_iff.mp yields
    obtain ⟨rfl, -⟩ := yields_done_iff.mp ends
    rfl
  | dispatch session request =>
    obtain ⟨failure, rfl⟩ | ⟨message, started, rest, rfl, quiet⟩ := exists_rest_of_dispatch yields
    · exact absurd gives.1 not_allows_error
    · have none : rest.countP isStart = 0 :=
        List.countP_eq_zero.mpr fun event mem => by simp [(quiet event mem).continues.2]
      show (_ :: _ :: rest).countP isStart = 1
      rw [List.countP_cons, List.countP_cons, none]
      rfl

variable {turns : List Turn} {results : List (Except Failure String)}

theorem continues_of_takeTurns (yields : Yields (conversation.takeTurns turns) history results) :
    ∀ event ∈ history, Continues event := by
  induction turns generalizing history results with
  | nil =>
    obtain ⟨rfl, -⟩ := yields_done_iff.mp yields
    exact List.forall_mem_nil _
  | cons turn turns ih =>
    obtain ⟨own, more, value, rfl, takes, goesOn⟩ := yields_bind_iff.mp yields
    obtain ⟨others, last, values, rfl, rest, ends⟩ := yields_bind_iff.mp goesOn
    obtain ⟨rfl, -⟩ := yields_done_iff.mp ends
    rw [List.append_nil]
    exact List.forall_mem_append.mpr ⟨continues_of_turn takes, ih rest⟩

theorem starts_of_takeTurns {worker : Scripted.Worker}
    (yields : Yields (conversation.takeTurns turns) history results)
    (gives : worker.Gives history) : history.countP isStart = turns.countP Turn.isDispatch := by
  -- what one turn starts is counted, and the worker goes on from where the turn left it
  induction turns generalizing worker history results with
  | nil =>
    obtain ⟨rfl, -⟩ := yields_done_iff.mp yields
    rfl
  | cons turn turns ih =>
    obtain ⟨own, more, value, rfl, takes, goesOn⟩ := yields_bind_iff.mp yields
    obtain ⟨others, last, values, rfl, rest, ends⟩ := yields_bind_iff.mp goesOn
    obtain ⟨rfl, -⟩ := yields_done_iff.mp ends
    rw [List.append_nil] at gives ⊢
    obtain ⟨first, second⟩ := Scripted.Worker.gives_append.mp gives
    rw [List.countP_append, starts_of_turn takes first, ih rest second, ← List.countP_append]
    rfl

/-! ## The script of a dispatch

A dispatch that returns a text waited for its job to be completed. Jobs are completed by their
scripts alone, so the text goes back to one script; the next lemma tells which. -/

/-- A dispatch that returns a text took a script with an answer. That answer is what came into the
conversation behind the request. -/
theorem exists_script_of_dispatch {worker : Scripted.Worker} {request : Request} {text : String}
    (yields : Yields (conversation.dispatch session request) history (.ok text))
    (gives : worker.Gives history) :
    ∃ polls answer message, worker.scripts[0]? = some (.complete polls answer) ∧
      message.text = answer ∧ (worker.after history).transcript session.id =
        (worker.after (history.take 1)).transcript session.id ++ [message] := by
  obtain ⟨message, job, waiting, ended, transcript, rfl, waits, -⟩ :=
    exists_events_of_dispatch yields
  obtain ⟨-, started, gives⟩ := gives
  obtain ⟨script, taken, works, same⟩ := Scripted.Worker.works_of_startJob started
  obtain ⟨polls, answer, reply, rfl, same_text, puts⟩ :=
    Scripted.Worker.delivers_of_waitForJob rfl waits works (Scripted.Worker.gives_append.mp gives).1
  refine ⟨polls, answer, reply, taken, same_text, ?_⟩
  -- the transcript is read when the answer is there, and reading changes nothing
  rw [same] at puts
  have reading : worker.after (⟨.worker (.sendMessage session request.body), .ok message⟩ ::
      ⟨.worker (.startJob session), .ok job⟩ ::
        (waiting ++ [⟨.worker (.readTranscript session), .ok transcript⟩])) =
      ((worker.perform (.sendMessage session request.body)).2.startJob session).2.after waiting :=
    Scripted.Worker.after_append _ waiting _
  rw [reading]
  exact puts

theorem joinTexts_singleton (message : Message) : joinTexts [message] = message.text := by
  rfl

/-! ## Replies and requests

Each dispatch takes the script behind those of the dispatches before it. So the position of a
dispatch among the turns names its script, whatever conversation the turn belongs to. -/

variable {turns : List Turn} {results : List (Except Failure String)}

/-- The script of a dispatch, and its text, when the dispatch is one of many turns. -/
theorem exists_script_of_turn {worker : Scripted.Worker} (sound : worker.Sound)
    (gives : worker.Gives history)
    (yields : Yields (conversation.takeTurns turns) history results) {i : Nat}
    {request : Request} {text : String} (taken : turns[i]? = some (.dispatch session request))
    (returned : results[i]? = some (.ok text)) :
    ∃ polls, worker.scripts[(turns.take i).countP Turn.isDispatch]? =
      some (.complete polls text) := by
  have chronicled := Scripted.Worker.chronicled_logs sound gives (continues_of_takeTurns yields)
  obtain ⟨before, own, after, rfl, earlier, part⟩ := exists_part yields taken returned
  obtain ⟨replies, rfl, answers⟩ := answers_of_dispatch chronicled part
  obtain ⟨given, -⟩ := Scripted.Worker.gives_append.mp gives
  obtain ⟨first, second⟩ := Scripted.Worker.gives_append.mp given
  obtain ⟨polls, answer, message, next, same_text, puts⟩ := exists_script_of_dispatch part second
  have begun : 1 ≤ own.length := by
    obtain ⟨_, _, _, _, _, rfl, -⟩ := exists_events_of_dispatch part
    exact Nat.succ_pos _
  -- the replies are what came in, which is the answer of the script
  have behind := answers.behind
  have posted : (before ++ own ++ after).take (before.length + 1) = before ++ own.take 1 := by
    rw [List.append_assoc, List.take_length_add_append, List.take_append_of_le_length begun]
  have read : (before ++ own ++ after).take (before.length + own.length) = before ++ own := by
    rw [List.append_assoc, List.take_length_add_append, List.take_left]
  unfold Scripted.Worker.logs at behind
  rw [posted, read, Scripted.Worker.after_append, Scripted.Worker.after_append, puts] at behind
  rw [← List.append_cancel_left behind, joinTexts_singleton, same_text]
  refine ⟨polls, ?_⟩
  -- each dispatch before took one script, so this one took the next
  rw [Scripted.Worker.scripts_after, starts_of_takeTurns earlier first, List.getElem?_drop] at next
  exact next

/-- A worker with two answers, the second one after two polls. -/
def prepared : Scripted.Worker where
  scripts := [.complete 1 "first", .complete 2 "second"]

/-- The session that it opens first. -/
def opened : Session :=
  prepared.createSession.1

/-- Something is said, and then two requests are dispatched, all in one conversation. -/
def requests : List Turn :=
  [.post opened ⟨.context, "context"⟩, .dispatch opened ⟨.remediation, "ask"⟩,
    .dispatch opened ⟨.remediation, "again"⟩]

/-- What the conversation holds in the end. -/
def said : List Message :=
  [⟨"msg_3", .user, "context"⟩, ⟨"msg_4", .user, "ask"⟩, ⟨"msg_6", .assistant, "first"⟩,
    ⟨"msg_7", .user, "again"⟩, ⟨"msg_9", .assistant, "second"⟩]

def posting : History Call Answer :=
  [⟨.worker (.sendMessage opened "context"), .ok "msg_3"⟩]

def asking : History Call Answer :=
  running opened "ask" "msg_4" "run_5"
    (briefly.polls opened "run_5" [] ++ briefly.poll opened "run_5" (.ok ⟨.completed, none⟩) ++
      [⟨.worker (.readTranscript opened), .ok (said.take 3)⟩])

def askingAgain : History Call Answer :=
  running opened "again" "msg_7" "run_8"
    (briefly.polls opened "run_8" [⟨.running, none⟩] ++
      briefly.poll opened "run_8" (.ok ⟨.completed, none⟩) ++
        [⟨.worker (.readTranscript opened), .ok said⟩])

def exchange : History Call Answer :=
  posting ++ (asking ++ (askingAgain ++ []))

theorem yields_requests : Yields (briefly.takeTurns requests) exchange
    [.ok "msg_3", .ok "first", .ok "second"] := by
  have answered {job text message answer : String} {seen : List Worker.Snapshot}
      {transcript : List Message} (pending : Pending seen)
      (within : seen.length < briefly.maxPolls.toNat)
      (answers : answerTo opened message transcript = .ok answer) :
      Yields (briefly.dispatch opened ⟨.remediation, text⟩)
        (running opened text message job (briefly.polls opened job seen ++
          briefly.poll opened job (.ok ⟨.completed, none⟩) ++
            [⟨.worker (.readTranscript opened), .ok transcript⟩])) (.ok answer) :=
    yields_of_dispatches (.read (.completed pending within) (replies_iff.mpr answers))
  have pending : Pending [⟨.running, none⟩] := pending_cons.mpr ⟨rfl, pending_nil⟩
  have context : Yields (post opened ⟨.context, "context"⟩) posting (.ok "msg_3") :=
    .call _ (.done _)
  exact yields_takeTurns_cons context (yields_takeTurns_cons
    (answered pending_nil (by decide) rfl)
    (yields_takeTurns_cons (answered pending (by decide) rfl) (.done _)))

theorem gives_requests :
    (prepared.performAll [.createSession "instructions"]).Gives exchange := by
  refine ⟨?_, ?_, ?_, trivial, ?_, ?_, ?_, ?_, trivial, ?_, trivial, ?_, ?_, trivial⟩
  all_goals with_unfolding_all rfl

end Conversation

end AzcRepair
