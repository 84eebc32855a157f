import AzcRepair.Proofs.Conversation.Answers
import AzcRepair.Proofs.Text.Digits
import AzcRepair.Scripted.Worker

/-!
# The conversations of a scripted worker

A scripted worker numbers its messages, puts each at the end of its conversation and never changes
what is there, except that a new session begins with an empty conversation.

* `Moves` — what a call does to the conversations; `moves_perform` says it of every call.
* `Sound` — the messages are numbered, no two alike; every call preserves it.
* `Gives` — a history in which the worker gave the answers.
* `chronicled_logs` — in such a history the conversations only grow, as long as none is opened.
* `delivers_of_waitForJob` — a job that was waited for put the text of its script, and nothing else,
  into its conversation.
-/

namespace AzcRepair.Scripted.Worker

open AzcRepair.Worker (Call Session Message Snapshot Failure Job)
open Conversation (Log Distinct Chronicled)
open Procedure (Event History Yields)
open Text (decimal decimal_inj)

variable {worker next : Worker}

/-! ## Conversations

The conversations are kept as a list of entries, the latest first. A call either leaves them as
they are, puts one message at the end of one of them, or opens an empty one. -/

theorem lookup_filter_ne {entries : List (String × List Message)} {session id : String}
    (apart : id ≠ session) :
    (entries.filter (·.1 ≠ session)).lookup id = entries.lookup id := by
  induction entries with
  | nil => rfl
  | cons entry entries ih =>
    obtain ⟨key, messages⟩ := entry
    by_cases same : key = session
    · have other : (id == key) = false := by simp [same, apart]
      rw [List.filter_cons_of_neg (by simp [same]), ih, List.lookup_cons, other]
    · rw [List.filter_cons_of_pos (by simp [same]), List.lookup_cons, List.lookup_cons, ih]

theorem transcript_append (worker : Worker) (session : String) (message : Message) (id : String) :
    (worker.append session message).transcript id =
      if id = session then worker.transcript session ++ [message] else worker.transcript id := by
  unfold append
  -- the entry of this conversation is replaced, the others are left as they are
  by_cases same : id = session
  · simp [transcript, same]
  · have other : (id == session) = false := by simp [same]
    rw [if_neg same, transcript, List.lookup_cons, other]
    exact congrArg (·.getD []) (lookup_filter_ne same)

def messageId (number : Nat) : String :=
  "msg_" ++ decimal number

theorem messageId_inj {m n : Nat} (same : messageId m = messageId n) : m = n :=
  decimal_inj (String.append_right_inj _ |>.mp same)

/-- What a call does to the conversations. -/
inductive Moves (worker next : Worker) : Call → Prop
  | quiet {call : Call} (same : ∀ id, next.transcript id = worker.transcript id)
    (later : worker.lastId ≤ next.lastId) : Moves worker next call
  | puts {call : Call} {session : String} {message : Message}
    (numbered : message.id = messageId next.lastId) (later : worker.lastId < next.lastId)
    (grown : ∀ id, next.transcript id =
      if id = session then worker.transcript session ++ [message] else worker.transcript id) :
    Moves worker next call
  | opens {instructions opened : String} (later : worker.lastId ≤ next.lastId)
    (emptied : ∀ id, next.transcript id = if id = opened then [] else worker.transcript id) :
    Moves worker next (.createSession instructions)

theorem transcript_createSession (worker : Worker) (id : String) :
    worker.createSession.2.transcript id =
      if id = worker.createSession.1.id then [] else worker.transcript id := by
  show (List.lookup id ((worker.createSession.1.id, []) :: worker.transcripts)).getD [] = _
  rw [List.lookup_cons]
  by_cases same : id = worker.createSession.1.id
  · simp [same]
  · have other : (id == worker.createSession.1.id) = false := by simp [same]
    rw [other, if_neg same]
    rfl

/-- The answer of a job is put into its conversation when the job is first seen to be completed. -/
theorem moves_observe (worker : Worker) (job : StartedJob) (call : Call) :
    Moves worker (worker.observe job).2 call := by
  have quiet : Moves worker worker call := .quiet (fun _ => rfl) (Nat.le_refl _)
  unfold observe
  split
  · exact quiet
  · exact quiet
  · split
    · exact quiet
    split
    · exact quiet
    · exact .puts rfl (Nat.lt_succ_self _) (transcript_append _ _ _)

theorem moves_pollJob (worker : Worker) (session : Session) (id : String) :
    Moves worker (worker.pollJob id).2 (.pollJob session id) := by
  unfold pollJob
  dsimp only
  split
  · exact .quiet (fun _ => rfl) (Nat.le_refl _)
  · next job _ =>
    -- counting the poll changes no conversation
    cases moves_observe (Worker.updateJob { worker with polls := worker.polls + 1 }
      { job with polls := job.polls + 1 }) { job with polls := job.polls + 1 }
      (.pollJob session id) with
    | quiet same later => exact .quiet same later
    | puts numbered later grown => exact .puts numbered later grown

theorem moves_startJob (worker : Worker) (session : Session) :
    Moves worker (worker.startJob session).2 (.startJob session) := by
  unfold startJob
  split
  · exact .quiet (fun _ => rfl) (Nat.le_refl _)
  · exact .quiet (fun _ => rfl) (Nat.le_succ _)

theorem moves_perform (worker : Worker) (call : Call) :
    Moves worker (worker.perform call).2 call := by
  cases call with
  | createSession instructions =>
    exact .opens (Nat.le_add_right _ 2) (transcript_createSession worker)
  | sendMessage session text => exact .puts rfl (Nat.lt_succ_self _) (transcript_append _ _ _)
  | startJob session => exact moves_startJob worker session
  | pollJob session job => exact moves_pollJob worker session job
  | uploadArtifact => exact .quiet (fun _ => rfl) (Nat.le_succ _)
  | _ => exact .quiet (fun _ => rfl) (Nat.le_refl _)

/-! ## Numbered messages

Messages and jobs share one counter. It never goes back, so a new message has a number that none
before it has, in this conversation or in another. -/

/-- Every message has a number that was given out, and no two have the same. -/
structure Sound (worker : Worker) : Prop where
  numbered : ∀ id, ∀ message ∈ worker.transcript id,
    ∃ number ≤ worker.lastId, message.id = messageId number
  distinct : Distinct worker.transcript

/-- Nothing was said yet. -/
def Silent (worker : Worker) : Prop :=
  ∀ id, worker.transcript id = []

theorem Silent.sound (silent : Silent worker) : Sound worker := by
  constructor
  · intro id message mem
    rw [silent id] at mem
    cases mem
  · constructor
    intro id other i j message found here there same
    rw [silent id] at here
    cases here

/-- Where a message was put in, every place holds what it held, or is the place of that message. -/
theorem place_of_grown {log grown : Log} {session : String} {added : Message}
    (grows : ∀ id, grown id = if id = session then log session ++ [added] else log id)
    {id : String} {i : Nat} {message : Message} (here : (grown id)[i]? = some message) :
    (log id)[i]? = some message ∨
      (id = session ∧ i = (log session).length) ∧ message = added := by
  rw [grows] at here
  split at here
  · next same =>
    rw [List.getElem?_append] at here
    split at here
    · rw [same]
      exact .inl here
    · next behind =>
      obtain ⟨last, rfl⟩ := List.getElem?_eq_some_iff.mp here
      have single := List.length_singleton (a := added)
      exact .inr ⟨⟨same, by omega⟩, List.mem_singleton.mp (List.getElem_mem last)⟩
  · exact .inl here

theorem Sound.puts (sound : Sound worker) {session : String} {message : Message}
    (numbered : message.id = messageId next.lastId) (later : worker.lastId < next.lastId)
    (grown : ∀ id, next.transcript id =
      if id = session then worker.transcript session ++ [message] else worker.transcript id) :
    Sound next := by
  have old {id : String} {i : Nat} {other : Message}
      (here : (worker.transcript id)[i]? = some other) :
      ∃ number ≤ worker.lastId, other.id = messageId number :=
    sound.numbered id other (List.mem_of_getElem? here)
  -- no message that was there has the new number
  have new {id : String} {i : Nat} {other : Message}
      (here : (worker.transcript id)[i]? = some other) : other.id ≠ message.id := by
    intro same
    obtain ⟨number, given, named⟩ := old here
    have number_eq := messageId_inj (named.symm.trans (same.trans numbered))
    omega
  refine ⟨fun id other mem => ?_, ⟨fun here there same => ?_⟩⟩
  -- a place of either kind, and two places of all four kinds: only the new one has the new number
  · obtain ⟨i, here⟩ := List.getElem?_of_mem mem
    obtain kept | ⟨-, rfl⟩ := place_of_grown grown here
    · obtain ⟨number, given, named⟩ := old kept
      exact ⟨number, Nat.le_of_lt (Nat.lt_of_le_of_lt given later), named⟩
    · exact ⟨_, Nat.le_refl _, numbered⟩
  · obtain kept | ⟨place, rfl⟩ := place_of_grown grown here
    · obtain kept' | ⟨-, rfl⟩ := place_of_grown grown there
      · exact sound.distinct.place kept kept' same
      · exact absurd same (new kept)
    · obtain kept' | ⟨place', rfl⟩ := place_of_grown grown there
      · exact absurd same.symm (new kept')
      · exact ⟨place.1.trans place'.1.symm, place.2.trans place'.2.symm⟩

theorem Sound.moves (sound : Sound worker) {call : Call} (moves : Moves worker next call) :
    Sound next := by
  -- where nothing is put in, everything that is there was there
  have fewer (later : worker.lastId ≤ next.lastId)
      (inside : ∀ id, next.transcript id <+: worker.transcript id) : Sound next := by
    refine ⟨fun id message mem => ?_, sound.distinct.of_parts inside⟩
    obtain ⟨number, given, named⟩ := sound.numbered id message ((inside id).mem mem)
    exact ⟨number, Nat.le_trans given later, named⟩
  cases moves with
  | quiet same later => exact fewer later fun id => same id ▸ List.prefix_rfl
  | puts numbered later grown => exact sound.puts numbered later grown
  | opens later emptied =>
    refine fewer later fun id => ?_
    rw [emptied]
    split
    · exact List.nil_prefix
    · exact List.prefix_rfl

theorem Sound.perform (sound : Sound worker) (call : Call) : Sound (worker.perform call).2 :=
  sound.moves (moves_perform worker call)

/-- The worker after calls. -/
def performAll (worker : Worker) (calls : List Call) : Worker :=
  calls.foldl (fun worker call => (worker.perform call).2) worker

theorem Sound.performAll (sound : Sound worker) (calls : List Call) :
    Sound (worker.performAll calls) := by
  induction calls generalizing worker with
  | nil => exact sound
  | cons call calls ih => exact ih (sound.perform call)

/-! ## Histories

The same worker is asked throughout a history. `Gives` follows it from event to event; with that,
what is said above about calls says what the history may hold. -/

open Run (Answer)

variable {history : History Run.Call Answer} {event : Event Run.Call Answer}

/-- The worker after an event, which it may have no part in. -/
def attend (worker : Worker) : Event Run.Call Answer → Worker
  | ⟨.worker call, _⟩ => (worker.perform call).2
  | _ => worker

/-- The answer in the event, if it is one of the worker, is the one that the worker gives. -/
def Allows (worker : Worker) : Event Run.Call Answer → Prop
  | ⟨.worker call, answer⟩ => answer = (worker.perform call).1
  | _ => True

/-- The worker after a history. -/
def after (worker : Worker) (history : History Run.Call Answer) : Worker :=
  history.foldl attend worker

/-- All answers of a worker in the history are those of this worker. -/
def Gives (worker : Worker) : History Run.Call Answer → Prop
  | [] => True
  | event :: rest => worker.Allows event ∧ (worker.attend event).Gives rest

theorem after_append (worker : Worker) (first second : History Run.Call Answer) :
    worker.after (first ++ second) = (worker.after first).after second :=
  List.foldl_append

theorem gives_append {first second : History Run.Call Answer} :
    worker.Gives (first ++ second) ↔ worker.Gives first ∧ (worker.after first).Gives second := by
  induction first generalizing worker with
  | nil => exact (iff_of_eq (true_and _)).symm
  | cons event first ih =>
    show worker.Allows event ∧ (worker.attend event).Gives (first ++ second) ↔ _
    rw [ih, ← and_assoc]
    rfl

/-- Each event of a history is one of the worker after the events before it. -/
theorem step_of_gives (gives : worker.Gives history) {n : Nat} (here : history[n]? = some event) :
    (worker.after (history.take n)).Allows event ∧
      worker.after (history.take (n + 1)) = (worker.after (history.take n)).attend event := by
  have parts : history.take (n + 1) = history.take n ++ [event] := by
    rw [List.take_add_one, here]
    rfl
  rw [← List.take_append_drop (n + 1) history, parts, List.append_assoc, gives_append] at gives
  exact ⟨gives.2.1, by rw [parts, after_append]; rfl⟩

/-- The conversations of the worker after so many events. -/
def logs (worker : Worker) (history : History Run.Call Answer) (n : Nat) : Log :=
  (worker.after (history.take n)).transcript

/-- The event opens no session. -/
def Continues : Event Run.Call Answer → Prop
  | ⟨.worker (.createSession _), _⟩ => False
  | _ => True

theorem grows_attend (continues : Continues event) (id : String) :
    worker.transcript id <+: (worker.attend event).transcript id := by
  obtain ⟨call, answer⟩ := event
  cases call with
  | worker call =>
    cases moves_perform worker call with
    | quiet same later => exact same id ▸ List.prefix_rfl
    | puts numbered later grown =>
      show _ <+: (worker.perform call).2.transcript id
      rw [grown]
      split
      · next same =>
        rw [same]
        exact List.prefix_append _ _
      · exact List.prefix_rfl
    | opens => cases continues
  | _ => exact List.prefix_rfl

theorem Sound.attend (sound : Sound worker) (event : Event Run.Call Answer) :
    Sound (worker.attend event) := by
  obtain ⟨call, answer⟩ := event
  cases call with
  | worker call => exact sound.perform call
  | _ => exact sound

theorem Sound.after (sound : Sound worker) (history : History Run.Call Answer) :
    Sound (worker.after history) := by
  induction history generalizing worker with
  | nil => exact sound
  | cons event history ih => exact ih (sound.attend event)

/-- A message that was posted is behind what the conversation held. -/
theorem transcript_sendMessage {session : Session} {text message : String}
    (allowed : worker.Allows ⟨.worker (.sendMessage session text), .ok message⟩) :
    (worker.perform (.sendMessage session text)).2.transcript session.id =
      worker.transcript session.id ++ [⟨message, .user, text⟩] := by
  obtain rfl := Except.ok.inj allowed
  exact (transcript_append _ _ _ _).trans (if_pos rfl)

/-- The conversations of a scripted worker are as they may be, as long as no session is opened. -/
theorem chronicled_logs (sound : Sound worker) (gives : worker.Gives history)
    (continues : ∀ event ∈ history, Continues event) :
    Chronicled (worker.logs history) history where
  grows n within id := by
    have here := List.getElem?_eq_getElem within
    unfold logs
    rw [(step_of_gives gives here).2]
    exact grows_attend (continues _ (List.getElem_mem within)) id
  distinct := (sound.after _).distinct
  posted n session text message here := by
    obtain ⟨allowed, step⟩ := step_of_gives gives here
    refine ⟨[], ?_⟩
    unfold logs
    rw [step, List.append_nil]
    exact transcript_sendMessage allowed
  read n session transcript here := by
    obtain ⟨allowed, step⟩ := step_of_gives gives here
    unfold logs
    rw [step]
    exact Except.ok.inj allowed

/-! ## Jobs and their scripts

A job is given its script when it is started, and the text of the script is put into the
conversation by the first poll that finds the job completed. Polls before that one only count. -/

/-- The event asks for a job. -/
def isStart : Event Run.Call Answer → Bool
  | ⟨.worker (.startJob _), _⟩ => true
  | _ => false

theorem scripts_observe (worker : Worker) (job : StartedJob) :
    (worker.observe job).2.scripts = worker.scripts := by
  unfold observe
  split
  · rfl
  · rfl
  · split
    · rfl
    split <;> rfl

theorem scripts_pollJob (worker : Worker) (id : String) :
    (worker.pollJob id).2.scripts = worker.scripts := by
  unfold pollJob
  dsimp only
  split
  · rfl
  · exact scripts_observe _ _

/-- Each job takes the next script, if there is one. -/
theorem scripts_attend (worker : Worker) (event : Event Run.Call Answer) :
    (worker.attend event).scripts = worker.scripts.drop ([event].countP isStart) := by
  obtain ⟨call, answer⟩ := event
  -- only a start takes a script; a poll changes jobs and conversations, not scripts
  cases call with
  | worker call =>
    cases call with
    | startJob session =>
      show (worker.startJob session).2.scripts = worker.scripts.drop 1
      unfold startJob
      split
      · next none => rw [none]; rfl
      · next some => rw [some]; rfl
    | pollJob session id => exact scripts_pollJob worker id
    | _ => rfl
  | _ => rfl

theorem scripts_after (worker : Worker) (history : History Run.Call Answer) :
    (worker.after history).scripts = worker.scripts.drop (history.countP isStart) := by
  induction history generalizing worker with
  | nil => rfl
  | cons event history ih =>
    show ((worker.attend event).after history).scripts = _
    rw [ih, scripts_attend, List.drop_drop, ← List.countP_append]
    rfl

/-- The last job that was started follows this script and did not answer yet. -/
def Works (worker : Worker) (id session : String) (script : JobScript) : Prop :=
  ∃ polls others, worker.jobs = ⟨id, session, script, polls, false⟩ :: others

/-- What a poll shows of a job that works, and what becomes of the worker. -/
inductive Polled (worker next : Worker) (id session : String) :
    JobScript → Except Failure Snapshot → Prop
  | running {script : JobScript} (still : next.Works id session script)
    (same : next.transcript session = worker.transcript session) :
    Polled worker next id session script (.ok ⟨.running, none⟩)
  | failed {script : JobScript} (reason : String) :
    Polled worker next id session script (.ok ⟨.failed, some reason⟩)
  | completed {polls : Nat} {text : String} {message : Message} (gives : message.text = text)
    (puts : next.transcript session = worker.transcript session ++ [message]) :
    Polled worker next id session (.complete polls text) (.ok ⟨.completed, none⟩)

theorem jobs_updateJob {job changed : StartedJob} {others : List StartedJob}
    (jobs : worker.jobs = job :: others) (same : job.id = changed.id) :
    ∃ rest, (worker.updateJob changed).jobs = changed :: rest := by
  refine ⟨others.map fun other => if other.id = changed.id then changed else other, ?_⟩
  show worker.jobs.map _ = _
  rw [jobs, List.map_cons, if_pos same]

theorem polled_of_works {id session : String} {script : JobScript}
    (works : worker.Works id session script) :
    Polled worker (worker.pollJob id).2 id session script (worker.pollJob id).1 := by
  obtain ⟨polls, others, jobs⟩ := works
  have found : worker.jobs.find? (·.id == id) = some ⟨id, session, script, polls, false⟩ := by
    simp [jobs]
  -- the poll is counted, and the job is still the last that was started
  obtain ⟨rest, counted⟩ := @jobs_updateJob { worker with polls := worker.polls + 1 } _
    ⟨id, session, script, polls + 1, false⟩ _ jobs rfl
  unfold pollJob
  simp only [found]
  unfold observe
  cases script with
  | stall => exact .running ⟨_, rest, counted⟩ rfl
  | fail reason => exact .failed reason
  | complete needed text =>
    dsimp only
    split
    · exact .running ⟨_, rest, counted⟩ rfl
    · exact @Polled.completed _ _ _ _ needed text ⟨_, .assistant, text⟩ rfl
        ((transcript_append _ _ _ _).trans (if_pos rfl))

theorem works_of_startJob {session : Session} {id : String}
    (allowed : worker.Allows ⟨.worker (.startJob session), .ok id⟩) :
    ∃ script, worker.scripts[0]? = some script ∧
      (worker.startJob session).2.Works id session.id script ∧
      ∀ other, (worker.startJob session).2.transcript other = worker.transcript other := by
  replace allowed : .ok id = (worker.startJob session).1 := allowed
  unfold startJob at allowed ⊢
  split at allowed
  · cases allowed
  · next script scripts taken =>
    obtain rfl := Except.ok.inj allowed
    simp only [taken]
    exact ⟨script, rfl, ⟨0, worker.jobs, rfl⟩, fun _ => rfl⟩

variable {conversation : Conversation} {session : Session}

/-- A job that was waited for followed a script with an answer, and the answer is what came into the
conversation in the meantime. -/
theorem delivers_of_waitForJob {left : Nat} {job ended : Job} {place : String} {script : JobScript}
    (waiting : job.status.isPending = true)
    (yields : Yields (conversation.waitForJob session job left) history (.ok ended))
    (works : worker.Works job.id place script) (gives : worker.Gives history) :
    ∃ polls text message, script = .complete polls text ∧ message.text = text ∧
      (worker.after history).transcript place = worker.transcript place ++ [message] := by
  -- the induction is on the polls that are left; each shows the job running, up to the last
  induction left generalizing job worker history with
  | zero => cases (Procedure.yields_done_iff.mp yields).2
  | succ left ih =>
    obtain ⟨answer, rest, rfl, goesOn⟩ :=
      (Conversation.yields_waitForJob_succ_iff waiting).mp yields
    obtain ⟨-, allowed, gives⟩ := gives
    have polled : Polled worker (worker.pollJob job.id).2 job.id place script answer := by
      rw [show answer = (worker.pollJob job.id).1 from allowed]
      exact polled_of_works works
    replace gives : (worker.pollJob job.id).2.Gives rest := gives
    show ∃ polls text message, script = .complete polls text ∧ message.text = text ∧
      ((worker.pollJob job.id).2.after rest).transcript place =
        worker.transcript place ++ [message]
    generalize (worker.pollJob job.id).2 = next at polled gives ⊢
    cases polled with
    | running still same =>
      rw [Conversation.afterPoll_of_isPending rfl] at goesOn
      have noting : (Conversation.noted job ⟨.running, none⟩).status.isPending = true := rfl
      rw [← same]
      exact ih noting goesOn still gives
    | failed reason => cases (Procedure.yields_done_iff.mp goesOn).2
    | completed text puts =>
      obtain ⟨rfl, -⟩ := Procedure.yields_done_iff.mp goesOn
      exact ⟨_, _, _, rfl, text, puts⟩

end AzcRepair.Scripted.Worker
