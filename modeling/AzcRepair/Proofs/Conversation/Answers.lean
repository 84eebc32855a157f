import AzcRepair.Proofs.Conversation.Dispatch

/-!
# Whose answer a dispatch returns

Requests are posted and dispatched on any sessions, one after another, and every conversation
gathers what was said in it. The worker may put messages into any of them at any time. What a
dispatch returns is nevertheless what was put into its own conversation between its own request and
the reading of the transcript, as long as conversations only grow at their end and no two messages
share an id.

* `Chronicled` — what conversations may hold in the course of a history.
* `Turn`, `takeTurns` — posts and dispatches, one after another.
* `Answers` — the messages that came into a conversation after a request.
* `answers_of_dispatch` — what a dispatch returns is made of these.
-/

namespace AzcRepair

open Procedure (History Yields yields_ask_bind_iff yields_bind_iff yields_done_iff)

namespace Conversation

open Run (Act Answer Call)
open Worker (Session Message Failure)

variable {conversation : Conversation} {session : Session} {history : History Call Answer}

/-! ## Conversations in the course of a history

What the worker holds is not part of the procedure, so it is given beside the history: one log for
every moment between two events. `Chronicled` says what is documented of such logs and no more; it
leaves open who else writes into a conversation and when. -/

/-- What each conversation holds, by its id. -/
abbrev Log := String → List Message

/-- No two places of the conversations hold the same id: an id names a message, and the message is
in one conversation, once. -/
structure Distinct (log : Log) : Prop where
  place : ∀ {id other : String} {i j : Nat} {message found : Message},
    (log id)[i]? = some message → (log other)[j]? = some found → message.id = found.id →
      id = other ∧ i = j

/-- The conversations after so many events of a history. They only grow, each at its end; a message
that is posted is at the end then; and whoever reads a conversation reads all of it. Between two
events, messages may come into any conversation. -/
structure Chronicled (log : Nat → Log) (history : History Call Answer) : Prop where
  grows : ∀ n < history.length, ∀ id, log n id <+: log (n + 1) id
  distinct : Distinct (log history.length)
  posted : ∀ n session text message,
    history[n]? = some ⟨.worker (.sendMessage session text), .ok message⟩ →
      ∃ earlier, log (n + 1) session.id = log n session.id ++ earlier ++ [⟨message, .user, text⟩]
  read : ∀ n session transcript,
    history[n]? = some ⟨.worker (.readTranscript session), .ok transcript⟩ →
      transcript = log (n + 1) session.id

variable {log : Nat → Log}

/-- What a conversation held early on is the beginning of what it holds later. -/
theorem Chronicled.le (chronicled : Chronicled log history) {m n : Nat} (later : m ≤ n)
    (within : n ≤ history.length) (id : String) : log m id <+: log n id := by
  -- the induction is on the events between the two moments
  induction later with
  | refl => exact List.prefix_rfl
  | step later ih => exact (ih (Nat.le_of_succ_le within)).trans (chronicled.grows _ within id)

/-- These messages came into the conversation of a session between a request and the reading of the
transcript: they are what is behind the request, none of them was there when the request was posted,
and none of them is ever in another conversation. -/
structure Answers (log : Nat → Log) (ending : Nat) (session : Session) (body : String)
    (posted read : Nat) (replies : List Message) : Prop where
  behind : log read session.id = log posted session.id ++ replies
  request : ∃ before message, log posted session.id = before ++ [⟨message, .user, body⟩]
  new : ∀ reply ∈ replies, ∀ id, ∀ other ∈ log posted id, other.id ≠ reply.id
  own : ∀ reply ∈ replies, ∀ id ≠ session.id, ∀ other ∈ log ending id, other.id ≠ reply.id

/-! ## Requests, one after another

Many requests are one procedure that takes them in turn. To speak about one of them its part of
the history is cut out, with what was done before it in front (`exists_part`). -/

/-- A request that is posted or dispatched. -/
inductive Turn where
  | post (session : Session) (request : Request)
  | dispatch (session : Session) (request : Request)

/-- What is done at a turn. -/
def Turn.act (conversation : Conversation) : Turn → Act (Except Failure String)
  | post session request => Conversation.post session request
  | dispatch session request => conversation.dispatch session request

/-- The turn waits for an answer. -/
def Turn.isDispatch : Turn → Bool
  | post .. => false
  | dispatch .. => true

/-- All turns in their order, whatever becomes of each. -/
def takeTurns (conversation : Conversation) : List Turn → Act (List (Except Failure String))
  | [] => return []
  | turn :: rest => do
    let result ← turn.act conversation
    return result :: (← conversation.takeTurns rest)

/-- A turn and the turns behind it, one history after the other. -/
theorem yields_takeTurns_cons {turn : Turn} {turns : List Turn} {own rest : History Call Answer}
    {result : Except Failure String} {results : List (Except Failure String)}
    (first : Yields (turn.act conversation) own result)
    (others : Yields (conversation.takeTurns turns) rest results) :
    Yields (conversation.takeTurns (turn :: turns)) (own ++ rest) (result :: results) := by
  refine first.bind ?_
  rw [← List.append_nil rest]
  exact others.bind (.done _)

/-- A turn has its part of the history, behind that of the turns before it. -/
theorem exists_part {turns : List Turn} {results : List (Except Failure String)} {i : Nat}
    {turn : Turn} {result : Except Failure String}
    (yields : Yields (conversation.takeTurns turns) history results)
    (taken : turns[i]? = some turn) (returned : results[i]? = some result) :
    ∃ before own after, history = before ++ own ++ after ∧
      Yields (conversation.takeTurns (turns.take i)) before (results.take i) ∧
      Yields (turn.act conversation) own result := by
  -- the induction is on the turns, and the place moves with them
  induction turns generalizing i history results with
  | nil => cases taken
  | cons first rest ih =>
    obtain ⟨opening, more, value, rfl, opens, goesOn⟩ := yields_bind_iff.mp yields
    obtain ⟨others, last, values, rfl, takes, ends⟩ := yields_bind_iff.mp goesOn
    obtain ⟨rfl, rfl⟩ := yields_done_iff.mp ends
    cases i with
    | zero =>
      cases taken
      cases returned
      exact ⟨[], opening, others ++ [], rfl, .done [], opens⟩
    | succ i =>
      obtain ⟨before, own, after, rfl, earlier, part⟩ := ih takes taken returned
      exact ⟨opening ++ before, own, after, by simp, yields_takeTurns_cons opens earlier, part⟩

/-! ## The answer of a dispatch

A dispatch posts first and reads last, and everything between is waiting. The transcript is the
log at the end, and the log at the beginning is its front and ends in the request. As no id occurs
twice, the search for the request finds just that place, and what is behind it came later. -/

/-- A dispatch that returns a text posted its request first and read the transcript last. -/
theorem exists_events_of_dispatch {request : Request} {text : String}
    (yields : Yields (conversation.dispatch session request) history (.ok text)) :
    ∃ message job waiting ended transcript,
      history = ⟨.worker (.sendMessage session request.body), .ok message⟩ ::
        ⟨.worker (.startJob session), .ok job⟩ ::
          (waiting ++ [⟨.worker (.readTranscript session), .ok transcript⟩]) ∧
      Yields (conversation.waitForJob session (.start job session.id)
        conversation.maxPolls.toNat) waiting (.ok ended) ∧
      answerTo session message transcript = .ok text := by
  obtain ⟨posted, starting, rfl, starts⟩ := yields_ask_bind_iff.mp yields
  cases posted with
  -- a call that is refused ends the dispatch without a text
  | error failure => cases (yields_done_iff.mp starts).2
  | ok message =>
    obtain ⟨started, running, rfl, runs⟩ := yields_ask_bind_iff.mp starts
    cases started with
    | error failure => cases (yields_done_iff.mp runs).2
    | ok job =>
      obtain ⟨waiting, reading, waited, rfl, waits, reads⟩ := yields_bind_iff.mp runs
      cases waited with
      | error failure => cases (yields_done_iff.mp reads).2
      | ok ended =>
        obtain ⟨read, rest, rfl, ends⟩ := yields_ask_bind_iff.mp reads
        cases read with
        | error failure => cases (yields_done_iff.mp ends).2
        | ok transcript =>
          obtain ⟨rfl, answered⟩ := yields_done_iff.mp ends
          exact ⟨message, job, waiting, ended, transcript, rfl, waits, answered.symm⟩

/-- What stands at a place of the beginning stands there in the whole. -/
theorem getElem?_of_part {part whole : List Message} (inside : part <+: whole) {n : Nat}
    {message : Message} (here : part[n]? = some message) : whole[n]? = some message := by
  obtain ⟨rest, rfl⟩ := inside
  rw [List.getElem?_append_left (List.getElem?_eq_some_iff.mp here).1]
  exact here

/-- Ids were different when there was less in the conversations. -/
theorem Distinct.of_parts {part whole : Log} (distinct : Distinct whole)
    (inside : ∀ id, part id <+: whole id) : Distinct part :=
  ⟨fun here there => distinct.place (getElem?_of_part (inside _) here)
    (getElem?_of_part (inside _) there)⟩

/-- In conversations with different ids, what is behind a message is what came after it. -/
theorem eq_of_after? {log : Log} (distinct : Distinct log) {id : String}
    {before replies later : List Message} {message : Message}
    (whole : log id = before ++ message :: replies)
    (found : after? message.id (log id) = some later) : later = replies := by
  obtain ⟨front, other, parts, same, -⟩ := after?_eq_some_iff.mp found
  have here : (log id)[before.length]? = some message := by simp [whole]
  have there : (log id)[front.length]? = some other := by simp [parts]
  -- the two places hold the same id, so they are one place and split the log alike
  have lengths := (distinct.place here there same.symm).2
  have split := List.append_inj (whole.symm.trans parts) lengths
  exact (List.cons.inj split.2).2.symm

/-- What is behind the request of a conversation is nowhere else: each of these messages has an id
that no other place holds. -/
theorem Distinct.ne_of_behind {log : Log} (distinct : Distinct log) {id other : String}
    {front behind : List Message} (whole : log id = front ++ behind) {reply message : Message}
    (mem : reply ∈ behind) {n : Nat} (there : (log other)[n]? = some message)
    (apart : other ≠ id ∨ n < front.length) : message.id ≠ reply.id := by
  intro same
  obtain ⟨k, bound, rfl⟩ := List.mem_iff_getElem.mp mem
  have here : (log id)[front.length + k]? = some behind[k] := by
    rw [whole, List.getElem?_append_right (Nat.le_add_right _ _), Nat.add_sub_cancel_left,
      List.getElem?_eq_getElem bound]
  obtain ⟨rfl, rfl⟩ := distinct.place there here same
  rcases apart with apart | earlier
  · exact apart rfl
  · omega

/-- A text is returned only if the request is found, and it is made of all that is behind it. -/
theorem exists_after?_of_answerTo {message text : String} {transcript : List Message}
    (answered : answerTo session message transcript = .ok text) :
    ∃ later, after? message transcript = some later ∧ text = joinTexts later := by
  cases replies_iff.mpr answered with
  | text same first filled => exact ⟨_, after?_eq_some_iff.mpr ⟨_, _, rfl, same, first⟩, rfl⟩

/-- The text behind a request is made of the messages that came in after it. -/
theorem answers_of_events (chronicled : Chronicled log history) {body message text : String}
    {transcript : List Message} (first last : Nat) (order : first < last)
    (posts : history[first]? = some ⟨.worker (.sendMessage session body), .ok message⟩)
    (reads : history[last]? = some ⟨.worker (.readTranscript session), .ok transcript⟩)
    (answered : answerTo session message transcript = .ok text) :
    ∃ replies, text = joinTexts replies ∧
      Answers log history.length session body (first + 1) (last + 1) replies := by
  have within : last + 1 ≤ history.length := (List.getElem?_eq_some_iff.mp reads).1
  have inside := chronicled.le within (Nat.le_refl _)
  -- ids differ in the end, so they differed when the transcript was read
  have distinct := chronicled.distinct.of_parts inside
  have sooner := chronicled.le (Nat.succ_le_succ (Nat.le_of_lt order)) within
  obtain ⟨earlier, posted⟩ := chronicled.posted _ _ _ _ posts
  -- the replies are what the conversation grew by since the request
  obtain ⟨replies, behind⟩ := sooner session.id
  obtain rfl := chronicled.read _ _ _ reads
  refine ⟨replies, ?_, behind.symm, ⟨_, message, posted⟩, fun reply mem id other there => ?_,
    fun reply mem id apart other there => ?_⟩
  · have whole : log (last + 1) session.id =
        log first session.id ++ earlier ++ ⟨message, .user, body⟩ :: replies := by
      rw [← behind, posted]
      simp
    obtain ⟨later, found, rfl⟩ := exists_after?_of_answerTo answered
    rw [eq_of_after? distinct whole found]
  · obtain ⟨n, bound, rfl⟩ := List.mem_iff_getElem.mp there
    have here := getElem?_of_part (sooner id) (List.getElem?_eq_getElem bound)
    -- in its own conversation an older message stands before the reply, elsewhere it is apart
    refine distinct.ne_of_behind behind.symm mem here ?_
    by_cases same : id = session.id
    · subst same
      exact .inr bound
    · exact .inl same
  · obtain ⟨n, bound, rfl⟩ := List.mem_iff_getElem.mp there
    obtain ⟨rest, ending⟩ := inside session.id
    rw [← behind, List.append_assoc] at ending
    exact chronicled.distinct.ne_of_behind ending.symm (List.mem_append_left rest mem)
      (List.getElem?_eq_getElem bound) (.inl apart)

/-- **The answer of a dispatch.** It is made of the messages that came into the conversation of the
session between the request and the reading of the transcript. -/
theorem answers_of_dispatch {before own after : History Call Answer} {request : Request}
    {text : String} (chronicled : Chronicled log (before ++ own ++ after))
    (yields : Yields (conversation.dispatch session request) own (.ok text)) :
    ∃ replies, text = joinTexts replies ∧
      Answers log (before ++ own ++ after).length session request.body (before.length + 1)
        (before.length + own.length) replies := by
  obtain ⟨message, job, waiting, ended, transcript, rfl, -, answered⟩ :=
    exists_events_of_dispatch yields
  -- the first event of the dispatch posts the request, and the last one reads the transcript
  generalize parts : before ++ (⟨.worker (.sendMessage session request.body), .ok message⟩ ::
    ⟨.worker (.startJob session), .ok job⟩ ::
      (waiting ++ [⟨.worker (.readTranscript session), .ok transcript⟩])) ++ after = history
    at chronicled
  have posts : history[before.length]? =
      some ⟨.worker (.sendMessage session request.body), .ok message⟩ := by simp [← parts]
  have reads : history[before.length + (waiting.length + 2)]? =
      some ⟨.worker (.readTranscript session), .ok transcript⟩ := by simp [← parts]
  obtain ⟨replies, joined, answers⟩ := answers_of_events chronicled _ _
    (Nat.lt_add_of_pos_right (Nat.succ_pos _)) posts reads answered
  refine ⟨replies, joined, ?_⟩
  simp only [List.length_cons, List.length_append, List.length_nil, Nat.zero_add]
  exact answers

end Conversation

end AzcRepair
