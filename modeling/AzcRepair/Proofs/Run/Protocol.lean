import AzcRepair.Proofs.Run.Passing
import AzcRepair.Proofs.Run.Rounds

/-!
# The conversation of an iteration

What is said to the worker in a run, and when. The messages of a session are fixed by the sources,
the violations of the pass and the complaints of the compiler; a job is started for every message
but the first; and no job is started while another one is in flight.

* `posts`, `complaints`, `script` — the messages of a session and what they are made of.
* `JobDue`, `Repaired` — what has to come before a job and before a request for a repair.
* `Protocol` — what holds of everything that is done on a session, and `protocol_of_talk`.
* `OneAtATime` — a job is started only when all jobs before it were seen completed.
* `conversation_protocol` — what holds of every run.
-/

namespace AzcRepair

open Procedure (Event History Yields)

namespace Run

open Worker (Session Message)

variable {run : Run} {session : Session} {history past : History Call Answer}

/-! ## Messages

Four readings of a history, each a filter on its events: the texts that were to be posted, those
that were, the complaints of the compiler and the outputs of the builds. Filters go through
concatenation, which is what the rounds need. -/

/-- The text that the event was to post. -/
def post? : Event Call Answer → Option String
  | ⟨.worker (.sendMessage _ text), _⟩ => some text
  | _ => none

/-- The texts of the messages, in their order, those included that could not be posted. -/
def posts (history : History Call Answer) : List String :=
  history.filterMap post?

/-- The text that the event posted. -/
def sent? : Event Call Answer → Option String
  | ⟨.worker (.sendMessage _ text), .ok _⟩ => some text
  | _ => none

/-- The texts of the messages that were posted. -/
def sent (history : History Call Answer) : List String :=
  history.filterMap sent?

/-- What the compiler complained about; clean sources are no complaint. -/
def complaint? : Event Call Answer → Option String
  | ⟨.compile, .ok diagnostics⟩ => if Text.isBlankText diagnostics then none else some diagnostics
  | _ => none

/-- What the compiler complained about, in its order. -/
def complaints (history : History Call Answer) : List String :=
  history.filterMap complaint?

/-- The output of a build that ran. -/
def build? : Event Call Answer → Option Toolchain.BuildOutput
  | ⟨.build, .ok output⟩ => some output
  | _ => none

/-- The outputs of the builds. -/
def builds (history : History Call Answer) : List Toolchain.BuildOutput :=
  history.filterMap build?

/-- All messages that a session can hold: the context, the request for a remedy, and a request for a
repair for each complaint, as long as there are attempts. -/
def script (run : Run) (main target : String) (violations : List Violation)
    (complaints : List String) : List String :=
  (Request.context main target (Violation.log violations)).body ::
    (Request.remediation violations run.registry).body ::
    (complaints.take run.maxRecoveryAttempts.toNat).map fun diagnostics =>
      (Request.recovery diagnostics).body

@[simp] theorem posts_append (first second : History Call Answer) :
    posts (first ++ second) = posts first ++ posts second :=
  List.filterMap_append

@[simp] theorem sent_append (first second : History Call Answer) :
    sent (first ++ second) = sent first ++ sent second :=
  List.filterMap_append

@[simp] theorem complaints_append (first second : History Call Answer) :
    complaints (first ++ second) = complaints first ++ complaints second :=
  List.filterMap_append

@[simp] theorem builds_append (first second : History Call Answer) :
    builds (first ++ second) = builds first ++ builds second :=
  List.filterMap_append

/-! ## What comes before a job and before a repair

The protocol is about order: what may be said depends on what was said before. So it is a
condition on a call and the history in front of it (`InTurn`), and a monitor that remembers the
whole history checks it. Between two requests no job is due, and that is what the proofs carry
along. -/

/-- The last event posted a message, and it was not the first one: a job is to be started for it. -/
def JobDue (past : History Call Answer) : Prop :=
  ∃ earlier session text message,
    past = earlier ++ [⟨.worker (.sendMessage session text), .ok message⟩] ∧ posts earlier ≠ []

/-- The text asks for a repair of what was just compiled: the latest message was answered, the
contract in its answer replaced the target file, and the compiler complained about that. -/
def Repaired (run : Run) (session : Session) (past : History Call Answer) (text : String) : Prop :=
  ∃ earlier asked message work transcript contract diagnostics,
    past = earlier ++ ⟨.worker (.sendMessage session asked), .ok message⟩ :: (work ++
      [⟨.worker (.readTranscript session), .ok transcript⟩,
        ⟨.disk (.write run.workspace.targetFile contract.updatedContent), .ok ()⟩,
        ⟨.compile, .ok diagnostics⟩]) ∧
      posts work = [] ∧ replyIn session (some message) transcript = some contract ∧
      Text.isBlankText diagnostics = false ∧ text = (Request.recovery diagnostics).body

/-- The call posts a message or starts a job. -/
def Call.prompts : Call → Bool
  | worker (.sendMessage ..) | worker (.startJob _) => true
  | _ => false

/-- A job is started exactly when one is due, and after the first two messages only repairs of what
was just compiled are asked for. -/
def InTurn (run : Run) (session : Session) (past : History Call Answer) (call : Call) : Prop :=
  ((∃ session, call = .worker (.startJob session)) ↔ JobDue past) ∧
    ∀ session' text, call = .worker (.sendMessage session' text) → 2 ≤ (posts past).length →
      Repaired run session past text

/-- A job is due right behind a message that was posted, if it is not the first. -/
theorem jobDue_snoc {event : Event Call Answer} :
    JobDue (past ++ [event]) ↔ posts past ≠ [] ∧
      ∃ session text message, event = ⟨.worker (.sendMessage session text), .ok message⟩ := by
  constructor
  · rintro ⟨earlier, session, text, message, parts, posted⟩
    obtain ⟨rfl, same⟩ := List.append_inj' parts rfl
    exact ⟨posted, session, text, message, List.head_eq_of_cons_eq same⟩
  · rintro ⟨posted, session, text, message, rfl⟩
    exact ⟨past, session, text, message, rfl, posted⟩

theorem not_jobDue_of_silent (silent : posts past = []) : ¬ JobDue past := by
  rintro ⟨earlier, session, text, message, rfl, posted⟩
  rw [posts_append] at silent
  exact posted (List.append_eq_nil_iff.mp silent).1

theorem not_jobDue_snoc {call : Call} {answer : Answer call} (quiet : call.prompts = false) :
    ¬ JobDue (past ++ [⟨call, answer⟩]) := by
  rw [jobDue_snoc]
  rintro ⟨-, session, text, message, same⟩
  cases same
  cases quiet

theorem inTurn_quiet {call : Call} (idle : ¬ JobDue past) (quiet : call.prompts = false) :
    InTurn run session past call := by
  refine ⟨⟨?_, fun due => absurd due idle⟩, ?_⟩
  · rintro ⟨_, rfl⟩
    cases quiet
  · rintro _ _ rfl
    cases quiet

/-- The monitor that checks every call against the history in front of it. -/
abbrev turns (run : Run) (session : Session) : Monitor Call Answer (History Call Answer) :=
  .upon (InTurn run session)

/-- After these events, which are in turn, no job is due. -/
def TakesTurns (run : Run) (session : Session) (past history : History Call Answer) : Prop :=
  (turns run session).Accepts past history ∧ ¬ JobDue (past ++ history)

theorem TakesTurns.append {first second : History Call Answer}
    (h : TakesTurns run session past first) (h' : TakesTurns run session (past ++ first) second) :
    TakesTurns run session past (first ++ second) := by
  refine ⟨Monitor.accepts_append.mpr ⟨h.1, ?_⟩, ?_⟩
  · rw [Monitor.upon_after]
    exact h'.1
  · rw [← List.append_assoc]
    exact h'.2

/-- Events that neither post a message nor start a job are in turn unless a job is due. -/
theorem takesTurns_quiet (idle : ¬ JobDue past)
    (quiet : ∀ event ∈ history, event.1.prompts = false) : TakesTurns run session past history := by
  -- each of them leaves no job due, so the next one may come
  induction history generalizing past with
  | nil => exact ⟨trivial, by rwa [List.append_nil]⟩
  | cons event history ih =>
    have first : event.1.prompts = false := quiet event List.mem_cons_self
    obtain ⟨accepted, still⟩ : TakesTurns run session (past ++ [event]) history :=
      ih (not_jobDue_snoc first) fun event mem => quiet event (List.mem_cons_of_mem _ mem)
    refine ⟨⟨inTurn_quiet idle first, accepted⟩, ?_⟩
    rwa [List.append_assoc, List.singleton_append] at still

/-! ## Rounds of repair

One lemma for a request that was applied, one for a request that was thwarted, and one for the
rounds, by induction on their rules; and that three times, for the turns, for the messages and for
what was posted of them. -/

variable {iteration : UInt32} {left : Nat} {text : String} {violations : List Violation}
  {result : Except Failure (Option Outcome)}

theorem posts_quiet (quiet : ∀ event ∈ history, event.1.prompts = false) : posts history = [] := by
  refine List.filterMap_eq_nil_iff.mpr fun event mem => ?_
  obtain ⟨call, answer⟩ := event
  have silent : call.prompts = false := quiet _ mem
  unfold post?
  split
  · next same =>
    cases same
    cases silent
  · rfl

theorem complaints_eq_nil (uncompiled : ∀ event ∈ history, event.1 ≠ .compile) :
    complaints history = [] := by
  refine List.filterMap_eq_nil_iff.mpr fun event mem => ?_
  obtain ⟨call, answer⟩ := event
  unfold complaint?
  split
  · next same =>
    cases same
    exact absurd rfl (uncompiled _ mem)
  · rfl

theorem prompts_of_reads {workspace : Workspace}
    (reads : ∀ event ∈ history, Reads workspace event.1) :
    ∀ event ∈ history, event.1.prompts = false := by
  intro event mem
  obtain same | same := reads event mem
  · rw [same]
    rfl
  · rw [same]
    rfl

theorem prompts_of_awaitsJob {job : String} {call : Call} (h : AwaitsJob session job call) :
    call.prompts = false ∧ call ≠ .compile := by
  obtain ⟨ms, rfl⟩ | rfl := h <;> exact ⟨rfl, nofun⟩

theorem prompts_of_pursues {workspace : Workspace} {job : String} {call : Call}
    (h : Pursues workspace session job call) : call.prompts = false ∧ call ≠ .compile := by
  obtain awaits | rfl | ⟨text, rfl⟩ := h
  · exact prompts_of_awaitsJob awaits
  · exact ⟨rfl, nofun⟩
  · exact ⟨rfl, nofun⟩

/-- A posted request and what follows on it: a job is started at once and not again. -/
theorem posted_turns {message : String} {started : Answer (.worker (.startJob session))}
    {rest : History Call Answer} (idle : ¬ JobDue past) (posted : posts past ≠ [])
    (asks : 2 ≤ (posts past).length → Repaired run session past text)
    (quiet : ∀ event ∈ rest, event.1.prompts = false) :
    TakesTurns run session past (⟨.worker (.sendMessage session text), .ok message⟩ ::
      ⟨.worker (.startJob session), started⟩ :: rest) := by
  have sent : InTurn run session past (.worker (.sendMessage session text)) := by
    refine ⟨⟨nofun, fun due => absurd due idle⟩, ?_⟩
    rintro _ _ ⟨⟩ many
    exact asks many
  -- the message is posted and it is not the first, so its job is due at once
  have due : JobDue (past ++ [⟨.worker (.sendMessage session text), .ok message⟩]) :=
    ⟨past, session, text, message, rfl, posted⟩
  have starts : InTurn run session (past ++ [⟨.worker (.sendMessage session text), .ok message⟩])
      (.worker (.startJob session)) :=
    ⟨⟨fun _ => due, fun _ => ⟨session, rfl⟩⟩, nofun⟩
  -- and not any more when it was started
  have once : ¬ JobDue (past ++ [⟨.worker (.sendMessage session text), .ok message⟩] ++
      [⟨.worker (.startJob session), started⟩]) := by
    rw [jobDue_snoc]
    rintro ⟨-, _, _, _, same⟩
    cases same
  obtain ⟨accepted, still⟩ := takesTurns_quiet once quiet
  refine ⟨⟨sent, starts, accepted⟩, ?_⟩
  rwa [List.append_assoc, List.append_assoc] at still

/-- A request that came to nothing is in turn as far as it went. -/
theorem thwarted_turns (thwarts : Thwarted run session text history) (idle : ¬ JobDue past)
    (posted : posts past ≠ [])
    (asks : 2 ≤ (posts past).length → Repaired run session past text) :
    TakesTurns run session past history := by
  cases thwarts with
  | unposted =>
    refine ⟨⟨⟨⟨nofun, fun due => absurd due idle⟩, ?_⟩, trivial⟩, ?_⟩
    · rintro _ _ ⟨⟩ many
      exact asks many
    · rw [jobDue_snoc]
      rintro ⟨-, _, _, _, same⟩
      cases same
  | unstarted => exact posted_turns idle posted asks (List.forall_mem_nil _)
  | unapplied pursues =>
    exact posted_turns idle posted asks fun event mem => (prompts_of_pursues (pursues event mem)).1

theorem exchanged_turns (exchanges : Exchanged run session text history) (idle : ¬ JobDue past)
    (posted : posts past ≠ [])
    (asks : 2 ≤ (posts past).length → Repaired run session past text) :
    TakesTurns run session past history := by
  obtain ⟨message, job, rest, rfl, pursues⟩ := exchanges.pursued
  exact posted_turns idle posted asks fun event mem => (prompts_of_pursues (pursues event mem)).1

theorem TakesTurns.compiled (turns : TakesTurns run session past history)
    (compiled : Answer .compile) :
    TakesTurns run session past (history ++ [⟨.compile, compiled⟩]) :=
  turns.append (takesTurns_quiet turns.2 (List.forall_mem_singleton.mpr rfl))

/-- After such a request a repair of what the compiler complained about may be asked for. -/
theorem repaired_of_exchanged (exchanges : Exchanged run session text history)
    {diagnostics : String} (broken : Text.isBlankText diagnostics = false) :
    Repaired run session (past ++ (history ++ [⟨.compile, .ok diagnostics⟩]))
      (Request.recovery diagnostics).body := by
  obtain @⟨message, job, polls, transcript, contract, waits, -, accepts⟩ := exchanges
  have silent : posts polls = [] :=
    posts_quiet fun event mem => (prompts_of_awaitsJob (waits event mem)).1
  exact ⟨past, text, message, ⟨.worker (.startJob session), .ok job⟩ :: polls, transcript, contract,
    diagnostics, by simp, silent, accepts, broken, rfl⟩

/-- Such a request posts its text and complains about nothing. -/
theorem posts_posted {message : String} {started : Answer (.worker (.startJob session))}
    {rest : History Call Answer}
    (quiet : ∀ event ∈ rest, event.1.prompts = false ∧ event.1 ≠ .compile) :
    posts (⟨.worker (.sendMessage session text), .ok message⟩ ::
        ⟨.worker (.startJob session), started⟩ :: rest) = [text] ∧
      complaints (⟨.worker (.sendMessage session text), .ok message⟩ ::
        ⟨.worker (.startJob session), started⟩ :: rest) = [] := by
  have silent : posts rest = [] := posts_quiet fun event mem => (quiet event mem).1
  have uncomplaining : complaints rest = [] := complaints_eq_nil fun event mem => (quiet event mem).2
  constructor
  · show text :: posts rest = [text]
    rw [silent]
  · exact uncomplaining

theorem posts_of_exchanged (exchanges : Exchanged run session text history) :
    posts history = [text] ∧ complaints history = [] := by
  obtain ⟨message, job, rest, rfl, pursues⟩ := exchanges.pursued
  exact posts_posted fun event mem => prompts_of_pursues (pursues event mem)

theorem posts_of_thwarted (thwarts : Thwarted run session text history) :
    posts history = [text] ∧ complaints history = [] := by
  cases thwarts with
  | unposted => exact ⟨rfl, rfl⟩
  | unstarted => exact posts_posted (List.forall_mem_nil _)
  | unapplied pursues => exact posts_posted fun event mem => prompts_of_pursues (pursues event mem)

theorem sent_quiet (quiet : ∀ event ∈ history, event.1.prompts = false) : sent history = [] := by
  refine List.filterMap_eq_nil_iff.mpr fun event mem => ?_
  obtain ⟨call, answer⟩ := event
  have silent : call.prompts = false := quiet _ mem
  unfold sent?
  split
  · next same =>
    cases same
    cases silent
  · rfl

theorem sent_of_exchanged (exchanges : Exchanged run session text history) :
    sent history = [text] := by
  obtain ⟨message, job, rest, rfl, pursues⟩ := exchanges.pursued
  have silent : sent rest = [] :=
    sent_quiet fun event mem => (prompts_of_pursues (pursues event mem)).1
  show text :: sent rest = [text]
  rw [silent]

theorem sent_of_thwarted (thwarts : Thwarted run session text history) :
    sent history <+: [text] := by
  cases thwarts with
  | unposted => exact List.nil_prefix
  | unstarted => exact List.prefix_refl _
  | @unapplied message job rest pursues =>
    have silent : sent rest = [] :=
      sent_quiet fun event mem => (prompts_of_pursues (pursues event mem)).1
    show text :: sent rest <+: [text]
    exact List.cons_prefix_cons.mpr ⟨rfl, List.prefix_nil.mpr silent⟩

theorem rounds_turns (rounds : Rounds run session iteration left text history result)
    (idle : ¬ JobDue past) (posted : posts past ≠ [])
    (asks : 2 ≤ (posts past).length → Repaired run session past text) :
    TakesTurns run session past history := by
  -- the induction is on the rounds; each leaves behind what the next request has to ask about
  induction rounds generalizing past with
  | thwarted thwarts => exact thwarted_turns thwarts idle posted asks
  | uncompiled exchanges => exact (exchanged_turns exchanges idle posted asks).compiled _
  | mended exchanges => exact (exchanged_turns exchanges idle posted asks).compiled _
  | exhausted exchanges => exact (exchanged_turns exchanges idle posted asks).compiled _
  | @again left text diagnostics history later result exchanges broken _ ih =>
    have first := (exchanged_turns exchanges idle posted asks).compiled (.ok diagnostics)
    have further : posts (past ++ (history ++ [⟨.compile, .ok diagnostics⟩])) ≠ [] := by
      rw [posts_append]
      exact List.append_ne_nil_of_left_ne_nil posted _
    have later := ih first.2 further fun _ => repaired_of_exchanged exchanges broken
    have both := first.append later
    rwa [List.append_assoc, List.singleton_append] at both

/-- The messages of the rounds: the request, and a request for a repair for each complaint. -/
theorem posts_of_rounds (rounds : Rounds run session iteration left text history result) :
    posts history = text ::
      ((complaints history).take left).map fun diagnostics => (Request.recovery diagnostics).body := by
  induction rounds with
  | thwarted thwarts =>
    obtain ⟨posted, uncomplaining⟩ := posts_of_thwarted thwarts
    rw [posted, uncomplaining, List.take_nil, List.map_nil]
  | @uncompiled left text history failure exchanges =>
    obtain ⟨posted, uncomplaining⟩ := posts_of_exchanged exchanges
    have silent : complaints [⟨.compile, .error failure⟩] = [] := rfl
    rw [posts_append, complaints_append, posted, uncomplaining, silent, List.nil_append,
      List.take_nil]
    rfl
  | @mended left text diagnostics history exchanges blank =>
    obtain ⟨posted, uncomplaining⟩ := posts_of_exchanged exchanges
    have silent : complaints [⟨.compile, .ok diagnostics⟩] = [] := by
      simp [complaints, complaint?, blank]
    rw [posts_append, complaints_append, posted, uncomplaining, silent, List.nil_append,
      List.take_nil]
    rfl
  -- there is a complaint left, but no attempt to repair it
  | exhausted exchanges broken =>
    obtain ⟨posted, -⟩ := posts_of_exchanged exchanges
    rw [posts_append, posted, List.take_zero]
    rfl
  | @again left text diagnostics history later result exchanges broken _ ih =>
    obtain ⟨posted, uncomplaining⟩ := posts_of_exchanged exchanges
    have asked : posts (⟨.compile, .ok diagnostics⟩ :: later) = posts later := rfl
    have complained : complaints (⟨.compile, .ok diagnostics⟩ :: later) =
        diagnostics :: complaints later := by
      simp [complaints, complaint?, broken]
    rw [posts_append, complaints_append, posted, uncomplaining, asked, complained, ih]
    rfl

/-- Of the messages of the rounds only the last one may not have been posted. -/
theorem sent_of_rounds (rounds : Rounds run session iteration left text history result) :
    sent history <+: posts history := by
  have exchanged {text : String} {history : History Call Answer}
      (exchanges : Exchanged run session text history) : sent history = posts history :=
    (sent_of_exchanged exchanges).trans (posts_of_exchanged exchanges).1.symm
  induction rounds with
  | thwarted thwarts =>
    rw [(posts_of_thwarted thwarts).1]
    exact sent_of_thwarted thwarts
  | uncompiled exchanges | mended exchanges _ | exhausted exchanges _ =>
    rw [sent_append, posts_append, exchanged exchanges]
    exact List.prefix_refl _
  | again exchanges _ _ ih =>
    rw [sent_append, posts_append, exchanged exchanges]
    exact (List.prefix_append_right_inj _).mpr ih

/-! ## Everything done on a session

With the context in front the rounds make up the talk, and the teardown behind it changes nothing.
The fields of `Protocol` are then read off the turns and the messages. -/

/-- What holds of everything that is done on a session, its teardown included, in a pass whose build
reported these violations. -/
structure Protocol (run : Run) (session : Session) (violations : List Violation)
    (talk : History Call Answer) : Prop where
  /-- The worker is dealt with on this session only. -/
  own : ∀ event ∈ talk, ∀ request, event.1 = .worker request →
    request.session? = some session ∨ request = .teardownSession session
  /-- The messages are those of the script for the sources as they are read when the session was
  opened and for what the compiler complains about later, and nothing else. -/
  messages : posts talk = [] ∨ ∃ main target rest,
    talk = ⟨.disk (.readText run.workspace.mainFile), .ok main⟩ ::
        ⟨.disk (.readText run.workspace.targetFile), .ok target⟩ :: rest ∧
      posts talk <+: script run main target violations (complaints talk)
  /-- No message follows on one that could not be posted. -/
  unsent : sent talk <+: posts talk
  /-- A job is started right after each message that was posted, but the first, and at no other
  time. -/
  jobs : ∀ before event after, talk = before ++ event :: after →
    ((∃ session, event.1 = .worker (.startJob session)) ↔ JobDue before)
  settled : ¬ JobDue talk
  /-- After the first two messages a message asks for a repair of the fix before it, which was
  written and compiled. -/
  repairs : ∀ before event after, talk = before ++ event :: after →
    ∀ session' text, event.1 = .worker (.sendMessage session' text) → 2 ≤ (posts before).length →
      Repaired run session before text

/-- The context is posted first, so no job is due before it or for it. -/
theorem context_turns (main target : String) (posted : Answer (.worker (.sendMessage session text))) :
    TakesTurns run session [] [⟨.disk (.readText run.workspace.mainFile), .ok main⟩,
      ⟨.disk (.readText run.workspace.targetFile), .ok target⟩,
      ⟨.worker (.sendMessage session text), posted⟩] := by
  let reads : History Call Answer := [⟨.disk (.readText run.workspace.mainFile), .ok main⟩,
    ⟨.disk (.readText run.workspace.targetFile), .ok target⟩]
  have start : ¬ JobDue ([] : History Call Answer) := not_jobDue_of_silent rfl
  have read : TakesTurns run session [] reads :=
    takesTurns_quiet start (List.forall_mem_cons.mpr ⟨rfl, List.forall_mem_singleton.mpr rfl⟩)
  have silent : posts reads = [] := rfl
  refine read.append ⟨⟨⟨⟨nofun, fun due => absurd due read.2⟩, ?_⟩, trivial⟩, ?_⟩
  · rintro _ _ ⟨⟩ many
    rw [List.nil_append, silent] at many
    cases many
  · rw [List.nil_append, jobDue_snoc]
    exact fun due => due.1 silent

/-- A talk is in turn from its first call on. -/
theorem talk_turns {talk : History Call Answer}
    (talks : Talk run session iteration violations talk result) :
    TakesTurns run session [] talk := by
  cases talks with
  | unread reads => exact takesTurns_quiet (not_jobDue_of_silent rfl) (prompts_of_reads reads)
  | unposted => exact context_turns _ _ _
  | @held main target message later _ rounds =>
    have context : TakesTurns run session [] [⟨.disk (.readText run.workspace.mainFile), .ok main⟩,
        ⟨.disk (.readText run.workspace.targetFile), .ok target⟩,
        ⟨.worker (.sendMessage session
          (Request.context main target (Violation.log violations)).body), .ok message⟩] :=
      context_turns main target (.ok message)
    -- one message was posted, so the request for a remedy need not ask for a repair
    have further := rounds_turns rounds context.2 (List.cons_ne_nil _ _) fun many => absurd many
      (by decide : ¬ 2 ≤ 1)
    exact context.append further

/-- The messages of a talk are the beginning of its script. -/
theorem talk_messages {talk : History Call Answer}
    (talks : Talk run session iteration violations talk result) :
    posts talk = [] ∨ ∃ main target rest,
      talk = ⟨.disk (.readText run.workspace.mainFile), .ok main⟩ ::
          ⟨.disk (.readText run.workspace.targetFile), .ok target⟩ :: rest ∧
        posts talk <+: script run main target violations (complaints talk) := by
  cases talks with
  | unread reads => exact .inl (posts_quiet (prompts_of_reads reads))
  | @unposted main target failure =>
    exact .inr ⟨main, target, _, rfl, List.prefix_append [_] _⟩
  | @held main target message later _ rounds =>
    refine .inr ⟨main, target, _, rfl, [], ?_⟩
    have posted := posts_of_rounds rounds
    rw [List.append_nil]
    show _ :: posts later = _ :: _ :: ((complaints later).take _).map _
    rw [posted]

/-- Of the messages of a talk only the last one may not have been posted. -/
theorem talk_sent {talk : History Call Answer}
    (talks : Talk run session iteration violations talk result) : sent talk <+: posts talk := by
  cases talks with
  | unread reads =>
    rw [sent_quiet (prompts_of_reads reads)]
    exact List.nil_prefix
  | unposted => exact List.nil_prefix
  | held rounds => exact (List.prefix_append_right_inj [_]).mpr (sent_of_rounds rounds)

/-- A teardown neither posts a message nor starts a job, and compiles nothing. -/
theorem protocol_of_talk {talk : History Call Answer} {answer : Except Worker.Failure Unit}
    (talks : Talk run session iteration violations talk result) :
    Protocol run session violations (talk ++ [⟨.worker (.teardownSession session), answer⟩]) := by
  have turns : TakesTurns run session [] (talk ++ [⟨.worker (.teardownSession session), answer⟩]) :=
    (talk_turns talks).append
      (takesTurns_quiet (talk_turns talks).2 (List.forall_mem_singleton.mpr rfl))
  have everywhere := Monitor.accepts_upon.mp turns.1
  -- the teardown is one call more and posts nothing
  have posted : posts (talk ++ [⟨.worker (.teardownSession session), answer⟩]) = posts talk := by
    rw [posts_append]
    exact List.append_nil _
  have complained : complaints (talk ++ [⟨.worker (.teardownSession session), answer⟩]) =
      complaints talk := by
    rw [complaints_append]
    exact List.append_nil _
  have unsent : sent (talk ++ [⟨.worker (.teardownSession session), answer⟩]) = sent talk := by
    rw [sent_append]
    exact List.append_nil _
  refine ⟨List.forall_mem_append.mpr ⟨?_, ?_⟩, ?_, ?_, ?_, turns.2, ?_⟩
  · rintro ⟨call, answer⟩ mem request rfl
    have stays : Converses run.workspace session (.worker request) := talks.conversing _ mem
    cases request with
    | sendMessage | startJob | pollJob | readTranscript => exact .inl (congrArg some stays)
    | _ => exact stays.elim
  · refine List.forall_mem_singleton.mpr ?_
    rintro _ ⟨⟩
    exact .inr rfl
  · rw [posted, complained]
    obtain silent | ⟨main, target, rest, rfl, messages⟩ := talk_messages talks
    · exact .inl silent
    · exact .inr ⟨main, target, _, rfl, messages⟩
  · rw [unsent, posted]
    exact talk_sent talks
  · exact fun before event after parts => (everywhere before event after parts).1
  · exact fun before event after parts => (everywhere before event after parts).2

/-! ## One job at a time

That no two jobs are in flight is a statement about the whole run and not about one session. What
is carried along is that all jobs of the past were seen completed; a request that fails may leave
one open, but then the run is over and starts no other. `Serial` has both: it promises the
finished jobs only if the part ends well. -/

/-- Every job that was started was seen completed later. -/
def Finished (history : History Call Answer) : Prop :=
  ∀ earlier session job later, history = earlier ++ ⟨.worker (.startJob session), .ok job⟩ :: later →
    Completes session job later

/-- A job is started only when all jobs before it were seen completed. -/
def OneAtATime (history : History Call Answer) : Prop :=
  ∀ before event after, history = before ++ event :: after →
    (∃ session, event.1 = .worker (.startJob session)) → Finished before

/-- A job that was seen completed stays so in a longer history. -/
theorem Completes.mono {job : String} {some all : History Call Answer}
    (h : Completes session job some) (among : some ⊆ all) : Completes session job all := by
  obtain ⟨reason, seen⟩ := h
  exact ⟨reason, among seen⟩

/-- An event in front: if it starts a job, that job has to be completed behind it. -/
theorem finished_cons {event : Event Call Answer} :
    Finished (event :: history) ↔
      (∀ session job, event = ⟨.worker (.startJob session), .ok job⟩ →
        Completes session job history) ∧ Finished history := by
  constructor
  · intro finished
    refine ⟨?_, fun earlier session job later parts => ?_⟩
    · rintro session job rfl
      exact finished [] session job history rfl
    · exact finished (event :: earlier) session job later (by rw [parts, List.cons_append])
  · rintro ⟨first, rest⟩ earlier session job later parts
    cases earlier with
    | nil =>
      obtain ⟨rfl, rfl⟩ := List.cons.inj parts
      exact first session job rfl
    | cons other earlier => exact rest earlier session job later (List.cons.inj parts).2

theorem Finished.append {first second : History Call Answer} (h : Finished first)
    (h' : Finished second) : Finished (first ++ second) := by
  induction first with
  | nil => exact h'
  | cons event first ih =>
    obtain ⟨completes, rest⟩ := finished_cons.mp h
    refine finished_cons.mpr ⟨fun session job same => ?_, ih rest⟩
    exact (completes session job same).mono (List.subset_append_left _ _)

/-- No call of the history starts a job. -/
def Unstarted (history : History Call Answer) : Prop :=
  ∀ event ∈ history, ∀ session, event.1 ≠ .worker (.startJob session)

theorem unstarted_of_quiet (quiet : ∀ event ∈ history, event.1.prompts = false) :
    Unstarted history := by
  intro event mem session same
  have silent := quiet event mem
  rw [same] at silent
  cases silent

theorem finished_of_unstarted (unstarted : Unstarted history) : Finished history := by
  rintro earlier session job later rfl
  exact absurd rfl (unstarted ⟨.worker (.startJob session), .ok job⟩ (by simp) session)

/-- A job may be started when all jobs before it are finished. -/
abbrev single : Monitor Call Answer (History Call Answer) :=
  .upon fun past call => (∃ session, call = .worker (.startJob session)) → Finished past

/-- These events start jobs one at a time, and when they end well all jobs are finished. -/
def Serial (past history : History Call Answer) (well : Prop) : Prop :=
  single.Accepts past history ∧ (well → Finished (past ++ history))

/-- One part behind another, which begins with all jobs finished. -/
theorem Serial.append {first second : History Call Answer} {well : Prop}
    (h : Serial past first True)
    (h' : Finished (past ++ first) → Serial (past ++ first) second well) :
    Serial past (first ++ second) well := by
  obtain ⟨accepted, ends⟩ := h' (h.2 trivial)
  refine ⟨Monitor.accepts_append.mpr ⟨h.1, ?_⟩, ?_⟩
  · rw [Monitor.upon_after]
    exact accepted
  · rw [← List.append_assoc]
    exact ends

theorem Serial.weaken {well better : Prop} (h : Serial past history well) (imp : better → well) :
    Serial past history better :=
  ⟨h.1, fun ends => h.2 (imp ends)⟩

/-- Calls that start no job may come at any time. -/
theorem accepts_of_unstarted (unstarted : Unstarted history) : single.Accepts past history := by
  refine Monitor.accepts_upon.mpr ?_
  rintro before event after rfl ⟨session, same⟩
  exact absurd same (unstarted event (by simp) session)

/-- They leave no job open that was not open before. -/
theorem serial_of_unstarted (finished : Finished past) (unstarted : Unstarted history) :
    Serial past history True :=
  ⟨accepts_of_unstarted unstarted, fun _ => finished.append (finished_of_unstarted unstarted)⟩

/-- A posted request starts its job when all jobs before it are finished. -/
theorem serial_posted {message : String} {started : Answer (.worker (.startJob session))}
    {rest : History Call Answer} (finished : Finished past)
    (quiet : ∀ event ∈ rest, event.1.prompts = false) :
    Serial past (⟨.worker (.sendMessage session text), .ok message⟩ ::
      ⟨.worker (.startJob session), started⟩ :: rest)
      (∀ job, started = .ok job → Completes session job rest) := by
  have unstarted : Unstarted rest := unstarted_of_quiet quiet
  have sent : Finished (past ++ [⟨.worker (.sendMessage session text), .ok message⟩]) := by
    refine finished.append (finished_of_unstarted (List.forall_mem_singleton.mpr ?_))
    exact nofun
  refine ⟨⟨nofun, fun _ => sent, accepts_of_unstarted unstarted⟩, fun completes => ?_⟩
  refine finished.append (finished_cons.mpr ⟨nofun, finished_cons.mpr ⟨?_, ?_⟩⟩)
  · rintro _ job ⟨⟩
    exact completes job rfl
  · exact finished_of_unstarted unstarted

theorem serial_exchanged (exchanges : Exchanged run session text history)
    (finished : Finished past) : Serial past history True := by
  obtain @⟨message, job, polls, transcript, contract, waits, completes, -⟩ := exchanges
  have quiet : ∀ event ∈ polls ++ [⟨.worker (.readTranscript session), .ok transcript⟩,
      ⟨.disk (.write run.workspace.targetFile contract.updatedContent), .ok ()⟩],
      event.1.prompts = false := by
    refine List.forall_mem_append.mpr
      ⟨fun event mem => (prompts_of_awaitsJob (waits event mem)).1, ?_⟩
    exact List.forall_mem_cons.mpr ⟨rfl, List.forall_mem_singleton.mpr rfl⟩
  refine (serial_posted finished quiet).weaken fun _ => ?_
  rintro _ ⟨⟩
  exact completes.mono (List.subset_append_left _ _)

/-- One that was thwarted may leave its job open. -/
theorem serial_thwarted (thwarts : Thwarted run session text history) (finished : Finished past) :
    Serial past history False := by
  cases thwarts with
  | unposted =>
    exact ⟨accepts_of_unstarted (List.forall_mem_singleton.mpr nofun), nofun⟩
  | unstarted => exact (serial_posted finished (List.forall_mem_nil _)).weaken nofun
  | unapplied pursues =>
    refine (serial_posted finished fun event mem => ?_).weaken nofun
    exact (prompts_of_pursues (pursues event mem)).1

/-- What starts no job leaves the order of jobs as it is. -/
theorem Serial.unstarted {well : Prop} {more : History Call Answer}
    (serial : Serial past history well) (unstarted : Unstarted more) :
    Serial past (history ++ more) well := by
  refine ⟨Monitor.accepts_append.mpr ⟨serial.1, accepts_of_unstarted unstarted⟩, fun ends => ?_⟩
  rw [← List.append_assoc]
  exact (serial.2 ends).append (finished_of_unstarted unstarted)

theorem unstarted_compile (compiled : Answer .compile) : Unstarted [⟨.compile, compiled⟩] :=
  List.forall_mem_singleton.mpr nofun

theorem serial_rounds (rounds : Rounds run session iteration left text history result)
    (finished : Finished past) : Serial past history (result.isOk = true) := by
  induction rounds generalizing past with
  | thwarted thwarts => exact (serial_thwarted thwarts finished).weaken nofun
  | uncompiled exchanges =>
    exact ((serial_exchanged exchanges finished).unstarted (unstarted_compile _)).weaken fun _ => trivial
  | mended exchanges =>
    exact ((serial_exchanged exchanges finished).unstarted (unstarted_compile _)).weaken fun _ => trivial
  | exhausted exchanges =>
    exact ((serial_exchanged exchanges finished).unstarted (unstarted_compile _)).weaken fun _ => trivial
  | @again left text diagnostics history later result exchanges broken _ ih =>
    -- the request of this round is finished before the next one begins
    have first := (serial_exchanged exchanges finished).unstarted (unstarted_compile (.ok diagnostics))
    have both := first.append fun finished => ih finished
    rwa [List.append_assoc, List.singleton_append] at both

theorem serial_talk {talk : History Call Answer}
    (talks : Talk run session iteration violations talk result) (finished : Finished past) :
    Serial past talk (result.isOk = true) := by
  cases talks with
  | unread reads =>
    have unstarted : Unstarted talk := unstarted_of_quiet (prompts_of_reads reads)
    exact (serial_of_unstarted finished unstarted).weaken fun _ => trivial
  | unposted =>
    refine ⟨accepts_of_unstarted ?_, nofun⟩
    simp [Unstarted]
  | @held main target message later _ rounds =>
    have context : Serial past [⟨.disk (.readText run.workspace.mainFile), .ok main⟩,
        ⟨.disk (.readText run.workspace.targetFile), .ok target⟩,
        ⟨.worker (.sendMessage session
          (Request.context main target (Violation.log violations)).body), .ok message⟩] True :=
      serial_of_unstarted finished (by simp [Unstarted])
    exact context.append fun finished => serial_rounds rounds finished

/-! ## Passes

A pass says nothing before its session is open. Its inspection and archive are known by their
calls, and the failed attempts at a session by `Unattached`; behind the call that opens the
session comes the talk, and nothing else in the pass builds or attaches anything. -/

/-- Nothing was said and no session was opened. -/
def Silence (history : History Call Answer) : Prop :=
  ∀ event ∈ history, event.1.prompts = false ∧ attaches event = false

theorem attaches_of_ne {call : Call} (answer : Answer call)
    (other : ∀ session index, call ≠ .worker (.attachIndex session index)) :
    attaches ⟨call, answer⟩ = false := by
  unfold attaches
  split
  · next same =>
    cases same
    exact absurd rfl (other _ _)
  · rfl

theorem silence_of_inspects {inspected : History Call Answer} {found : Except Failure Finding}
    (inspects : Yields run.inspect.run inspected found) : Silence inspected := by
  rintro ⟨call, answer⟩ mem
  have looks : Inspects run.workspace call := (only_inspect run).of_mem inspects _ mem
  rcases looks with rfl | rfl | rfl | rfl | ⟨text, rfl | rfl⟩ | ⟨text, now, rfl | rfl | rfl⟩
  all_goals exact ⟨rfl, attaches_of_ne answer nofun⟩

theorem silence_of_archives {workspace : Workspace} {now : Instant}
    (archives : ∀ event ∈ history, Archives workspace iteration now event.1) : Silence history := by
  rintro ⟨call, answer⟩ mem
  have saves : Archives workspace iteration now call := archives _ mem
  rcases saves with rfl | rfl | rfl
  all_goals exact ⟨rfl, attaches_of_ne answer nofun⟩

theorem prompts_of_setsUp {call : Call} (h : SetsUp call) : call.prompts = false := by
  cases call with
  | worker request => cases request <;> first | rfl | exact h.elim
  | _ => rfl

theorem silence_of_unattached (unattached : Unattached history) : Silence history :=
  fun event mem => ⟨prompts_of_setsUp (unattached event mem).1, (unattached event mem).2⟩

theorem attaches_of_converses {workspace : Workspace} {call : Call}
    (h : Converses workspace session call) (answer : Answer call) :
    attaches ⟨call, answer⟩ = false := by
  refine attaches_of_ne answer ?_
  rintro _ _ rfl
  exact h

/-- Where no build was asked for there is no output. -/
theorem builds_eq_nil (unbuilt : ∀ event ∈ history, event.1 ≠ .build) : builds history = [] := by
  refine List.filterMap_eq_nil_iff.mpr fun event mem => ?_
  obtain ⟨call, answer⟩ := event
  unfold build?
  split
  · next same =>
    cases same
    exact absurd rfl (unbuilt _ mem)
  · rfl

theorem builds_of_talk {talk : History Call Answer} {answer : Except Worker.Failure Unit}
    (talks : Talk run session iteration violations talk result) :
    builds (talk ++ [⟨.worker (.teardownSession session), answer⟩]) = [] := by
  refine builds_eq_nil (List.forall_mem_append.mpr ⟨fun event mem same => ?_, ?_⟩)
  · have stays := talks.conversing event mem
    rw [same] at stays
    exact stays
  · exact List.forall_mem_singleton.mpr nofun

theorem builds_of_archives {workspace : Workspace} {now : Instant}
    (archives : ∀ event ∈ history, Archives workspace iteration now event.1) :
    builds history = [] := by
  refine builds_eq_nil fun event mem same => ?_
  have saves := archives event mem
  rw [same] at saves
  rcases saves with made | made | filled
  · cases made
  · cases made
  · cases filled

theorem builds_of_unattached (unattached : Unattached history) : builds history = [] := by
  refine builds_eq_nil fun event mem same => ?_
  have sets := (unattached event mem).1
  rw [same] at sets
  exact sets

/-- What a pass says to the worker. -/
inductive Conversed (run : Run) : History Call Answer → Prop
  /-- No session was opened, and nothing was said. -/
  | silent {pass : History Call Answer} (silence : Silence pass) : Conversed run pass
  /-- A session was opened, the only one, after the build of the pass, the only one too. Everything
  that was said was said after that, on the session and about the violations of that build. -/
  | spoken {before talk : History Call Answer} {session : Session} {index : String}
    {output : Toolchain.BuildOutput} (silence : Silence before)
    (once : ∀ event ∈ talk, attaches event = false)
    (built : builds before = [output] ∧ builds talk = [])
    (protocol : Protocol run session (Violation.extract run.repeats output.rawLog) talk) :
    Conversed run (before ++ ⟨.worker (.attachIndex session index), .ok ()⟩ :: talk)

/-- The part of a pass before its iteration says nothing. -/
theorem silence_of_inspected {inspected : History Call Answer} {found : Except Failure Finding}
    (inspects : Yields run.inspect.run inspected found) :
    Silence (⟨.cancelled, false⟩ :: inspected) :=
  List.forall_mem_cons.mpr ⟨⟨rfl, rfl⟩, silence_of_inspects inspects⟩

/-- A pass with an iteration: nothing is said before a session is open, and then the talk on it
follows the protocol. -/
theorem conversed_iterated {inspected iterated : History Call Answer} {violation : Violation}
    {more : List Violation}
    (inspects : Yields run.inspect.run inspected (.ok (.built (violation :: more))))
    (iterates : Yields (run.iterate iteration (violation :: more)).run iterated result) :
    Conversed run (⟨.cancelled, false⟩ :: (inspected ++ iterated)) := by
  have looked := silence_of_inspected inspects
  obtain ⟨clean, output, now, -, found, rfl⟩ := inspect_surveyed inspects
  rw [← List.cons_append]
  cases iterate_iterated iterates with
  | unsaved archives =>
    have saved := silence_of_archives archives
    exact .silent (List.forall_mem_append.mpr
      ⟨looked, List.forall_mem_cons.mpr ⟨⟨rfl, rfl⟩, saved⟩⟩)
  | unopened archives fails =>
    have saved := silence_of_archives archives
    refine .silent (List.forall_mem_append.mpr
      ⟨looked, List.forall_mem_cons.mpr ⟨⟨rfl, rfl⟩, ?_⟩⟩)
    exact List.forall_mem_append.mpr ⟨saved, silence_of_unattached fails⟩
  | @held time archiving opening talk session _ answer archives opens talks =>
    obtain @⟨setups, index, unattached, -⟩ := opens
    have saved := silence_of_archives archives
    have protocol : Protocol run session (violation :: more)
        (talk ++ [⟨.worker (.teardownSession session), answer⟩]) := protocol_of_talk talks
    rw [found] at protocol
    -- the pass up to the call that opens the session
    let before : History Call Answer := (⟨.cancelled, false⟩ :: inspection run clean output now) ++
      ⟨.clock, time⟩ :: (archiving ++ setups)
    have silence : Silence before := List.forall_mem_append.mpr ⟨looked,
      List.forall_mem_cons.mpr ⟨⟨rfl, rfl⟩,
        List.forall_mem_append.mpr ⟨saved, silence_of_unattached unattached⟩⟩⟩
    have spoken : Conversed run (before ++ ⟨.worker (.attachIndex session index), .ok ()⟩ ::
        (talk ++ [⟨.worker (.teardownSession session), answer⟩])) := by
      refine .spoken silence ?_ ⟨?_, builds_of_talk talks⟩ protocol
      · refine List.forall_mem_append.mpr ⟨fun event mem => ?_, List.forall_mem_singleton.mpr rfl⟩
        exact attaches_of_converses (talks.conversing event mem) event.2
      · show output :: builds (archiving ++ setups) = [output]
        rw [builds_append, builds_of_archives archives, builds_of_unattached unattached]
        rfl
    simpa [before] using spoken

theorem conversed_mending {progress : Progress} {pass : History Call Answer}
    (mends : Mending run progress pass) : Conversed run pass := by
  obtain ⟨inspects, iterates⟩ := mends
  exact conversed_iterated inspects iterates

theorem conversed_ending {progress : Progress} {pass : History Call Answer}
    {outcome : Except Failure Outcome} (ends : Ending run progress left pass outcome) :
    Conversed run pass := by
  cases ends with
  | stopped => exact .silent (List.forall_mem_singleton.mpr ⟨rfl, rfl⟩)
  | uncounted => exact .silent (List.forall_mem_singleton.mpr ⟨rfl, rfl⟩)
  | failed inspects => exact .silent (silence_of_inspected inspects)
  | broken inspects => exact .silent (silence_of_inspected inspects)
  | converged inspects => exact .silent (silence_of_inspected inspects)
  | spent inspects => exact .silent (silence_of_inspected inspects)
  | iterated inspects iterates => exact conversed_iterated inspects iterates

theorem unstarted_of_silence (silence : Silence history) : Unstarted history :=
  unstarted_of_quiet fun event mem => (silence event mem).1

/-- An iteration starts its jobs one at a time, and they are finished unless it fails. -/
theorem serial_iterated {inspected iterated : History Call Answer} {violation : Violation}
    {more : List Violation}
    (inspects : Yields run.inspect.run inspected (.ok (.built (violation :: more))))
    (iterates : Yields (run.iterate iteration (violation :: more)).run iterated result)
    (finished : Finished past) :
    Serial past (⟨.cancelled, false⟩ :: (inspected ++ iterated)) (result.isOk = true) := by
  have looked : Serial past (⟨.cancelled, false⟩ :: inspected) True :=
    serial_of_unstarted finished (unstarted_of_silence (silence_of_inspected inspects))
  rw [← List.cons_append]
  refine looked.append fun finished => ?_
  cases iterate_iterated iterates with
  | unsaved archives =>
    refine ⟨accepts_of_unstarted (unstarted_of_silence ?_), nofun⟩
    exact List.forall_mem_cons.mpr ⟨⟨rfl, rfl⟩, silence_of_archives archives⟩
  | unopened archives fails =>
    refine ⟨accepts_of_unstarted (unstarted_of_silence ?_), nofun⟩
    exact List.forall_mem_cons.mpr ⟨⟨rfl, rfl⟩, List.forall_mem_append.mpr
      ⟨silence_of_archives archives, silence_of_unattached fails⟩⟩
  | @held time archiving opening talk session _ answer archives opens talks =>
    obtain @⟨setups, index, unattached, -⟩ := opens
    have ready : Unstarted (⟨.clock, time⟩ :: (archiving ++ (setups ++
        [⟨.worker (.attachIndex session index), .ok ()⟩]))) := by
      refine List.forall_mem_cons.mpr ⟨nofun, List.forall_mem_append.mpr
        ⟨unstarted_of_silence (silence_of_archives archives), List.forall_mem_append.mpr ⟨?_, ?_⟩⟩⟩
      · exact unstarted_of_silence (silence_of_unattached unattached)
      · exact List.forall_mem_singleton.mpr nofun
    have closes : Unstarted [⟨.worker (.teardownSession session), answer⟩] :=
      List.forall_mem_singleton.mpr nofun
    have serial := (serial_of_unstarted finished ready).append fun finished =>
      (serial_talk talks finished).unstarted closes
    simpa using serial

/-- The passes of a run start their jobs one at a time. -/
theorem serial_passing {progress : Progress} {passes : List (History Call Answer)}
    {outcome : Except Failure Outcome} (passing : Passing run progress left passes outcome)
    (finished : Finished past) : single.Accepts past passes.flatten := by
  -- the induction is on the passes; before each of them all jobs are finished
  induction passing generalizing past with
  | last ends =>
    rw [List.flatten_singleton]
    -- a pass without an iteration starts no job
    have quiet {inspected : History Call Answer} {found : Except Failure Finding}
        (inspects : Yields run.inspect.run inspected found) :
        single.Accepts past (⟨.cancelled, false⟩ :: inspected) :=
      accepts_of_unstarted (unstarted_of_silence (silence_of_inspected inspects))
    cases ends with
    | stopped => exact accepts_of_unstarted (List.forall_mem_singleton.mpr nofun)
    | uncounted => exact accepts_of_unstarted (List.forall_mem_singleton.mpr nofun)
    | failed inspects => exact quiet inspects
    | broken inspects => exact quiet inspects
    | converged inspects => exact quiet inspects
    | spent inspects => exact quiet inspects
    | iterated inspects iterates => exact (serial_iterated inspects iterates finished).1
  | further mends _ ih =>
    obtain ⟨inspects, iterates⟩ := mends
    obtain ⟨accepted, ends⟩ := serial_iterated inspects iterates finished
    rw [List.flatten_cons]
    refine Monitor.accepts_append.mpr ⟨accepted, ?_⟩
    rw [Monitor.upon_after]
    exact ih (ends rfl)

theorem conversed_passing {progress : Progress} {passes : List (History Call Answer)}
    {outcome : Except Failure Outcome} (passing : Passing run progress left passes outcome) :
    ∀ pass ∈ passes, Conversed run pass := by
  induction passing with
  | last ends => exact List.forall_mem_singleton.mpr (conversed_ending ends)
  | further mends _ ih => exact List.forall_mem_cons.mpr ⟨conversed_mending mends, ih⟩

/-! ## Whole runs

The prelude is silent, the sections are the passes, and the jobs of all of them are in one order.
-/

theorem silence_of_checks {workspace : Workspace}
    (checks : ∀ event ∈ history, Checks workspace event.1) : Silence history := by
  rintro ⟨call, answer⟩ mem
  have check : Checks workspace call := checks _ mem
  rcases check with rfl | rfl | rfl | rfl
  all_goals exact ⟨rfl, attaches_of_ne answer nofun⟩

/-- **Conversation protocol.** In every run, whatever the world answers: nothing is said before the
first pass. In a pass without a session nothing is said; in a pass with one, everything is said on
it, and the messages are those of the script for the present sources, the violations of the build of
that pass and the complaints of the compiler. A job is started right after every message that was
posted, except the context, and at no other time. A request for a repair comes after the fix before
it was written and compiled. Whenever a job is started, every earlier job of the run was seen
completed. -/
theorem conversation_protocol (run : Run) {history : History Call Answer}
    {outcome : Except Failure Outcome} (yields : Yields run.start.run history outcome) :
    Silence (prelude history) ∧ (∀ pass ∈ sections history, Conversed run pass) ∧
      OneAtATime history := by
  obtain ⟨checks, passes⟩ := start_passing yields
  have silence : Silence (prelude history) := silence_of_checks checks
  have begun : Finished (prelude history) :=
    finished_of_unstarted (unstarted_of_silence silence)
  have serial : single.Accepts [] history := by
    rw [← prelude_append_sections history]
    refine Monitor.accepts_append.mpr ⟨accepts_of_unstarted (unstarted_of_silence silence), ?_⟩
    rw [Monitor.upon_after]
    obtain ⟨none, -⟩ | passing := passes
    · rw [none]
      trivial
    · exact serial_passing passing begun
  refine ⟨silence, ?_, Monitor.accepts_upon.mp serial⟩
  obtain ⟨none, -⟩ | passing := passes
  · rw [none]
    exact List.forall_mem_nil _
  · exact conversed_passing passing

/-- In the run whose fix is repaired there are three messages, the last one for the complaint about
the fix. -/
theorem conversation_protocol_interrupted :
    let history := (plainRun.start.run.replay interrupted []).1
    (∀ pass ∈ sections history, Conversed plainRun pass) ∧ OneAtATime history ∧
      (sections history).map (fun pass => (posts pass).length) = [3] ∧
      (sections history).map complaints = [["error"]] := by
  intro history
  have protocol := conversation_protocol plainRun (Procedure.yields_replay interrupted _)
  exact ⟨protocol.2.1, protocol.2.2, by decide +kernel, by decide +kernel⟩

end Run

end AzcRepair
