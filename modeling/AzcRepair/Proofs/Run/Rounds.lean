import AzcRepair.Proofs.Run.Passes
import AzcRepair.Proofs.Run.Target

/-!
# What is said within a session

The histories of the part of an iteration that works within its session, as relations on lists of
events: one rule for each way in which a request, the rounds of repair after it or the whole talk can
go. What is to be shown of the messages and jobs of a session is shown by induction on these rules.

* `Exchanged`, `Thwarted` — a request whose answer was applied, and one that came to nothing.
* `Rounds` — a request and the repairs that follow on it.
* `Talk` — everything between opening a session and closing it.
* `Attached` — the opening of a session, which ends with its index being attached.
* `exchange_applied`, `recover_rounds`, `remediate_talk`, `openWithin_opens`, `iterate_iterated` — the
  histories of the parts of an iteration follow the rules.
-/

namespace AzcRepair

open Monitor (Only)
open Procedure (Event History Yields)

namespace Run

open Worker (Session Artifact Message Job)

variable {run : Run} {session : Session} {text : String} {history : History Call Answer}

/-! ## One request

The dispatch is described once more, for the purposes of a run: what counts is whether the answer
was applied. A request that was is completely known, and one that was not is known to have done
nothing but pursue its job. -/

/-- The job was seen completed. -/
def Completes (session : Session) (job : String) (history : History Call Answer) : Prop :=
  ∃ reason, ⟨.worker (.pollJob session job), .ok ⟨.completed, reason⟩⟩ ∈ history

/-- The call waits for the job, reads what the worker said, or writes the target file. -/
def Pursues (workspace : Workspace) (session : Session) (job : String) (call : Call) : Prop :=
  AwaitsJob session job call ∨ call = .worker (.readTranscript session) ∨
    ∃ text, call = .disk (.write workspace.targetFile text)

/-- A request that was answered, and the answer: the message was posted, a job was started at once
and polled until it was completed, and the transcript holds the answer after the message. -/
inductive Heard (session : Session) (text : String) : History Call Answer → String → Prop
  | mk {message job reply : String} {polls : History Call Answer} {transcript : List Message}
    (waits : ∀ event ∈ polls, AwaitsJob session job event.1)
    (completes : Completes session job polls)
    (answers : Conversation.answerTo session message transcript = .ok reply) :
    Heard session text (⟨.worker (.sendMessage session text), .ok message⟩ ::
      ⟨.worker (.startJob session), .ok job⟩ ::
        (polls ++ [⟨.worker (.readTranscript session), .ok transcript⟩])) reply

/-- A request whose answer was applied: the contract in the answer replaced the target file. -/
inductive Exchanged (run : Run) (session : Session) (text : String) : History Call Answer → Prop
  | mk {message job : String} {polls : History Call Answer} {transcript : List Message}
    {contract : Contract} (waits : ∀ event ∈ polls, AwaitsJob session job event.1)
    (completes : Completes session job polls)
    (accepts : replyIn session (some message) transcript = some contract) :
    Exchanged run session text (⟨.worker (.sendMessage session text), .ok message⟩ ::
      ⟨.worker (.startJob session), .ok job⟩ ::
        (polls ++ [⟨.worker (.readTranscript session), .ok transcript⟩,
          ⟨.disk (.write run.workspace.targetFile contract.updatedContent), .ok ()⟩]))

/-- A request that came to nothing. -/
inductive Thwarted (run : Run) (session : Session) (text : String) : History Call Answer → Prop
  | unposted {failure : Worker.Failure} :
    Thwarted run session text [⟨.worker (.sendMessage session text), .error failure⟩]
  | unstarted {message : String} {failure : Worker.Failure} :
    Thwarted run session text [⟨.worker (.sendMessage session text), .ok message⟩,
      ⟨.worker (.startJob session), .error failure⟩]
  | unapplied {message job : String} {rest : History Call Answer}
    (pursues : ∀ event ∈ rest, Pursues run.workspace session job event.1) :
    Thwarted run session text (⟨.worker (.sendMessage session text), .ok message⟩ ::
      ⟨.worker (.startJob session), .ok job⟩ :: rest)

/-- After the message and the start of the job nothing was done but to pursue the job. -/
theorem Exchanged.pursued (exchanges : Exchanged run session text history) :
    ∃ message job rest, history = ⟨.worker (.sendMessage session text), .ok message⟩ ::
        ⟨.worker (.startJob session), .ok job⟩ :: rest ∧
      ∀ event ∈ rest, Pursues run.workspace session job event.1 := by
  obtain ⟨waits, -, -⟩ := exchanges
  refine ⟨_, _, _, rfl, List.forall_mem_append.mpr ⟨fun event mem => .inl (waits event mem), ?_⟩⟩
  refine List.forall_mem_cons.mpr ⟨.inr (.inl rfl), List.forall_mem_singleton.mpr ?_⟩
  exact .inr (.inr ⟨_, rfl⟩)

/-- A wait that goes well has seen the job completed. -/
theorem waitForJob_completes (conversation : Conversation) (job : Job) (left : Nat)
    (past : History Call Answer) :
    Monitor.recording.Ensures (conversation.waitForJob session job left) past fun waited after =>
      ∀ seen, waited = .ok seen → Completes session job.id after := by
  -- the induction is on the polls that are left; only a completed job ends the wait well
  induction left generalizing job past with
  | zero => exact nofun
  | succ left ih =>
    refine Monitor.ensures_ask_bind.mpr ⟨trivial, fun _ => ?_⟩
    refine Monitor.ensures_ask_bind.mpr ⟨trivial, fun answer => ?_⟩
    rcases answer with failure | ⟨status, reason⟩
    · exact nofun
    dsimp only
    cases observed : job.observe ⟨status, reason⟩ with
    | error failure => exact nofun
    | ok seen =>
      obtain rfl := Job.eq_of_observe observed
      cases status with
      | queued | running | timedOut => exact ih _ _
      | failed => exact nofun
      | completed =>
        intro _ _
        exact ⟨reason, List.mem_append_right _ (List.mem_singleton_self _)⟩

/-- What came of a request. -/
def Asked (run : Run) (session : Session) (text : String) (history : History Call Answer) :
    Except Worker.Failure String → Prop
  | .ok reply => Heard session text history reply
  | .error _ => Thwarted run session text history

theorem dispatch_asked (run : Run) {conversation : Conversation} {request : Request}
    {answer : Except Worker.Failure String}
    (yields : Yields (conversation.dispatch session request) history answer) :
    Asked run session request.body history answer := by
  refine Monitor.of_recording yields (Monitor.ensures_ask_bind.mpr ⟨trivial, fun posted => ?_⟩)
  rcases posted with failure | message
  · exact .unposted
  refine Monitor.ensures_ask_bind.mpr ⟨trivial, fun started => ?_⟩
  rcases started with failure | job
  · exact .unstarted
  refine Monitor.ensures_bind.mpr (Monitor.ensures_recording.mpr fun polls waited waits => ?_)
  have polled : ∀ event ∈ polls, AwaitsJob session job event.1 :=
    (only_waitForJob conversation session (.start job session.id) _).of_mem waits
  have pursues : ∀ event ∈ polls, Pursues run.workspace session job event.1 := fun event mem =>
    .inl (polled event mem)
  rcases waited with failure | seen
  · exact .unapplied pursues
  have completes : Completes session job polls :=
    Monitor.ensures_recording.mp (waitForJob_completes _ _ _ []) polls _ waits seen rfl
  refine Monitor.ensures_ask_bind.mpr ⟨trivial, fun read => ?_⟩
  -- a transcript that was read belongs to the pursuit, whatever it holds
  have listened (answer : Answer (.worker (.readTranscript session))) :
      ∀ event ∈ polls ++ [⟨.worker (.readTranscript session), answer⟩],
        Pursues run.workspace session job event.1 :=
    List.forall_mem_append.mpr ⟨pursues, List.forall_mem_singleton.mpr (.inr (.inl rfl))⟩
  rcases read with failure | transcript
  · exact .unapplied (listened _)
  show Asked run session request.body _ (Conversation.answerTo session message transcript)
  cases answers : Conversation.answerTo session message transcript with
  | error failure => exact .unapplied (listened _)
  | ok reply => exact .mk polled completes answers

/-- What came of a request and its answer. -/
def Applied (run : Run) (session : Session) (text : String) (history : History Call Answer) :
    Except Failure Unit → Prop
  | .ok _ => Exchanged run session text history
  | .error _ => Thwarted run session text history

/-- The contract in an answer is written, or the request came to nothing. -/
theorem apply_applied {reply : String} {phase : Phase} {past : History Call Answer}
    (heard : Heard session text past reply) :
    Monitor.recording.Ensures (run.apply phase reply).run past fun result after =>
      Applied run session text after result := by
  obtain @⟨message, job, _, polls, transcript, waits, completes, answers⟩ := heard
  have pursued : ∀ event ∈ polls ++ [⟨.worker (.readTranscript session), .ok transcript⟩],
      Pursues run.workspace session job event.1 :=
    List.forall_mem_append.mpr ⟨fun event mem => .inl (waits event mem),
      List.forall_mem_singleton.mpr (.inr (.inl rfl))⟩
  -- the run and the account read the same contract out of the transcript
  have reads : replyIn session (some message) transcript = (Contract.ofReply reply).toOption := by
    simp [replyIn, answers, Except.toOption]
  unfold Run.apply
  cases accepted : Contract.ofReply reply with
  | error refusal => exact .unapplied pursued
  | ok contract =>
    rw [accepted] at reads
    refine ensures_blame.mpr ⟨trivial, fun written => ?_⟩
    rcases written with error | _
    · exact .unapplied (List.forall_mem_append.mpr ⟨pursued,
        List.forall_mem_singleton.mpr (.inr (.inr ⟨_, rfl⟩))⟩)
    · show Exchanged run session text (_ :: _ :: ((polls ++ [_]) ++ [_]))
      rw [List.append_assoc]
      exact .mk waits completes reads

theorem exchange_applied {phase : Phase} {request : Request} {result : Except Failure Unit}
    (yields : Yields (run.exchange session phase request).run history result) :
    Applied run session request.body history result := by
  refine Monitor.of_recording yields (ensures_run_bind.mpr (ensures_run_orFail.mpr ?_))
  refine Monitor.ensures_recording.mpr fun asking answer asks => ?_
  have asked : Asked run session request.body asking answer := dispatch_asked run asks
  rcases answer with failure | reply
  · exact asked
  · exact apply_applied asked

/-! ## Rounds of repair

The recursion over the repairs becomes a relation with one rule for each way a round can end, and
one for going on. Induction on it is how everything about the messages of a session is shown. -/

/-- A request with this text, and the repairs that follow on it; `left` of them may still be asked
for. Each round asks, applies the answer and compiles it. -/
inductive Rounds (run : Run) (session : Session) (iteration : UInt32) :
    Nat → String → History Call Answer → Except Failure (Option Outcome) → Prop
  | thwarted {left : Nat} {text : String} {history : History Call Answer} {failure : Failure}
    (thwarts : Thwarted run session text history) :
    Rounds run session iteration left text history (.error failure)
  | uncompiled {left : Nat} {text : String} {history : History Call Answer}
    {failure : Toolchain.Failure} (exchanges : Exchanged run session text history) :
    Rounds run session iteration left text (history ++ [⟨.compile, .error failure⟩])
      (.error (.toolchain failure))
  | mended {left : Nat} {text diagnostics : String} {history : History Call Answer}
    (exchanges : Exchanged run session text history)
    (blank : Text.isBlankText diagnostics = true) :
    Rounds run session iteration left text (history ++ [⟨.compile, .ok diagnostics⟩]) (.ok none)
  | exhausted {text diagnostics : String} {history : History Call Answer}
    (exchanges : Exchanged run session text history)
    (broken : Text.isBlankText diagnostics = false) :
    Rounds run session iteration 0 text (history ++ [⟨.compile, .ok diagnostics⟩])
      (.ok (some (.recoveryExhausted iteration run.maxRecoveryAttempts diagnostics)))
  | again {left : Nat} {text diagnostics : String} {history later : History Call Answer}
    {result : Except Failure (Option Outcome)} (exchanges : Exchanged run session text history)
    (broken : Text.isBlankText diagnostics = false)
    (rounds : Rounds run session iteration left (Request.recovery diagnostics).body later result) :
    Rounds run session iteration (left + 1) text
      (history ++ ⟨.compile, .ok diagnostics⟩ :: later) result

theorem Rounds.begins {iteration : UInt32} {left : Nat} {result : Except Failure (Option Outcome)}
    (rounds : Rounds run session iteration left text history result) :
    ∃ posted rest, history = ⟨.worker (.sendMessage session text), posted⟩ :: rest := by
  cases rounds with
  | thwarted thwarts => cases thwarts <;> exact ⟨_, _, rfl⟩
  | uncompiled exchanges | mended exchanges | exhausted exchanges | again exchanges =>
    obtain ⟨message, job, rest, rfl, -⟩ := exchanges.pursued
    exact ⟨_, _, rfl⟩

/-- Rounds that come to an outcome have given up. -/
theorem rounds_exhausted {iteration : UInt32} {left : Nat} {outcome : Outcome}
    {result : Except Failure (Option Outcome)}
    (rounds : Rounds run session iteration left text history result)
    (ends : result = .ok (some outcome)) :
    ∃ diagnostics, outcome = .recoveryExhausted iteration run.maxRecoveryAttempts diagnostics := by
  induction rounds with
  | thwarted | uncompiled | mended => cases ends
  | exhausted =>
    cases ends
    exact ⟨_, rfl⟩
  | again _ _ _ ih => exact ih ends

/-- After a request whose answer was applied the fix is compiled, and repaired until it compiles. -/
theorem recover_rounds {iteration : UInt32} {left : Nat} {text : String}
    {asked : History Call Answer} (exchanges : Exchanged run session text asked) :
    Monitor.recording.Ensures (run.recover session iteration left).run asked fun result after =>
      Rounds run session iteration left text after result := by
  -- the induction is on the repairs that are left
  induction left generalizing asked text with
  | zero =>
    refine ensures_run_bind.mpr (ensures_run_orFail.mpr ⟨trivial, fun compiled => ?_⟩)
    rcases compiled with failure | diagnostics
    · exact .uncompiled exchanges
    change Monitor.Ensures _ (ite _ _ _ : Attempt (Option Outcome)).run _ _
    split
    · next blank => exact .mended exchanges blank
    · next broken => exact .exhausted exchanges (eq_false_of_ne_true broken)
  | succ left ih =>
    refine ensures_run_bind.mpr (ensures_run_orFail.mpr ⟨trivial, fun compiled => ?_⟩)
    rcases compiled with failure | diagnostics
    · exact .uncompiled exchanges
    change Monitor.Ensures _ (ite _ _ _ : Attempt (Option Outcome)).run _ _
    split
    · next blank => exact .mended exchanges blank
    next broken =>
    have unclean : Text.isBlankText diagnostics = false := eq_false_of_ne_true broken
    refine ensures_run_bind.mpr (Monitor.ensures_recording.mpr fun asking result asks => ?_)
    have applied := exchange_applied asks
    -- the history so far ends in the compilation, and the next round is behind it
    have shape (later : History Call Answer) :
        asked ++ ⟨.compile, .ok diagnostics⟩ :: later =
          Monitor.recording.note asked .compile (.ok diagnostics) ++ later := by
      simp [Monitor.recording]
    rcases result with failure | _
    · show Rounds run session iteration (left + 1) text _ _
      rw [← shape]
      exact .again exchanges unclean (.thwarted applied)
    · -- the repair was applied, so the rest is rounds again, with one repair less
      refine Monitor.ensures_recording.mpr fun repairing result repairs => ?_
      have rounds : Rounds run session iteration left (Request.recovery diagnostics).body
          (asking ++ repairing) result :=
        Monitor.ensures_recording.mp (ih applied) repairing result repairs
      rw [List.append_assoc, ← shape]
      exact .again exchanges unclean rounds

/-! ## The talk of an iteration

Everything between the opening of the session and its closing, in three rules. The last of them
holds the rounds; in the other two nothing was asked for. -/

/-- The call reads the main or the target file. -/
def Reads (workspace : Workspace) (call : Call) : Prop :=
  call = .disk (.readText workspace.mainFile) ∨ call = .disk (.readText workspace.targetFile)

/-- Everything that an iteration does between opening its session and closing it. -/
inductive Talk (run : Run) (session : Session) (iteration : UInt32) (violations : List Violation) :
    History Call Answer → Except Failure (Option Outcome) → Prop
  /-- A source could not be read. -/
  | unread {history : History Call Answer} {failure : Failure}
    (reads : ∀ event ∈ history, Reads run.workspace event.1) :
    Talk run session iteration violations history (.error failure)
  /-- The context could not be posted. -/
  | unposted {main target : String} {failure : Worker.Failure} :
    Talk run session iteration violations
      [⟨.disk (.readText run.workspace.mainFile), .ok main⟩,
        ⟨.disk (.readText run.workspace.targetFile), .ok target⟩,
        ⟨.worker (.sendMessage session
          (Request.context main target (Violation.log violations)).body), .error failure⟩]
      (.error (.worker .remediation failure))
  /-- The context was posted, and the request for a remedy followed. -/
  | held {main target message : String} {later : History Call Answer}
    {result : Except Failure (Option Outcome)}
    (rounds : Rounds run session iteration run.maxRecoveryAttempts.toNat
      (Request.remediation violations run.registry).body later result) :
    Talk run session iteration violations
      (⟨.disk (.readText run.workspace.mainFile), .ok main⟩ ::
        ⟨.disk (.readText run.workspace.targetFile), .ok target⟩ ::
        ⟨.worker (.sendMessage session
          (Request.context main target (Violation.log violations)).body), .ok message⟩ :: later)
      result

theorem remediate_talk {iteration : UInt32} {violations : List Violation}
    {result : Except Failure (Option Outcome)}
    (yields : Yields (run.remediate session iteration violations).run history result) :
    Talk run session iteration violations history result := by
  refine Monitor.of_recording yields (ensures_run_bind.mpr (ensures_run_bind.mpr ?_))
  refine ensures_blame.mpr ⟨trivial, fun read => ?_⟩
  rcases read with error | main
  · exact .unread (List.forall_mem_singleton.mpr (.inl rfl))
  refine ensures_run_bind.mpr (ensures_blame.mpr ⟨trivial, fun read => ?_⟩)
  rcases read with error | target
  · exact .unread (List.forall_mem_cons.mpr ⟨.inl rfl, List.forall_mem_singleton.mpr (.inr rfl)⟩)
  refine ensures_run_bind.mpr (ensures_run_discard.mpr (ensures_run_orFail.mpr
    ⟨trivial, fun posted => ?_⟩))
  rcases posted with failure | message
  · exact .unposted
  refine ensures_run_bind.mpr (Monitor.ensures_recording.mpr fun asking result asks => ?_)
  have applied := exchange_applied asks
  rcases result with failure | _
  · exact .held (.thwarted applied)
  · refine Monitor.ensures_recording.mpr fun repairing result repairs => ?_
    exact .held (Monitor.ensures_recording.mp (recover_rounds applied) repairing result repairs)

/-- The call belongs to a talk: it reads the sources, writes the target file, compiles, waits, or asks
something of the worker on the session. -/
def Converses (workspace : Workspace) (session : Session) : Call → Prop
  | .compile | .pause _ => True
  | .disk request => request = .readText workspace.mainFile ∨
      request = .readText workspace.targetFile ∨ ∃ text, request = .write workspace.targetFile text
  | .worker (.sendMessage on _) | .worker (.startJob on) | .worker (.pollJob on _)
  | .worker (.readTranscript on) => on = session
  | _ => False

theorem Reads.converses {workspace : Workspace} {call : Call} (h : Reads workspace call) :
    Converses workspace session call := by
  obtain rfl | rfl := h
  · exact .inl rfl
  · exact .inr (.inl rfl)

/-- Pursuing a job belongs to a talk on its session. -/
theorem Pursues.converses {workspace : Workspace} {job : String} {call : Call}
    (h : Pursues workspace session job call) : Converses workspace session call := by
  obtain (⟨ms, rfl⟩ | rfl) | rfl | ⟨text, rfl⟩ := h
  · trivial
  · exact rfl
  · exact rfl
  · exact .inr (.inr ⟨text, rfl⟩)

/-- The calls of a history belong to the talk on a session. -/
def Conversing (workspace : Workspace) (session : Session) (history : History Call Answer) : Prop :=
  ∀ event ∈ history, Converses workspace session event.1

/-- A message, the job for it and the pursuit of that job. -/
theorem conversing_posted {posted : Answer (.worker (.sendMessage session text))}
    {started : Answer (.worker (.startJob session))} {workspace : Workspace} {job : String}
    {rest : History Call Answer} (pursues : ∀ event ∈ rest, Pursues workspace session job event.1) :
    Conversing workspace session (⟨.worker (.sendMessage session text), posted⟩ ::
      ⟨.worker (.startJob session), started⟩ :: rest) := by
  refine List.forall_mem_cons.mpr ⟨rfl, List.forall_mem_cons.mpr ⟨rfl, fun event mem => ?_⟩⟩
  exact (pursues event mem).converses

theorem Exchanged.conversing (exchanges : Exchanged run session text history) :
    Conversing run.workspace session history := by
  obtain ⟨message, job, rest, rfl, pursues⟩ := exchanges.pursued
  exact conversing_posted pursues

theorem Thwarted.conversing (thwarts : Thwarted run session text history) :
    Conversing run.workspace session history := by
  cases thwarts with
  | unposted => exact List.forall_mem_singleton.mpr rfl
  | unstarted => exact List.forall_mem_cons.mpr ⟨rfl, List.forall_mem_singleton.mpr rfl⟩
  | unapplied pursues => exact conversing_posted pursues

theorem Conversing.compiled (h : Conversing run.workspace session history)
    (compiled : Answer .compile) :
    Conversing run.workspace session (history ++ [⟨.compile, compiled⟩]) :=
  List.forall_mem_append.mpr ⟨h, List.forall_mem_singleton.mpr trivial⟩

theorem Rounds.conversing {iteration : UInt32} {left : Nat}
    {result : Except Failure (Option Outcome)}
    (rounds : Rounds run session iteration left text history result) :
    Conversing run.workspace session history := by
  induction rounds with
  | thwarted thwarts => exact thwarts.conversing
  | uncompiled exchanges => exact exchanges.conversing.compiled _
  | mended exchanges => exact exchanges.conversing.compiled _
  | exhausted exchanges => exact exchanges.conversing.compiled _
  | again exchanges _ _ ih =>
    exact List.forall_mem_append.mpr
      ⟨exchanges.conversing, List.forall_mem_cons.mpr ⟨trivial, ih⟩⟩

theorem Talk.conversing {iteration : UInt32} {violations : List Violation}
    {result : Except Failure (Option Outcome)}
    (talks : Talk run session iteration violations history result) :
    Conversing run.workspace session history := by
  cases talks with
  | unread reads => exact fun event mem => (reads event mem).converses
  | unposted =>
    refine List.forall_mem_cons.mpr ⟨.inl rfl, List.forall_mem_cons.mpr ⟨.inr (.inl rfl), ?_⟩⟩
    exact List.forall_mem_singleton.mpr rfl
  | held rounds =>
    refine List.forall_mem_cons.mpr ⟨.inl rfl, List.forall_mem_cons.mpr ⟨.inr (.inl rfl), ?_⟩⟩
    exact List.forall_mem_cons.mpr ⟨rfl, rounds.conversing⟩

/-! ## The opening of a session

Of an opening only one thing matters further on: that its last call attached the index of the
session, and that no other did. Attempts that failed attached nothing, so the recorded history
keeps that until the call that ends it. -/

/-- The event opens a session: attaching the index is the last step of a setup. -/
def attaches : Event Call Answer → Bool
  | ⟨.worker (.attachIndex ..), .ok _⟩ => true
  | _ => false

/-- Only setups were made, and none of them opened a session. -/
def Unattached (history : History Call Answer) : Prop :=
  ∀ event ∈ history, SetsUp event.1 ∧ attaches event = false

/-- The session was opened by the last event and by no other. -/
inductive Attached (session : Session) : History Call Answer → Prop
  | mk {before : History Call Answer} {index : String} (unattached : Unattached before)
    (indexed : session.index = some index) :
    Attached session (before ++ [⟨.worker (.attachIndex session index), .ok ()⟩])

/-- The call belongs to a setup and does not attach an index. -/
def Readies (call : Call) : Prop :=
  SetsUp call ∧ ∀ session index, call ≠ .worker (.attachIndex session index)

theorem attaches_of_readies {call : Call} (readies : Readies call) (answer : Answer call) :
    attaches ⟨call, answer⟩ = false := by
  unfold attaches
  split
  · next same =>
    cases same
    exact absurd rfl (readies.2 _ _)
  · rfl

theorem Unattached.snoc {past : History Call Answer} (unattached : Unattached past) (call : Call)
    (answer : Answer call) (readies : Readies call) : Unattached (past ++ [⟨call, answer⟩]) :=
  List.forall_mem_append.mpr ⟨unattached,
    List.forall_mem_singleton.mpr ⟨readies.1, attaches_of_readies readies answer⟩⟩

theorem ensures_unattached {α : Type} {kind : Call → Prop} {p : Act α} {past : History Call Answer}
    {post : α → History Call Answer → Prop} (calls : Only kind p)
    (readies : ∀ call, kind call → Readies call) (unattached : Unattached past)
    (ends : ∀ value after, Unattached after → post value after) :
    Monitor.recording.Ensures p past post :=
  Monitor.ensures_of_kept Unattached calls unattached
    (fun _ call ofKind still => ⟨trivial, fun answer => still.snoc call answer (readies call ofKind)⟩) ends

/-- What a setup comes to. -/
def SetUpEnds : Session × Except Worker.Failure Unit → History Call Answer → Prop
  | (session, .ok _), history => Attached session history
  | (_, .error _), history => Unattached history

/-- A setup ends with its session attached or attached none. -/
theorem setUp_ends (conversation : Conversation) (instructions : String)
    (artifacts : List Artifact) {past : History Call Answer} (unattached : Unattached past) :
    Monitor.recording.Ensures (conversation.setUp instructions artifacts) past SetUpEnds := by
  refine Monitor.ensures_ask_bind.mpr ⟨trivial, fun created => ?_⟩
  have asked := unattached.snoc (.worker (.createSession instructions)) created ⟨trivial, nofun⟩
  rcases created with failure | session
  · exact asked
  refine Monitor.ensures_bind.mpr (ensures_unattached (only_uploadAll session artifacts) ?_ asked ?_)
  · rintro _ ⟨artifact, rfl⟩
    exact ⟨trivial, nofun⟩
  rintro ⟨session, failure | _⟩ after uploaded
  · exact uploaded
  refine Monitor.ensures_ask_bind.mpr ⟨trivial, fun now => ?_⟩
  refine Monitor.ensures_ask_bind.mpr ⟨trivial, fun suffix => ?_⟩
  refine Monitor.ensures_ask_bind.mpr ⟨trivial, fun made => ?_⟩
  have timed := uploaded.snoc .clock now ⟨trivial, nofun⟩
  have named := timed.snoc .freshSuffix suffix ⟨trivial, nofun⟩
  have indexed := named.snoc (.worker (.createIndex (Conversation.indexName now suffix)
    session.files)) made ⟨trivial, nofun⟩
  rcases made with failure | index
  · exact indexed
  refine Monitor.ensures_ask_bind.mpr ⟨trivial, fun _ => Monitor.ensures_bind.mpr ?_⟩
  have paused := indexed.snoc (.pause conversation.indexDelayMs) () ⟨trivial, nofun⟩
  refine ensures_unattached (only_waitForIndex conversation index _) ?_ paused ?_
  · rintro _ (⟨ms, rfl⟩ | rfl) <;> exact ⟨trivial, nofun⟩
  rintro (failure | _) after waited
  · exact waited
  refine Monitor.ensures_ask_bind.mpr ⟨trivial, fun attached => ?_⟩
  rcases attached with failure | _
  · -- the call was made and refused, so nothing was attached
    exact List.forall_mem_append.mpr ⟨waited, List.forall_mem_singleton.mpr ⟨trivial, rfl⟩⟩
  · exact .mk waited rfl

/-- What asking for a session comes to. -/
def Opens : Except Worker.Failure Session → History Call Answer → Prop
  | .ok session, history => Attached session history
  | .error _, history => Unattached history

theorem closeSession_unattached (session : Session) {past : History Call Answer}
    (unattached : Unattached past) :
    Monitor.recording.Ensures (Conversation.closeSession session) past
      fun _ after => Unattached after := by
  unfold Conversation.closeSession
  split
  · exact unattached
  · refine ensures_discard.mpr ⟨trivial, fun answer => ?_⟩
    exact unattached.snoc (.worker (.teardownSession session)) answer ⟨trivial, nofun⟩

/-- A session that is opened was opened by the last call of its last setup. -/
theorem openWithin_opens (conversation : Conversation) (instructions : String)
    (artifacts : List Artifact) (left : Nat) {past : History Call Answer}
    (unattached : Unattached past) :
    Monitor.recording.Ensures (conversation.openWithin instructions artifacts left) past Opens := by
  -- the induction is on the setups that are left; a failed one opened nothing
  induction left generalizing past with
  | zero =>
    refine Monitor.ensures_bind.mpr ((setUp_ends _ _ _ unattached).mono ?_)
    rintro ⟨session, failure | _⟩ after ended
    · refine Monitor.ensures_bind.mpr ((closeSession_unattached session ended).mono ?_)
      exact fun _ _ closed => closed
    · exact ended
  | succ left ih =>
    refine Monitor.ensures_bind.mpr ((setUp_ends _ _ _ unattached).mono ?_)
    rintro ⟨session, failure | _⟩ after ended
    · refine Monitor.ensures_bind.mpr ((closeSession_unattached session ended).mono ?_)
      exact fun _ _ closed => ih closed
    · exact ended

/-- A session that was opened has an index, so it is torn down when it is closed. -/
theorem closing_of_attached {opening closing : History Call Answer} (opened : Attached session opening)
    (yields : Yields (Conversation.closeSession session) closing ()) :
    ∃ answer, closing = [⟨.worker (.teardownSession session), answer⟩] := by
  obtain ⟨-, indexed⟩ := opened
  have held : session ≠ .empty := by
    rintro rfl
    cases indexed
  unfold Conversation.closeSession at yields
  rw [if_neg held] at yields
  refine Monitor.of_recording yields (ensures_discard.mpr ⟨trivial, fun answer => ?_⟩)
  exact ⟨answer, rfl⟩

/-! ## Iterations

The parts are put together with `iterate_parts`, which has already cut the history where the
iteration itself is cut. -/

/-- An iteration, part by part: the archive of the sources, the opening of a session, the talk on
it, and the teardown. Each part may be the last one. A session that was opened is torn down by the
last call, whatever came of the talk. -/
inductive Iterated (run : Run) (iteration : UInt32) (violations : List Violation) :
    History Call Answer → Except Failure (Option Outcome) → Prop
  /-- The sources could not be archived, or the iteration was broken off right after that. -/
  | unsaved {now : Instant} {archiving : History Call Answer} {failure : Failure}
    (archives : ∀ event ∈ archiving, Archives run.workspace iteration now event.1) :
    Iterated run iteration violations (⟨.clock, now⟩ :: archiving) (.error failure)
  /-- No session could be opened. -/
  | unopened {now : Instant} {archiving opening : History Call Answer} {failure : Worker.Failure}
    (archives : ∀ event ∈ archiving, Archives run.workspace iteration now event.1)
    (fails : Unattached opening) :
    Iterated run iteration violations (⟨.clock, now⟩ :: (archiving ++ opening))
      (.error (.worker .sessionSetup failure))
  | held {now : Instant} {archiving opening talk : History Call Answer} {session : Session}
    {result : Except Failure (Option Outcome)} {answer : Except Worker.Failure Unit}
    (archives : ∀ event ∈ archiving, Archives run.workspace iteration now event.1)
    (opens : Attached session opening)
    (talks : Talk run session iteration violations talk result) :
    Iterated run iteration violations
      (⟨.clock, now⟩ :: (archiving ++ (opening ++ (talk ++
        [⟨.worker (.teardownSession session), answer⟩])))) result

theorem iterate_iterated {iteration : UInt32} {violations : List Violation}
    {result : Except Failure (Option Outcome)}
    (yields : Yields (run.iterate iteration violations).run history result) :
    Iterated run iteration violations history result := by
  obtain ⟨now, archiving, archived, work, rfl, archives, parts⟩ := iterate_parts yields
  have saves := (only_createBackup run.workspace iteration now).of_mem archives
  rcases archived with failure | backup
  · obtain ⟨rfl, rfl⟩ := parts
    rw [List.append_nil]
    exact .unsaved saves
  obtain ⟨rfl, rfl⟩ | ⟨opening, rest, opened, rfl, opens, parts⟩ := parts
  · rw [List.append_nil]
    exact .unsaved saves
  have none : Unattached [] := List.forall_mem_nil _
  have ended : Opens opened opening := Monitor.ensures_recording.mp
    (openWithin_opens _ _ _ _ none) opening opened opens
  rcases opened with failure | session
  · obtain ⟨rfl, rfl⟩ := parts
    rw [List.append_nil]
    exact .unopened saves ended
  obtain ⟨within, closing, rfl, works, closes⟩ := parts
  obtain ⟨answer, rfl⟩ := closing_of_attached ended closes
  exact .held saves ended (remediate_talk works)

/-- An iteration that ends a run has failed or has given up. -/
theorem ends_of_iterated {iteration : UInt32} {violations : List Violation}
    {worked : Except Failure (Option Outcome)} {result : Except Failure Outcome}
    (yields : Yields (run.iterate iteration violations).run history worked)
    (ends : EndsRun worked result) :
    (∃ failure, result = .error failure) ∨ ∃ diagnostics,
      result = .ok (.recoveryExhausted iteration run.maxRecoveryAttempts diagnostics) := by
  rcases worked with failure | _ | outcome
  · exact .inl ⟨failure, ends⟩
  · exact ends.elim
  generalize came : (.ok (some outcome) : Except Failure (Option Outcome)) = worked at yields
  cases iterate_iterated yields with
  | unsaved | unopened => cases came
  | held archives opens talks =>
    cases talks with
    | unread | unposted => cases came
    -- an outcome of the rounds means that the repairs were used up
    | held rounds =>
      obtain ⟨diagnostics, rfl⟩ := rounds_exhausted rounds came.symm
      exact .inr ⟨diagnostics, ends⟩

end Run

end AzcRepair
