import AzcRepair.Proofs.Run.Calls

/-!
# The target file over a whole run

The target file is what a run is there to change, and only the text of an accepted reply ever gets
into it. Between the moment at which a reply is accepted and the write of its text no other call is
made, and a refused write is the end of the run.

* `Account` — what a history says about the target file and about the replies that were accepted.
* `keeper` — the monitor that permits a change of the target file only by the accepted reply that
  waits for it, and only in a run that began well.
* `Faithful` — the invariant: the file holds the text of the last accepted reply that was written.
* `start_ends`, `target_integrity` — the walk through a run, and what holds of every run.
-/

namespace AzcRepair

open Monitor (Only)
open Procedure (Event History Yields)

/-- The file that a request may change. -/
def Disk.Call.changes? : Disk.Call → Option Path
  | write path _ | createNew path | archive path _ | copy _ path => some path
  | _ => none

/-- Of the files that a run writes, only the target file is among those that `isTarget` tells apart:
the file itself, which several paths may lead to, or a tree of files that it lies in. -/
structure Workspace.Apart (workspace : Workspace) (isTarget : Path → Bool) : Prop where
  target : isTarget workspace.targetFile = true
  violationLog : isTarget workspace.violationLog = false
  violationSnapshot : ∀ now, isTarget (workspace.violationSnapshot now) = false
  buildLog : isTarget workspace.buildLog = false
  backupFile : ∀ iteration now, isTarget (workspace.backupFile iteration now) = false

namespace Run

open Worker (Session Message)

variable {α : Type}

/-- The file that a call may change. -/
def Call.changes? : Call → Option Path
  | disk request => request.changes?
  | _ => none

/-! ## What a history says

An account is read off the history event by event. A reply is found where the transcript was asked
for: its contract counts as accepted if it can be read, by the same functions that the run uses,
and it waits until its text is written. -/

/-- How a run began. -/
structure Opening where
  /-- The paths at which something was found. -/
  found : List Path
  /-- The connection check succeeded. -/
  connected : Bool
  /-- The answer to the first compilation. -/
  compiled : Option (Except Toolchain.Failure String)
  /-- The answer to the first build. -/
  built : Option (Except Toolchain.Failure Toolchain.BuildOutput)

/-- Takes note of the first answers of each kind. -/
def Opening.note (opening : Opening) : (call : Call) → Answer call → Opening
  | .disk (.present path), true => { opening with found := opening.found ++ [path] }
  | .worker .checkConnection, .ok _ => { opening with connected := true }
  | .compile, answer => { opening with compiled := opening.compiled.or (some answer) }
  | .build, answer => { opening with built := opening.built.or (some answer) }
  | _, _ => opening

/-- The run found its sources and its worker, its sources compiled when it began, and its first
build reported a violation. -/
structure Opening.Begun (run : Run) (opening : Opening) : Prop where
  sources : run.workspace.sourceDir ∈ opening.found ∧ run.workspace.targetFile ∈ opening.found
  connected : opening.connected = true
  compiled : ∃ diagnostics, opening.compiled = some (.ok diagnostics) ∧
    Text.isBlankText diagnostics = true
  built : ∃ output, opening.built = some (.ok output) ∧
    Violation.extract run.repeats output.rawLog ≠ []

/-- What a history says about the target file and the replies. -/
structure Account where
  /-- The text that was last written to the file; none while it holds what it held before the run. -/
  written : Option String
  /-- The message that the worker took last. -/
  asked : Option String
  /-- The contracts of the accepted replies. -/
  accepted : List Contract
  /-- The last of them, as long as its text was not written. -/
  unwritten : Option Contract
  /-- Why the file system refused to write it. -/
  refused : Option OsError
  opening : Opening

/-- Nothing was written, asked or accepted yet. -/
def Account.start : Account :=
  ⟨none, none, [], none, none, ⟨[], false, none, none⟩⟩

/-- The contract of the reply in a transcript: what stands after the message that was asked last. -/
def replyIn (session : Session) (asked : Option String) (transcript : List Message) :
    Option Contract := do
  let message ← asked
  let reply ← (Conversation.answerTo session message transcript).toOption
  (Contract.ofReply reply).toOption

/-- Another accepted reply, if there is one. -/
def Account.accept (account : Account) : Option Contract → Account
  | some contract =>
    { account with
      accepted := account.accepted ++ [contract], unwritten := some contract, refused := none }
  | none => account

/-- Takes note of an event, apart from how the run began. A write replaces the file or leaves it as
it is. -/
def Account.noteTarget (isTarget : Path → Bool) (account : Account) :
    (call : Call) → Answer call → Account
  | .worker (.sendMessage ..), .ok message => { account with asked := some message }
  | .worker (.readTranscript session), .ok transcript =>
    account.accept (replyIn session account.asked transcript)
  | .disk (.write path text), .ok _ =>
    if isTarget path then { account with written := some text, unwritten := none } else account
  | .disk (.write path _), .error error =>
    if isTarget path then { account with refused := some error } else account
  | _, _ => account

/-- Takes note of an event, with what it tells about how the run began. -/
def Account.note (isTarget : Path → Bool) (account : Account) (call : Call)
    (answer : Answer call) : Account :=
  { account.noteTarget isTarget call answer with opening := account.opening.note call answer }

/-- What a history says about the target file. -/
def account (isTarget : Path → Bool) (history : History Call Answer) : Account :=
  history.foldl (fun account event => account.note isTarget event.1 event.2) .start

/-! ## The monitor

What the monitor permits depends on two fields of the account: a reply that waits, and a refusal
of its write. As long as only permitted calls are made the account stays faithful
(`faithful_note`), which is all that the walk below is needed for. -/

/-- A reply that was accepted has to be written next, in a run that began well. A refused write
leaves nothing to do but to give the session back. Nothing else touches the file. -/
def Account.Permits (run : Run) (isTarget : Path → Bool) (account : Account) (call : Call) : Prop :=
  match account.unwritten, account.refused with
  | some contract, none =>
    call = .disk (.write run.workspace.targetFile contract.updatedContent) ∧
      account.opening.Begun run
  | some _, some _ => ∃ session, call = .worker (.teardownSession session)
  | none, _ => ∀ path, call.changes? = some path → isTarget path = false

/-- The monitor of the target file. -/
def keeper (run : Run) (isTarget : Path → Bool) : Monitor Call Answer Account where
  note := Account.note isTarget
  permits := Account.Permits run isTarget

/-- The file holds the text of the last accepted reply, or of the one before it as long as the last
one is not written. -/
def Account.Faithful (account : Account) : Prop :=
  match account.unwritten with
  | none => account.written = account.accepted.getLast?.map (·.updatedContent)
  | some contract => ∃ earlier, account.accepted = earlier ++ [contract] ∧
      account.written = earlier.getLast?.map (·.updatedContent)

variable {run : Run} {isTarget : Path → Bool} {s : Account}

/-- A new reply waits for its write, and until then the file stays as it is. -/
theorem faithful_accept (waits : s.unwritten = none) (faithful : s.Faithful)
    (reply : Option Contract) : (s.accept reply).Faithful := by
  cases reply with
  | none => exact faithful
  | some contract =>
    unfold Account.Faithful at faithful
    rw [waits] at faithful
    exact ⟨s.accepted, rfl, faithful⟩

/-- A permitted call keeps the account faithful, apart from how the run began. -/
theorem faithful_noteTarget (call : Call) (answer : Answer call) (faithful : s.Faithful)
    (permitted : s.Permits run isTarget call) : (s.noteTarget isTarget call answer).Faithful := by
  unfold Account.Permits at permitted
  cases waiting : s.unwritten with
  | none =>
    -- nothing waits: a write goes elsewhere, and only a transcript can bring a new reply
    rw [waiting] at permitted
    cases call with
    | worker request =>
      cases request with
      | sendMessage session text => cases answer <;> exact faithful
      | readTranscript session =>
        cases answer with
        | error failure => exact faithful
        | ok transcript => exact faithful_accept waiting faithful _
      | _ => exact faithful
    | disk request =>
      cases request with
      | write path text =>
        have elsewhere : isTarget path = false := permitted path rfl
        cases answer <;> simp only [Account.noteTarget, elsewhere] <;> exact faithful
      | _ => exact faithful
    | _ => exact faithful
  | some contract =>
    -- a reply waits: the call is its write, or a teardown after the write was refused
    rw [waiting] at permitted
    cases refusal : s.refused with
    | some error =>
      rw [refusal] at permitted
      obtain ⟨session, rfl⟩ := permitted
      exact faithful
    | none =>
      rw [refusal] at permitted
      obtain ⟨rfl, -⟩ := permitted
      unfold Account.Faithful at faithful
      rw [waiting] at faithful
      obtain ⟨earlier, replies, before⟩ := faithful
      cases answer with
      -- the text is in the file now and the reply no longer waits
      | ok _ =>
        simp only [Account.noteTarget]
        split
        · simp [Account.Faithful, replies]
        · simp only [Account.Faithful, waiting]
          exact ⟨earlier, replies, before⟩
      | error error =>
        simp only [Account.noteTarget]
        split <;> simp only [Account.Faithful, waiting] <;> exact ⟨earlier, replies, before⟩

/-- A permitted call keeps the file faithful, whatever the answer is. -/
theorem faithful_note (call : Call) (answer : Answer call) (faithful : s.Faithful)
    (permitted : s.Permits run isTarget call) : (s.note isTarget call answer).Faithful :=
  faithful_noteTarget call answer faithful permitted

/-! ## Calls that spare the target file

Most calls concern neither the file nor the replies. They may still tell how the run began, and
what is known of that only grows; so a part of such calls keeps everything but the opening, and
the opening not less than before (`ensures_of_spares`). -/

/-- The call neither changes the target file nor tells anything about a reply. -/
def Spares (isTarget : Path → Bool) (call : Call) : Prop :=
  (∀ path, call.changes? = some path → isTarget path = false) ∧
    (∀ session text, call ≠ .worker (.sendMessage session text)) ∧
    ∀ session, call ≠ .worker (.readTranscript session)

/-- A call that spares the file leaves no mark on the account. -/
theorem noteTarget_of_spares (call : Call) (answer : Answer call) (spares : Spares isTarget call) :
    s.noteTarget isTarget call answer = s := by
  obtain ⟨elsewhere, silent, unread⟩ := spares
  cases call with
  | worker request =>
    cases request with
    | sendMessage session text => exact absurd rfl (silent session text)
    | readTranscript session => exact absurd rfl (unread session)
    | _ => rfl
  | disk request =>
    cases request with
    -- a write to another file is the only case in which the path matters
    | write path text => cases answer <;> simp [Account.noteTarget, elsewhere path rfl]
    | _ => rfl
  | _ => rfl

theorem spares_of_changes {request : Disk.Call} {path : Path}
    (changes : request.changes? = some path) (elsewhere : isTarget path = false) :
    Spares isTarget (.disk request) := by
  refine ⟨fun changed same => ?_, nofun, nofun⟩
  rw [← Option.some.inj (changes.symm.trans same)]
  exact elsewhere

/-- Nothing is taken back of what is known about how a run began. -/
structure Opening.Grows (earlier later : Opening) : Prop where
  found : ∀ path ∈ earlier.found, path ∈ later.found
  connected : earlier.connected = true → later.connected = true
  compiled : ∀ answer, earlier.compiled = some answer → later.compiled = some answer
  built : ∀ answer, earlier.built = some answer → later.built = some answer

/-- Knowing the same is enough. -/
theorem Opening.Grows.refl (opening : Opening) : opening.Grows opening :=
  ⟨fun _ => id, id, fun _ => id, fun _ => id⟩

/-- What is known early on is known at last. -/
theorem Opening.Grows.trans {first second third : Opening} (h : first.Grows second)
    (h' : second.Grows third) : first.Grows third :=
  ⟨fun path mem => h'.found path (h.found path mem), fun c => h'.connected (h.connected c),
    fun answer c => h'.compiled answer (h.compiled answer c),
    fun answer b => h'.built answer (h.built answer b)⟩

/-- Each event adds to what is known or leaves it: first answers stay the first. -/
theorem Opening.grows_note (opening : Opening) (call : Call) (answer : Answer call) :
    opening.Grows (opening.note call answer) := by
  -- one case for each kind of answer that is kept
  unfold Opening.note
  split
  · exact ⟨fun _ => List.mem_append_left _, id, fun _ => id, fun _ => id⟩
  · exact ⟨fun _ => id, fun _ => rfl, fun _ => id, fun _ => id⟩
  · exact ⟨fun _ => id, id, fun _ known => by simp [known], fun _ => id⟩
  · exact ⟨fun _ => id, id, fun _ => id, fun _ known => by simp [known]⟩
  · exact .refl opening

/-- A run that began well is known to have begun well ever after. -/
theorem Opening.Begun.grow {earlier later : Opening} (begun : earlier.Begun run)
    (grows : earlier.Grows later) : later.Begun run := by
  obtain ⟨sources, connected, ⟨diagnostics, compiled, blank⟩, output, built, reported⟩ := begun
  exact ⟨⟨grows.found _ sources.1, grows.found _ sources.2⟩, grows.connected connected,
    ⟨diagnostics, grows.compiled _ compiled, blank⟩, output, grows.built _ built, reported⟩

/-- While nothing waits to be written, calls that spare the target file change nothing but what is
known about how the run began. -/
theorem ensures_of_spares {kind : Call → Prop} {p : Act α} {post : α → Account → Prop}
    (calls : Only kind p) (spares : ∀ call, kind call → Spares isTarget call)
    (settled : s.unwritten = none)
    (ends : ∀ value opening, s.opening.Grows opening → post value { s with opening := opening }) :
    (keeper run isTarget).Ensures p s post := by
  -- what is kept: the account as it was, but for an opening of which nothing was taken back
  refine Monitor.ensures_of_kept (fun after => ∃ opening, s.opening.Grows opening ∧
    after = { s with opening := opening }) calls ⟨s.opening, .refl _, rfl⟩ ?_ ?_
  · rintro _ call ofKind ⟨opening, grows, rfl⟩
    constructor
    · show Account.Permits run isTarget _ call
      unfold Account.Permits
      simp only [settled]
      exact (spares call ofKind).1
    · intro answer
      refine ⟨opening.note call answer, grows.trans (opening.grows_note call answer), ?_⟩
      show Account.note isTarget _ call answer = _
      rw [Account.note, noteTarget_of_spares call answer (spares call ofKind)]
  · rintro value _ ⟨opening, grows, rfl⟩
    exact ends value opening grows

/-! ## Replies

A dispatch is the only part that can bring a reply, by its last call. Before that call nothing
waits, after it nothing but the contract of the answer that the dispatch returns; so the two
readings of the transcript, that of the account and that of the run, have to agree. -/

/-- Nothing waits to be written, and the run began well. -/
def Settled (run : Run) (s : Account) : Prop :=
  s.unwritten = none ∧ s.opening.Begun run

/-- While nothing waits every call is permitted that changes another file or none. -/
theorem permits_of_settled (settled : s.unwritten = none) {call : Call}
    (elsewhere : ∀ path, call.changes? = some path → isTarget path = false) :
    (keeper run isTarget).permits s call := by
  show Account.Permits run isTarget s call
  unfold Account.Permits
  simp only [settled]
  exact elsewhere

/-- After a dispatch nothing waits but the contract of its reply. -/
def Replied (run : Run) : Except Worker.Failure String → Account → Prop
  | .error _, s => Settled run s
  | .ok reply, s =>
    s.opening.Begun run ∧ s.unwritten = (Contract.ofReply reply).toOption ∧
      (s.unwritten ≠ none → s.refused = none)

/-- A transcript brings the reply in it, and tells nothing about how the run began. -/
theorem note_readTranscript (session : Session) (transcript : List Message) :
    s.note isTarget (.worker (.readTranscript session)) (.ok transcript) =
      s.accept (replyIn session s.asked transcript) := by
  rw [Account.note, Account.noteTarget]
  cases replyIn session s.asked transcript <;> rfl

/-- The reply of the account is the contract of the answer. -/
theorem replied_of_transcript {session : Session} {message : String} (settled : Settled run s)
    (asked : s.asked = some message) (transcript : List Message) :
    Replied run (Conversation.answerTo session message transcript)
      (s.accept (replyIn session s.asked transcript)) := by
  cases found : Conversation.answerTo session message transcript with
  | error failure =>
    have nothing : replyIn session s.asked transcript = none := by
      simp [replyIn, asked, found, Except.toOption]
    rw [nothing]
    exact settled
  | ok reply =>
    have reads : replyIn session s.asked transcript = (Contract.ofReply reply).toOption := by
      simp [replyIn, asked, found, Except.toOption]
    rw [reads]
    -- an answer without a contract leaves nothing to wait for
    cases accepted : Contract.ofReply reply with
    | error refusal =>
      exact ⟨settled.2, by rw [accepted]; exact settled.1, fun waits => absurd settled.1 waits⟩
    | ok contract => exact ⟨settled.2, by rw [accepted]; rfl, fun _ => rfl⟩

theorem spares_of_awaitsJob {session : Session} {job : String} (call : Call)
    (h : AwaitsJob session job call) : Spares isTarget call := by
  rcases h with ⟨ms, rfl⟩ | rfl <;> exact ⟨nofun, nofun, nofun⟩

/-- After a dispatch nothing waits but what its answer brought. -/
theorem dispatch_replied (conversation : Conversation) (session : Session) (request : Request)
    (settled : Settled run s) :
    (keeper run isTarget).Ensures (conversation.dispatch session request) s (Replied run) := by
  -- only the transcript can bring a reply, so nothing waits at any call before it
  refine Monitor.ensures_ask_bind.mpr ⟨permits_of_settled settled.1 nofun, fun posted => ?_⟩
  cases posted with
  | error failure => exact settled
  | ok message =>
    refine Monitor.ensures_ask_bind.mpr ⟨permits_of_settled settled.1 nofun, fun started => ?_⟩
    cases started with
    | error failure => exact settled
    | ok job =>
      refine Monitor.ensures_bind.mpr (ensures_of_spares (only_waitForJob _ session _ _)
        spares_of_awaitsJob settled.1 fun finished opening grows => ?_)
      have later : Settled run { s with asked := some message, opening := opening } :=
        ⟨settled.1, settled.2.grow grows⟩
      cases finished with
      | error failure => exact later
      | ok job =>
        refine Monitor.ensures_ask_bind.mpr
          ⟨permits_of_settled later.1 nofun, fun transcript => ?_⟩
        cases transcript with
        | error failure => exact later
        | ok transcript =>
          show Replied run (Conversation.answerTo session message transcript)
            (Account.note isTarget _ (.worker (.readTranscript session)) (.ok transcript))
          rw [note_readTranscript]
          exact replied_of_transcript later rfl transcript

/-! ## The work of an iteration

Each part of the work begins settled and ends settled, unless a write was refused, and then it
fails. `attempted_bind` carries that from part to part, so the walk follows the text of the
procedure. -/

/-- The write of the last accepted reply was refused, and that is the failure. -/
def Refused (run : Run) (failure : Failure) (s : Account) : Prop :=
  ∃ contract error, s.unwritten = some contract ∧ s.refused = some error ∧
    failure = .workspace ⟨run.workspace.targetFile, error⟩

/-- After work on the target file nothing waits to be written unless its write was refused. -/
def Attempted (run : Run) : Except Failure α → Account → Prop
  | .ok _, s => Settled run s
  | .error failure, s => Settled run s ∨ Refused run failure s

/-- A part that spares the target file ends as it began. -/
theorem attempted_of_spares {kind : Call → Prop} {part : Attempt α} (calls : Only kind part.run)
    (spares : ∀ call, kind call → Spares isTarget call) (settled : Settled run s) :
    (keeper run isTarget).Ensures part.run s (Attempted run) := by
  refine ensures_of_spares calls spares settled.1 fun value opening grows => ?_
  have later : Settled run { s with opening := opening } := ⟨settled.1, settled.2.grow grows⟩
  cases value with
  | error failure => exact .inl later
  | ok _ => exact later

/-- One part after another: the second is reached only with nothing waiting. -/
theorem attempted_bind {β : Type} {part : Attempt α} {next : α → Attempt β}
    (first : (keeper run isTarget).Ensures part.run s (Attempted run))
    (rest : ∀ value s, Settled run s →
      (keeper run isTarget).Ensures (next value).run s (Attempted run)) :
    (keeper run isTarget).Ensures (part >>= next).run s (Attempted run) := by
  refine ensures_run_bind.mpr (first.mono ?_)
  rintro (failure | value) s attempted
  · exact attempted
  · exact rest value s attempted

theorem compile_attempted (settled : Settled run s) :
    (keeper run isTarget).Ensures compile.run s (Attempted run) := by
  have calls : Only (· = Call.compile) compile.run := only_run_orFail ⟨rfl, fun _ => trivial⟩
  exact attempted_of_spares calls (by rintro _ rfl; exact ⟨nofun, nofun, nofun⟩) settled

/-- The text of an accepted reply is written at once. -/
theorem apply_attempted (apart : run.workspace.Apart isTarget) (phase : Phase) {reply : String}
    (replied : Replied run (.ok reply) s) :
    (keeper run isTarget).Ensures (run.apply phase reply).run s (Attempted run) := by
  obtain ⟨begun, waits, unrefused⟩ := replied
  unfold Run.apply
  cases accepted : Contract.ofReply reply with
  | error refusal =>
    rw [accepted] at waits
    exact .inl ⟨waits, begun⟩
  | ok contract =>
    -- the reply waits, and the write is the first call that is made
    rw [accepted] at waits
    have waiting : s.unwritten = some contract := waits
    have free : s.refused = none := unrefused (by simp [waiting])
    refine ensures_blame.mpr ⟨?_, fun answer => ?_⟩
    · show Account.Permits run isTarget s _
      unfold Account.Permits
      rw [waiting, free]
      exact ⟨rfl, begun⟩
    · show Attempted run _ (Account.note isTarget s _ answer)
      cases answer with
      | ok _ =>
        simp only [Account.note, Account.noteTarget, apart.target, if_true]
        exact ⟨rfl, begun⟩
      | error error =>
        simp only [Account.note, Account.noteTarget, apart.target, if_true]
        exact .inr ⟨contract, error, waiting, rfl, rfl⟩

/-- A request with its answer: what the answer brought is written before anything else. -/
theorem exchange_attempted (apart : run.workspace.Apart isTarget) (session : Session)
    (phase : Phase) (request : Request) (settled : Settled run s) :
    (keeper run isTarget).Ensures (run.exchange session phase request).run s (Attempted run) := by
  refine ensures_run_bind.mpr (ensures_run_orFail.mpr
    ((dispatch_replied run.conversation session request settled).mono ?_))
  rintro (failure | reply) s replied
  · exact .inl replied
  · exact apply_attempted apart phase replied

theorem recover_attempted (apart : run.workspace.Apart isTarget) (session : Session)
    (iteration : UInt32) (left : Nat) (settled : Settled run s) :
    (keeper run isTarget).Ensures (run.recover session iteration left).run s (Attempted run) := by
  -- the induction is on the repairs that are left; each of them writes what it was given
  induction left generalizing s with
  | zero =>
    refine attempted_bind (compile_attempted settled) fun diagnostics s settled => ?_
    split <;> exact settled
  | succ left ih =>
    refine attempted_bind (compile_attempted settled) fun diagnostics s settled => ?_
    split
    · exact settled
    · exact attempted_bind (exchange_attempted apart session _ _ settled) fun _ _ => ih

theorem contextRequest_attempted (violations : List Violation) (settled : Settled run s) :
    (keeper run isTarget).Ensures (run.contextRequest violations).run s (Attempted run) := by
  have read (path : Path) {s : Account} (settled : Settled run s) :
      (keeper run isTarget).Ensures (onDisk (Workspace.readText path)).run s (Attempted run) :=
    attempted_of_spares (only_readText path) (by rintro _ rfl; exact ⟨nofun, nofun, nofun⟩) settled
  exact attempted_bind (read _ settled) fun _ _ settled =>
    attempted_bind (read _ settled) fun _ _ settled => settled

theorem post_attempted (session : Session) (phase : Phase) (request : Request)
    (settled : Settled run s) :
    (keeper run isTarget).Ensures
      (discard (orFail (.worker phase) (Conversation.post session request))).run s
      (Attempted run) := by
  refine ensures_run_discard.mpr (ensures_run_orFail.mpr
    ⟨permits_of_settled settled.1 nofun, fun posted => ?_⟩)
  cases posted with
  | error failure => exact .inl settled
  | ok message => exact settled

/-- Within its session an iteration leaves nothing unwritten but a refused write. -/
theorem remediate_attempted (apart : run.workspace.Apart isTarget) (session : Session)
    (iteration : UInt32) (violations : List Violation) (settled : Settled run s) :
    (keeper run isTarget).Ensures (run.remediate session iteration violations).run s
      (Attempted run) :=
  attempted_bind (contextRequest_attempted violations settled) fun _ _ settled =>
    attempted_bind (post_attempted session _ _ settled) fun _ _ settled =>
      attempted_bind (exchange_attempted apart session _ _ settled) fun _ _ settled =>
        recover_attempted apart session iteration _ settled

/-- The session is closed whatever came of the work, a refused write included. -/
theorem closeSession_attempted (session : Session) {result : Except Failure α}
    (attempted : Attempted run result s) :
    (keeper run isTarget).Ensures (Conversation.closeSession session) s
      fun _ => Attempted run result := by
  unfold Conversation.closeSession
  split
  · exact attempted
  · refine ensures_discard.mpr ⟨?_, fun answer => attempted⟩
    have given (settled : s.unwritten = none) :
        (keeper run isTarget).permits s (.worker (.teardownSession session)) :=
      permits_of_settled settled nofun
    cases result with
    | ok value => exact given attempted.1
    | error failure =>
      obtain settled | ⟨contract, error, waiting, refusal, -⟩ := attempted
      · exact given settled.1
      · -- the reply still waits, but its write was refused: a teardown is all that is permitted
        show Account.Permits run isTarget s _
        unfold Account.Permits
        rw [waiting, refusal]
        exact ⟨session, rfl⟩

theorem spares_of_archives (apart : run.workspace.Apart isTarget) {iteration : UInt32}
    {now : Instant} (call : Call) (h : Archives run.workspace iteration now call) :
    Spares isTarget call := by
  rcases h with rfl | rfl | rfl
  · exact ⟨nofun, nofun, nofun⟩
  · exact spares_of_changes rfl (apart.backupFile iteration now)
  · exact spares_of_changes rfl (apart.backupFile iteration now)

/-- Setting up a session changes no file and reads no transcript. -/
theorem spares_of_setsUp (call : Call) (h : SetsUp call) : Spares isTarget call := by
  refine ⟨fun path changed => ?_, ?_, ?_⟩
  · cases call <;> first | cases changed | exact h.elim
  · rintro session text rfl
    exact h
  · rintro session rfl
    exact h

/-- An iteration leaves nothing waiting, unless it fails by a refused write. -/
theorem iterate_attempted (apart : run.workspace.Apart isTarget) (iteration : UInt32)
    (violations : List Violation) (settled : Settled run s) :
    (keeper run isTarget).Ensures (run.iterate iteration violations).run s (Attempted run) := by
  refine ensures_iterate (permits_of_settled settled.1 nofun) fun now => ?_
  refine (attempted_of_spares (only_createBackup run.workspace iteration now)
    (spares_of_archives apart) settled).mono ?_
  rintro (failure | _) s archived
  · exact archived
  -- counting the setups may panic, and then nothing waits either
  refine ⟨fun _ => .inl archived, ?_⟩
  refine ensures_of_spares (only_openWithin run.conversation _ _ _) spares_of_setsUp archived.1
    fun opened opening grows => ?_
  have later : Settled run { s with opening := opening } :=
    ⟨archived.1, archived.2.grow grows⟩
  cases opened with
  | error failure => exact .inl later
  | ok session =>
    refine (remediate_attempted apart session iteration violations later).mono ?_
    exact fun result s attempted => closeSession_attempted session attempted

/-! ## Passes

A reply may only be written in a run that began well. The first pass that comes to an iteration
has just shown that, and every later pass begins with it known; `Ready` has both cases. -/

/-- A pass may begin: either it is the first one, or the run began well. -/
structure Ready (run : Run) (s : Account) : Prop where
  settled : s.unwritten = none
  sources : run.workspace.sourceDir ∈ s.opening.found ∧ run.workspace.targetFile ∈ s.opening.found
  connected : s.opening.connected = true
  first : s.opening.compiled = none ∧ s.opening.built = none ∨ s.opening.Begun run

/-- When the run began well and nothing waits, a further pass may begin. -/
theorem Settled.ready (settled : Settled run s) : Ready run s :=
  ⟨settled.1, settled.2.sources, settled.2.connected, .inr settled.2⟩

/-- What holds when a pass was inspected: with violations the run began well. -/
def Inspected (run : Run) : Except Failure Finding → Account → Prop
  | .ok (.built (_ :: _)), s => Settled run s
  | _, s => s.unwritten = none

/-- The log of a build lies apart from the target file. -/
theorem spares_of_keepsBuildLog (apart : run.workspace.Apart isTarget) {text : String}
    (call : Call) (h : KeepsBuildLog run.workspace text call) : Spares isTarget call := by
  rcases h with rfl | rfl
  · exact ⟨nofun, nofun, nofun⟩
  · exact spares_of_changes rfl apart.buildLog

theorem spares_of_keepsViolations (apart : run.workspace.Apart isTarget) {text : String}
    {now : Instant} (call : Call) (h : KeepsViolations run.workspace text now call) :
    Spares isTarget call := by
  rcases h with rfl | rfl | rfl
  · exact ⟨nofun, nofun, nofun⟩
  · exact spares_of_changes rfl apart.violationLog
  · exact spares_of_changes rfl (apart.violationSnapshot now)

/-- The sources compiled in a pass that may begin, and so far nothing was built in the first one. -/
structure Clean (run : Run) (s : Account) : Prop where
  settled : s.unwritten = none
  begins : ∀ output, Violation.extract run.repeats output.rawLog ≠ [] →
    (s.opening.note .build (.ok output)).Begun run

/-- After a compilation without diagnostics, a build with violations shows that the run began
well. -/
theorem Ready.clean (ready : Ready run s) {diagnostics : String}
    (blank : Text.isBlankText diagnostics = true) :
    Clean run (s.note isTarget .compile (.ok diagnostics)) := by
  refine ⟨ready.settled, fun output reported => ?_⟩
  -- in the first pass this compilation and the next build are the first; later ones add nothing
  obtain ⟨uncompiled, unbuilt⟩ | begun := ready.first
  · refine ⟨ready.sources, ready.connected, ⟨diagnostics, ?_, blank⟩, output, ?_, reported⟩
    · simp [Account.note, Opening.note, uncompiled]
    · simp [Account.note, Opening.note, unbuilt]
  · have grows : s.opening.Grows (s.note isTarget .compile (.ok diagnostics)).opening :=
      s.opening.grows_note .compile (.ok diagnostics)
    exact begun.grow (grows.trans (Opening.grows_note _ .build (.ok output)))

/-- A build with violations ends an inspection of a run that began well. -/
theorem inspected_of_clean (apart : run.workspace.Apart isTarget) (clean : Clean run s)
    (output : Toolchain.BuildOutput) :
    AfterBuild (keeper run isTarget) run (Inspected run) output
      (s.note isTarget .build (.ok output)) := by
  refine ensures_of_spares (only_persistBuildLog run.workspace output.rawLog)
    (spares_of_keepsBuildLog apart) clean.settled fun logged opening grows => ?_
  cases logged with
  | error failure => exact clean.settled
  | ok _ =>
    have later : { s with opening := opening }.unwritten = none := clean.settled
    refine ⟨permits_of_settled later nofun, fun now => ?_⟩
    refine ensures_of_spares (only_persistViolations run.workspace _ now)
      (spares_of_keepsViolations apart) later fun logged last grown => ?_
    cases logged with
    | error failure => exact clean.settled
    | ok _ =>
      simp only [onward_ok]
      cases found : Violation.extract run.repeats output.rawLog with
      | nil => exact clean.settled
      | cons violation more =>
        have begun := clean.begins output (by rw [found]; exact List.cons_ne_nil _ _)
        exact ⟨clean.settled, begun.grow (grows.trans grown)⟩

theorem inspect_inspected (apart : run.workspace.Apart isTarget) (ready : Ready run s) :
    (keeper run isTarget).Ensures run.inspect.run s (Inspected run) := by
  refine ensures_inspect (Clean run) (Clean run) (permits_of_settled ready.settled nofun)
    (fun _ => ready.settled) (fun _ _ => ready.settled) (fun _ blank => ready.clean blank) ?_ ?_
  · exact fun s clean =>
      ⟨permits_of_settled clean.settled nofun, fun _ => clean.settled, clean⟩
  · exact fun s clean =>
      ⟨permits_of_settled clean.settled nofun, fun _ => clean.settled, inspected_of_clean apart clean⟩

/-- How a run or a part of it leaves the target file. -/
def Ends (run : Run) : Except Failure α → Account → Prop
  | .ok _, s => s.unwritten = none
  | .error failure, s => s.unwritten = none ∨ Refused run failure s

/-- Passes leave nothing waiting, unless the run fails by a refused write. -/
theorem passes_ends (apart : run.workspace.Apart isTarget) (progress : Progress) (left : Nat)
    (ready : Ready run s) :
    (keeper run isTarget).Ensures (run.passes progress left).run s (Ends run) := by
  -- the induction is on the iterations that are left; an iteration makes the next pass ready
  induction left generalizing s progress with
  | zero =>
    refine ensures_passes (permits_of_settled ready.settled nofun) ready.settled
      (fun _ => .inl ready.settled) ((inspect_inspected apart ready).mono ?_)
    rintro (failure | _ | _ | _) s inspected
    · exact .inl inspected
    · exact inspected
    · exact inspected
    · exact inspected.1
  | succ left ih =>
    refine ensures_passes (permits_of_settled ready.settled nofun) ready.settled
      (fun _ => .inl ready.settled) ((inspect_inspected apart ready).mono ?_)
    rintro (failure | _ | _ | _) s inspected
    · exact .inl inspected
    · exact inspected
    · exact inspected
    · refine (iterate_attempted apart _ _ inspected).mono ?_
      rintro (failure | _ | outcome) s attempted
      · exact attempted.imp_left And.left
      · exact ih progress.advance attempted.ready
      · exact attempted.1

/-! ## Whole runs

The checks find the sources and the worker and leave the rest open, which is how the first pass
has to begin. With the walk done, each field of `Intact` is read off what the monitor permits. -/

/-- The sources were found, and nothing else happened. -/
structure Located (run : Run) (s : Account) : Prop where
  settled : s.unwritten = none
  opening : s.opening = ⟨[run.workspace.sourceDir, run.workspace.targetFile], false, none, none⟩

/-- The check of the sources finds both paths, or the run ends. -/
theorem ensureSources_located (run : Run) :
    (keeper run isTarget).Ensures (onDisk run.workspace.ensureSources).run .start
      (Onward (fun _ => Located run) fun failure => Ends run (.error failure : Except Failure Outcome)) := by
  refine ensures_onDisk_bind.mpr ((ensures_present _).mpr
    ⟨permits_of_settled rfl nofun, fun there => ?_⟩)
  cases there with
  | false => exact .inl rfl
  | true =>
    refine ensures_onDisk_bind.mpr ((ensures_present _).mpr
      ⟨permits_of_settled rfl nofun, fun there => ?_⟩)
    cases there with
    | false => exact .inl rfl
    | true => exact ⟨rfl, rfl⟩

/-- A run leaves nothing waiting, unless it fails by a refused write. -/
theorem start_ends (apart : run.workspace.Apart isTarget) :
    (keeper run isTarget).Ensures run.start.run .start (Ends run) := by
  refine ensures_start (Located run) (Ready run) (ensureSources_located run) ?_ ?_ ?_ ?_ ?_
  · exact fun s located => permits_of_settled located.settled nofun
  · exact fun s failure located => .inl located.settled
  · intro s located
    have sources : run.workspace.sourceDir ∈ s.opening.found ∧
        run.workspace.targetFile ∈ s.opening.found := by simp [located.opening]
    have untried : s.opening.compiled = none ∧ s.opening.built = none := by
      simp [located.opening]
    exact ⟨located.settled, sources, rfl, .inl untried⟩
  · exact fun s ready =>
      ⟨permits_of_settled ready.settled nofun, fun _ => ready⟩
  · exact fun s ready => passes_ends apart _ _ ready

/-- What a run guarantees about its target file, whatever the toolchain, the worker and the file
system answer and whenever it is told to stop. -/
structure Intact (run : Run) (isTarget : Path → Bool) (history : History Call Answer)
    (result : Except Failure Outcome) : Prop where
  /-- At every moment the file holds what it held before the run, or the text of the last accepted
  reply; while that reply waits for its write, the text of the one before it. -/
  faithful : ∀ before, before <+: history → (account isTarget before).Faithful
  /-- Only the text of an accepted reply that waits is ever put into the file, and never in a run
  that did not begin well. -/
  changes : ∀ before event rest, history = before ++ event :: rest →
    ∀ path, event.1.changes? = some path → isTarget path = true →
      (account isTarget before).opening.Begun run ∧
        ∃ contract, (account isTarget before).unwritten = some contract ∧
          event.1 = .disk (.write run.workspace.targetFile contract.updatedContent)
  /-- A reply does not wait: its write is the next call, and when that is refused, no call follows
  that does more than give the session back. -/
  waits : ∀ before event rest, history = before ++ event :: rest →
    ∀ contract, (account isTarget before).unwritten = some contract →
      match (account isTarget before).refused with
      | none => event.1 = .disk (.write run.workspace.targetFile contract.updatedContent)
      | some _ => ∃ session, event.1 = .worker (.teardownSession session)
  /-- A run that leaves a reply unwritten fails, and with the very refusal of its write. -/
  ends : ∀ contract, (account isTarget history).unwritten = some contract →
    ∃ error, (account isTarget history).refused = some error ∧
      result = .error (.workspace ⟨run.workspace.targetFile, error⟩)

/-- **Target file integrity.** At every moment of every run the target file holds its text from
before the run or exactly the text of the last accepted reply, and every failure leaves it so. A run
that stops at the source check, the connection check, the first compilation or a first build without
violations never writes it. -/
theorem target_integrity (run : Run) (isTarget : Path → Bool)
    (apart : run.workspace.Apart isTarget) {history : History Call Answer}
    {result : Except Failure Outcome} (yields : Yields run.start.run history result) :
    Intact run isTarget history result := by
  obtain ⟨accepted, ended⟩ := (start_ends apart).sound yields
  have permitted (before : History Call Answer) (event : Event Call Answer)
      (rest : History Call Answer) (parts : history = before ++ event :: rest) :
      (account isTarget before).Permits run isTarget event.1 := by
    subst parts
    exact accepted.permits
  refine ⟨fun before part => ?_, fun before event rest parts path changed atTarget => ?_,
    fun before event rest parts contract waiting => ?_, fun contract waiting => ?_⟩
  · -- every permitted call keeps the file faithful, and all calls of the run were permitted
    have start : Account.start.Faithful := rfl
    exact (accepted.of_prefix part).invariant start
      fun s call answer faithful => faithful_note call answer faithful
  · have allowed := permitted before event rest parts
    unfold Account.Permits at allowed
    split at allowed
    · next contract waiting _ =>
      exact ⟨allowed.2, contract, waiting, allowed.1⟩
    · obtain ⟨session, given⟩ := allowed
      rw [given] at changed
      cases changed
    · exact absurd atTarget (by simp [allowed path changed])
  · have allowed := permitted before event rest parts
    unfold Account.Permits at allowed
    rw [waiting] at allowed
    cases refusal : (account isTarget before).refused with
    | none =>
      rw [refusal] at allowed
      exact allowed.1
    | some error =>
      rw [refusal] at allowed
      exact allowed
  · -- only a failed run can leave a reply waiting, and the walk knows its refusal
    cases result with
    | ok outcome => cases waiting.symm.trans ended
    | error failure =>
      obtain settled | ⟨_, error, -, refusal, blamed⟩ := ended
      · cases waiting.symm.trans settled
      · exact ⟨error, refusal, by rw [blamed]⟩

/-! ## A run that fails late

The plain run writes its logs and archives to directories whose paths begin with other letters
than the path of the target file, so the first letter tells them apart. -/

/-- A relative name below a directory leaves the first letter of the path. -/
theorem head?_join {base : Path} {name : String} {first : Char}
    (head : base.text.toList.head? = some first) (relative : name.toList.head? ≠ some '/') :
    (base / name).text.toList.head? = some first := by
  have inside : (⟨name⟩ : Path).isAbsolute = false := by simpa [Path.isAbsolute] using relative
  have named : base.text.isEmpty = false := by
    cases empty : base.text.isEmpty with
    | false => rfl
    | true => simp [String.isEmpty_iff.mp empty] at head
  show (base.join ⟨name⟩).text.toList.head? = some first
  unfold Path.join
  simp only [inside, named, Bool.or_self, Bool.false_eq_true, if_false]
  split <;> simp [String.toList_append, List.head?_append, head]

/-- The target file of the plain run, told by its path. -/
def isPlainTarget (path : Path) : Bool :=
  path = plainRun.workspace.targetFile

/-- In the plain run the target file is the only one whose path begins as it does. -/
theorem apart_of_head {isTarget : Path → Bool}
    (target : isTarget plainRun.workspace.targetFile = true)
    (others : ∀ path : Path, path.text.toList.head? ≠ some 's' → isTarget path = false) :
    plainRun.workspace.Apart isTarget := by
  have elsewhere {path : Path} {first : Char} (head : path.text.toList.head? = some first)
      (other : first ≠ 's') : isTarget path = false := by
    refine others path fun same => other ?_
    exact Option.some.inj (head.symm.trans same)
  have log {name : String} (relative : name.toList.head? ≠ some '/') :
      isTarget (plainRun.workspace.logDir / name) = false :=
    elsewhere (head?_join rfl relative) (by decide : 'l' ≠ 's')
  have backup {name : String} (relative : name.toList.head? ≠ some '/') :
      isTarget (plainRun.workspace.backupDir / name) = false :=
    elsewhere (head?_join rfl relative) (by decide : 'b' ≠ 's')
  refine ⟨target, log ?_, fun now => log ?_, log ?_, fun iteration now => backup ?_⟩
  all_goals simp [String.toList_append]

/-- The logs and archives of the plain run are not its target file. -/
theorem apart_plainRun : plainRun.workspace.Apart isPlainTarget := by
  refine apart_of_head rfl fun path head => decide_eq_false fun same => head ?_
  rw [same]
  rfl

/-- A world in which the fix of the worker does not compile, its repair is accepted, and then the
compiler cannot be started any more. -/
def interrupted (past : History Call Answer) : (call : Call) → Answer call
  | .compile =>
    match (account isPlainTarget past).accepted with
    | [] => .ok ""
    | [_] => .ok "error"
    | _ => .error (.spawn "tsp" .notFound)
  | .build => .ok ⟨"AZC0012: Model", false⟩
  | .worker (.readTranscript _) =>
    let text := if (account isPlainTarget past).accepted = [] then "first" else "second"
    .ok [⟨"message", .user, ""⟩, ⟨"reply", .assistant,
      "\x7b\"analysis\":\x7b\x7d,\"updatedContent\":\"" ++ text ++ "\"\x7d"⟩]
  | call => obliging call

/-- That run fails and leaves the file as the repair left it. -/
theorem target_integrity_interrupted :
    Intact plainRun isPlainTarget (plainRun.start.run.replay interrupted []).1
        (plainRun.start.run.replay interrupted []).2 ∧
      (account isPlainTarget (plainRun.start.run.replay interrupted []).1).accepted.map
        (·.updatedContent) = ["first", "second"] ∧
      (account isPlainTarget (plainRun.start.run.replay interrupted []).1).written =
        some "second" ∧
      (plainRun.start.run.replay interrupted []).2.toOption = none :=
  ⟨target_integrity plainRun isPlainTarget apart_plainRun (Procedure.yields_replay _ _),
    by decide +kernel, by decide +kernel, by decide +kernel⟩

end Run

end AzcRepair
