import AzcRepair.Proofs.Run.Outcomes
import AzcRepair.Proofs.Run.Passing
import AzcRepair.Proofs.Run.Rounds

/-!
# One view of the violations

What a build reports goes to the worker in three ways, as a file that is uploaded, in the context
and in the request for a remedy, and it stays on the disk in the logs. All of them tell the same, and
the sources that are uploaded are those that the context holds.

* `View` — what a history says about the files, the uploads and the messages.
* `viewer` — the monitor that permits an upload or a message only when it tells what the build said.
* `Shows`, `Primed` — what holds once the logs of a build are written, and before its session.
* `passing_views` — the passes of a run keep to the monitor.
* `OneView`, `one_view` — what holds of every run.
-/

namespace AzcRepair

open Monitor (Only)
open Procedure (Event History Yields)

/-- The files that a run keeps a text in. -/
def Workspace.kept (workspace : Workspace) : List Path :=
  [workspace.violationLog, workspace.buildLog, workspace.mainFile, workspace.targetFile]

/-- The kept files differ, and no snapshot and no backup is one of them. Several paths may lead to
the same file, so it is the files `real path` that count. -/
structure Workspace.Separate (workspace : Workspace) (real : Path → Path) : Prop where
  kept : workspace.kept.Pairwise fun path other => real path ≠ real other
  snapshot : ∀ now, ∀ path ∈ workspace.kept, real path ≠ real (workspace.violationSnapshot now)
  backup : ∀ iteration now, ∀ path ∈ workspace.kept, real path ≠ real (workspace.backupFile iteration now)

theorem Workspace.Separate.pairs {workspace : Workspace} {real : Path → Path}
    (separate : workspace.Separate real) :
    (real workspace.violationLog ≠ real workspace.buildLog ∧
      real workspace.violationLog ≠ real workspace.mainFile ∧
      real workspace.violationLog ≠ real workspace.targetFile) ∧
    (real workspace.buildLog ≠ real workspace.mainFile ∧
      real workspace.buildLog ≠ real workspace.targetFile) ∧
    real workspace.mainFile ≠ real workspace.targetFile := by
  simpa [Workspace.kept] using separate.kept

namespace Run

open Worker (Session Artifact)

/-! ## What a history says

A reading of a history that keeps six things, and what is to be true of them at the moments that
count. A file is known only as far as the history tells: what the run wrote is known, what the run
had overwritten by the operating system is not. Whether the disk gives back what was written is
not up to the run. It is noted in `honest`, and only the context depends on it. -/

/-- What a history says about the files, the uploads and the messages. -/
structure View where
  /-- What a file holds, if that is known. -/
  files : Path → Option String
  /-- Every text that was read is the one that the file was known to hold. -/
  honest : Bool
  /-- The output of the latest build. -/
  built : Option Toolchain.BuildOutput
  /-- What was written since then, and where. -/
  written : List (Path × String)
  /-- What was uploaded since the latest creation of a session, and what the file held then. -/
  uploaded : List (Path × Option String)
  /-- The number of messages since the build. -/
  posts : Nat

namespace View

/-- Before the run every file holds its text. -/
def start (initial : Path → String) : View :=
  ⟨fun path => some (initial path), true, none, [], [], 0⟩

def put (view : View) (file : Path) (text : Option String) : View :=
  { view with files := fun other => if other = file then text else view.files other }

/-- Takes note of an event. A file is unknown after a request to change it that was refused, and when
it becomes an archive. The toolchain changes none of the files. -/
def note (real : Path → Path) (view : View) : (call : Call) → Answer call → View
  | .build, .ok output => { view with built := some output, written := [], posts := 0 }
  | .disk (.write path text), .ok _ =>
    { view.put (real path) (some text) with written := view.written ++ [(path, text)] }
  | .disk (.write path _), .error _ => view.put (real path) none
  | .disk (.createNew path), _ => view.put (real path) none
  | .disk (.archive path _), _ => view.put (real path) none
  | .disk (.copy _ path), _ => view.put (real path) none
  | .disk (.readText path), .ok text =>
    { view with honest := view.honest && (view.files (real path)).all (· == text) }
  | .worker (.createSession _), .ok _ => { view with uploaded := [] }
  | .worker (.uploadArtifact artifact), .ok _ =>
    { view with uploaded := view.uploaded ++ [(artifact.path, view.files (real artifact.path))] }
  | .worker (.sendMessage ..), _ => { view with posts := view.posts + 1 }
  | _, _ => view

end View

/-- What a history says when the files held these texts before it. -/
def view (real : Path → Path) (initial : Path → String) (history : History Call Answer) : View :=
  history.foldl (fun view event => view.note real event.1 event.2) (.start initial)

/-- The violations in the output of a build. -/
def reported (run : Run) (output : Toolchain.BuildOutput) : List Violation :=
  Violation.extract run.repeats output.rawLog

/-- This is the latest build, and the logs on the disk are about it. -/
structure Shows (run : Run) (real : Path → Path) (output : Toolchain.BuildOutput) (view : View) :
    Prop where
  built : view.built = some output
  log : view.files (real run.workspace.violationLog) = some (Violation.log (run.reported output))
  buildLog : view.files (real run.workspace.buildLog) = some output.rawLog

/-- A copy of the violation log of the build was written for some instant. -/
def Copied (run : Run) (output : Toolchain.BuildOutput) (view : View) : Prop :=
  ∃ now, (run.workspace.violationSnapshot now, Violation.log (run.reported output)) ∈ view.written

/-- The text is the context of a session for this build: it holds the violation log, and the main and
the target file as they were uploaded for the session. -/
def IsContext (run : Run) (output : Toolchain.BuildOutput) (view : View) (text : String) : Prop :=
  ∃ main target,
    text = (Request.context main target (Violation.log (run.reported output))).body ∧
      view.uploaded = [(run.workspace.mainFile, some main), (run.workspace.targetFile, some target),
        (run.workspace.violationLog, some (Violation.log (run.reported output)))]

/-! ## The monitor

The three promises as permissions: an upload asks for logs that are about the build, the first
message for the context, the second one for the violations. A permission looks at the view alone,
so the walk needs nothing of the history but its view. -/

/-- Artifacts are uploaded when the logs are about the latest build. The first message after a build
is the context for it, and the second one asks for a remedy of its violations. -/
def View.Permits (run : Run) (real : Path → Path) (view : View) : Call → Prop
  | .worker (.uploadArtifact _) => ∃ output, Shows run real output view ∧ Copied run output view
  | .worker (.sendMessage _ text) => ∃ output, view.built = some output ∧
      -- messages are told apart by their number since the build; the later ones ask for
      -- repairs
      (view.posts = 0 → view.honest = true → IsContext run output view text) ∧
      (view.posts = 1 → text = (Request.remediation (run.reported output) run.registry).body)
  | _ => True

def viewer (run : Run) (real : Path → Path) : Monitor Call Answer View where
  note := View.note real
  permits view call := view.Permits run real call

variable {run : Run} {real : Path → Path} {output : Toolchain.BuildOutput} {s : View}
  {main target : String} {α : Type}

/-- What holds from the time that the logs of a build are written to the first message: the logs are
about the build, and these are the texts of the sources. -/
structure Primed (run : Run) (real : Path → Path) (output : Toolchain.BuildOutput)
    (main target : String) (view : View) : Prop where
  shows : Shows run real output view
  copied : Copied run output view
  main : view.files (real run.workspace.mainFile) = some main
  target : view.files (real run.workspace.targetFile) = some target
  posts : view.posts = 0

/-! ## What changes a file

A fact about a kept file survives every write elsewhere. That the other files are elsewhere is
what `Workspace.Separate` provides: for the copies of the violation log, and for the archives. -/

/-- Only the files and the latest build matter to what the logs show. -/
theorem Shows.same {t : View} (shows : Shows run real output s) (built : t.built = s.built)
    (files : t.files = s.files) : Shows run real output t := by
  refine ⟨?_, ?_, ?_⟩
  · rw [built, shows.built]
  · rw [files, shows.log]
  · rw [files, shows.buildLog]

theorem View.put_of_ne {file other : Path} (differs : other ≠ file) (text : Option String) :
    (s.put file text).files other = s.files other := if_neg differs

/-- The file is none of the kept ones. -/
def Elsewhere (workspace : Workspace) (real : Path → Path) (file : Path) : Prop :=
  ∀ path ∈ workspace.kept, real path ≠ file

/-- A session stays prepared when a file is written that is none of the kept ones. -/
theorem Primed.put (primed : Primed run real output main target s) {file : Path}
    (elsewhere : Elsewhere run.workspace real file) (text : Option String) :
    Primed run real output main target (s.put file text) := by
  have same (path : Path) (kept : path ∈ run.workspace.kept) :
      (s.put file text).files (real path) = s.files (real path) :=
    View.put_of_ne (elsewhere path kept) text
  obtain ⟨⟨built, log, buildLog⟩, copied, atMain, atTarget, posts⟩ := primed
  refine ⟨⟨built, ?_, ?_⟩, copied, ?_, ?_, posts⟩
  · rw [same _ (by simp [Workspace.kept]), log]
  · rw [same _ (by simp [Workspace.kept]), buildLog]
  · rw [same _ (by simp [Workspace.kept]), atMain]
  · rw [same _ (by simp [Workspace.kept]), atTarget]

/-- A call of a backup changes the archive, which is none of the kept files. -/
theorem primed_archives (separate : run.workspace.Separate real) {iteration : UInt32} {now : Instant}
    {call : Call} (h : Archives run.workspace iteration now call)
    (primed : Primed run real output main target s) :
    (viewer run real).permits s call ∧ ∀ answer,
      Primed run real output main target ((viewer run real).note s call answer) := by
  have elsewhere : Elsewhere run.workspace real (real (run.workspace.backupFile iteration now)) :=
    separate.backup iteration now
  rcases h with rfl | rfl | rfl
  · exact ⟨trivial, fun _ => primed⟩
  · exact ⟨trivial, fun _ => primed.put elsewhere none⟩
  · exact ⟨trivial, fun _ => primed.put elsewhere none⟩

theorem primed_createBackup (separate : run.workspace.Separate real) {iteration : UInt32}
    {now : Instant} (primed : Primed run real output main target s) :
    (viewer run real).Ensures (onDisk (run.workspace.createBackup iteration now)).run s
      fun _ => Primed run real output main target :=
  Monitor.ensures_of_kept (Primed run real output main target)
    (only_createBackup run.workspace iteration now) primed
    (fun _ _ archives primed => primed_archives separate archives primed) fun _ _ => id

/-! ## Opening a session

A setup uploads the artifacts, each with what its file holds at that time. Between the logs and
the last upload nothing writes to a file, so what was uploaded is what the files still hold when
the context is made. A setup that fails and is begun again clears the list of uploads, and the
next one fills it anew. -/

theorem primed_setsUp {call : Call} (h : SetsUp call)
    (primed : Primed run real output main target s) :
    (viewer run real).permits s call ∧ ∀ answer,
      Primed run real output main target ((viewer run real).note s call answer) := by
  obtain ⟨shows, copied, atMain, atTarget, posts⟩ := primed
  have kept (uploaded : List (Path × Option String)) :
      Primed run real output main target { s with uploaded := uploaded } :=
    ⟨shows.same rfl rfl, copied, atMain, atTarget, posts⟩
  -- only a creation and an upload touch the view, and both of them only its list of uploads
  cases call with
  | clock | freshSuffix | pause => exact ⟨trivial, fun _ => kept s.uploaded⟩
  | worker request =>
    cases request with
    | createSession instructions =>
      refine ⟨trivial, fun answer => ?_⟩
      cases answer with
      | error failure => exact kept s.uploaded
      | ok session => exact kept []
    | uploadArtifact artifact =>
      refine ⟨⟨output, shows, copied⟩, fun answer => ?_⟩
      cases answer with
      | error failure => exact kept s.uploaded
      | ok file => exact kept _
    | createIndex | indexStatus | attachIndex | teardownSession =>
      exact ⟨trivial, fun _ => kept s.uploaded⟩
    | _ => exact h.elim
  | _ => exact h.elim

/-- What the files of the artifacts hold. -/
def holdings (real : Path → Path) (view : View) (artifacts : List Artifact) :
    List (Path × Option String) :=
  artifacts.map fun artifact => (artifact.path, view.files (real artifact.path))

/-- Artifacts that are all uploaded are listed with what their files hold. The files stay as they
were, also when an upload fails. -/
theorem uploadAll_provided (artifacts : List Artifact) (session : Session)
    (primed : Primed run real output main target s) :
    (viewer run real).Ensures (Conversation.uploadAll session artifacts) s fun result after =>
      Primed run real output main target after ∧ after.files = s.files ∧
        (result.2 = .ok () → after.uploaded = s.uploaded ++ holdings real s artifacts) := by
  -- the induction is on the artifacts; an upload leaves the files as they are
  induction artifacts generalizing session s with
  | nil =>
    refine ⟨primed, rfl, fun _ => ?_⟩
    rw [holdings, List.map_nil, List.append_nil]
  | cons artifact rest ih =>
    have call : SetsUp (.worker (.uploadArtifact artifact)) := trivial
    obtain ⟨permitted, still⟩ := primed_setsUp call primed
    refine ⟨permitted, fun answer => ?_⟩
    cases answer with
    | error failure => exact ⟨still (.error failure), rfl, nofun⟩
    | ok file =>
      refine (ih _ (still (.ok file))).mono ?_
      rintro result after ⟨primed, files, uploaded⟩
      refine ⟨primed, files, fun well => ?_⟩
      rw [uploaded well]
      simp [viewer, View.note, holdings]

/-- What a setup leaves: all artifacts were uploaded for it, or it failed. -/
def Provided (run : Run) (real : Path → Path) (output : Toolchain.BuildOutput) (main target : String)
    (artifacts : List Artifact) {ε : Type} (result : Except ε α) (view : View) : Prop :=
  Primed run real output main target view ∧
    (result.isOk = true → view.uploaded = holdings real view artifacts)

/-- Waiting for a vector store is of no interest to the monitor. -/
theorem viewer_awaitsIndex {index : String} (call : Call) (h : AwaitsIndex index call) :
    (viewer run real).Idle s call := by
  rcases h with ⟨ms, rfl⟩ | rfl <;> exact ⟨trivial, fun _ => rfl⟩

theorem setUp_provided (conversation : Conversation) (instructions : String)
    (artifacts : List Artifact) (primed : Primed run real output main target s) :
    (viewer run real).Ensures (conversation.setUp instructions artifacts) s fun result =>
      Provided run real output main target artifacts result.2 := by
  have create : SetsUp (.worker (.createSession instructions)) := trivial
  obtain ⟨permitted, still⟩ := primed_setsUp create primed
  refine Monitor.ensures_ask_bind.mpr ⟨permitted, fun created => ?_⟩
  rcases created with failure | session
  · exact ⟨primed, nofun⟩
  refine Monitor.ensures_bind.mpr ((uploadAll_provided artifacts session (still (.ok session))).mono ?_)
  rintro ⟨session, failure | _⟩ after ⟨primed, files, uploaded⟩
  · exact ⟨primed, nofun⟩
  have provided : after.uploaded = holdings real after artifacts := by
    rw [uploaded rfl]
    simp only [holdings, files]
    rfl
  -- from here on the uploads stay as they are
  refine Monitor.ensures_ask_bind.mpr ⟨trivial, fun now => ?_⟩
  refine Monitor.ensures_ask_bind.mpr ⟨trivial, fun suffix => ?_⟩
  refine Monitor.ensures_ask_bind.mpr ⟨trivial, fun made => ?_⟩
  rcases made with failure | index
  · exact ⟨primed, nofun⟩
  refine Monitor.ensures_ask_bind.mpr ⟨trivial, fun _ => Monitor.ensures_bind.mpr ?_⟩
  refine Monitor.ensures_of_only (only_waitForIndex conversation index _) viewer_awaitsIndex
    fun waited => ?_
  rcases waited with failure | _
  · exact ⟨primed, nofun⟩
  · exact ⟨trivial, fun attached => ⟨primed, fun _ => provided⟩⟩

/-- A session that is closed leaves everything ready for the next one. -/
theorem closeSession_primed (session : Session) (primed : Primed run real output main target s) :
    (viewer run real).Ensures (Conversation.closeSession session) s
      fun _ => Primed run real output main target :=
  Monitor.ensures_of_kept (Primed run real output main target) (only_closeSession session) primed
    (fun _ _ setsUp primed => primed_setsUp setsUp primed) fun _ _ => id

/-- Whatever setups failed before it, the session that is opened was provided with all artifacts.
-/
theorem openWithin_provided (conversation : Conversation) (instructions : String)
    (artifacts : List Artifact) (left : Nat) (primed : Primed run real output main target s) :
    (viewer run real).Ensures (conversation.openWithin instructions artifacts left) s
      (Provided run real output main target artifacts) := by
  -- the induction is on the setups that are left; a failed one hands `Primed` on through its
  -- teardown
  induction left generalizing s with
  | zero =>
    refine Monitor.ensures_bind.mpr ((setUp_provided _ instructions artifacts primed).mono ?_)
    rintro ⟨session, failure | _⟩ after provided
    · refine Monitor.ensures_bind.mpr ((closeSession_primed session provided.1).mono ?_)
      exact fun _ _ primed => ⟨primed, nofun⟩
    · exact provided
  | succ left ih =>
    refine Monitor.ensures_bind.mpr ((setUp_provided _ instructions artifacts primed).mono ?_)
    rintro ⟨session, failure | _⟩ after provided
    · refine Monitor.ensures_bind.mpr ((closeSession_primed session provided.1).mono ?_)
      exact fun _ _ primed => ih primed
    · exact provided

/-! ## The talk on a session

Here the two messages are sent that the monitor has permissions for. The context is the first
message, and the request for a remedy is the second. After that the number of messages is two or
more, so nothing is asked of those that follow. A round writes the target file, and that is all it
changes. -/

/-- What is kept once the request for a remedy was posted: the logs are about the build, and the text
of the main file is known. -/
structure Told (run : Run) (real : Path → Path) (output : Toolchain.BuildOutput) (main : String)
    (view : View) : Prop where
  shows : Shows run real output view
  main : view.files (real run.workspace.mainFile) = some main
  posts : 2 ≤ view.posts

/-- Only the files, the latest build and the number of messages matter. -/
theorem Told.same {t : View} (told : Told run real output main s) (built : t.built = s.built)
    (files : t.files = s.files) (posts : s.posts ≤ t.posts) : Told run real output main t := by
  refine ⟨told.shows.same built files, ?_, Nat.le_trans told.posts posts⟩
  rw [files, told.main]

/-- Writing the target file leaves the logs and the main file as they are. -/
theorem Told.put (separate : run.workspace.Separate real) (told : Told run real output main s)
    (text : Option String) :
    Told run real output main (s.put (real run.workspace.targetFile) text) := by
  obtain ⟨⟨built, log, buildLog⟩, atMain, posts⟩ := told
  obtain ⟨⟨-, -, logTarget⟩, ⟨-, buildTarget⟩, mainTarget⟩ := separate.pairs
  refine ⟨⟨built, ?_, ?_⟩, ?_, posts⟩
  · rw [View.put_of_ne logTarget, log]
  · rw [View.put_of_ne buildTarget, buildLog]
  · rw [View.put_of_ne mainTarget, atMain]

/-- What is said and done after the request for a remedy is permitted, and keeps what was told. -/
theorem told_converses (separate : run.workspace.Separate real) {session : Session} {call : Call}
    (h : Converses run.workspace session call) (told : Told run real output main s) :
    (viewer run real).permits s call ∧ ∀ answer,
      Told run real output main ((viewer run real).note s call answer) := by
  cases call with
  | compile | pause => exact ⟨trivial, fun _ => told⟩
  | disk request =>
    -- two of the calls read the sources, the third one writes the target file
    obtain rfl | rfl | ⟨text, rfl⟩ := h
    · refine ⟨trivial, fun answer => ?_⟩
      rcases answer with error | text
      · exact told
      · exact told.same rfl rfl (Nat.le_refl _)
    · refine ⟨trivial, fun answer => ?_⟩
      rcases answer with error | text
      · exact told
      · exact told.same rfl rfl (Nat.le_refl _)
    · refine ⟨trivial, fun answer => ?_⟩
      rcases answer with error | _
      · exact told.put separate none
      · exact (told.put separate (some text)).same rfl rfl (Nat.le_refl _)
  | worker request =>
    cases request with
    | startJob | pollJob | readTranscript => exact ⟨trivial, fun _ => told⟩
    | sendMessage on text =>
      have many : 2 ≤ s.posts := told.posts
      refine ⟨⟨output, told.shows.built, fun none => ?_, fun one => ?_⟩, fun _ => ?_⟩
      · omega
      · omega
      · exact told.same rfl rfl (Nat.le_succ _)
    | _ => exact h.elim
  | _ => exact h.elim

theorem rounds_told (separate : run.workspace.Separate real) {session : Session} {iteration : UInt32}
    {left : Nat} {history : History Call Answer} {result : Except Failure (Option Outcome)}
    (rounds : Rounds run session iteration left
      (Request.remediation (run.reported output) run.registry).body history result)
    (shows : Shows run real output s)
    (atMain : s.files (real run.workspace.mainFile) = some main) (posts : s.posts = 1) :
    (viewer run real).Accepts s history ∧
      Told run real output main ((viewer run real).after s history) := by
  obtain ⟨posted, rest, rfl⟩ := rounds.begins
  have permitted : (viewer run real).permits s (.worker (.sendMessage session
      (Request.remediation (run.reported output) run.registry).body)) := by
    refine ⟨output, shows.built, fun none => ?_, fun _ => rfl⟩
    rw [posts] at none
    cases none
  have told : Told run real output main ((viewer run real).note s (.worker (.sendMessage session
      (Request.remediation (run.reported output) run.registry).body)) posted) := by
    refine ⟨shows.same rfl rfl, atMain, ?_⟩
    show 2 ≤ s.posts + 1
    omega
  -- the request itself is the second message; from there on `Told` carries the walk
  obtain ⟨-, converse⟩ := List.forall_mem_cons.mp rounds.conversing
  obtain ⟨accepted, ends⟩ := Monitor.accepts_of_kept (Told run real output main) converse told
    fun s call talks told => told_converses separate talks told
  exact ⟨⟨permitted, accepted⟩, ends⟩

/-- A request whose answer was applied leaves the target file with a known text. -/
theorem exchanged_target {session : Session} {text : String} {history : History Call Answer}
    (exchanges : Exchanged run session text history) (compiled : Answer .compile) :
    ∃ target, ((viewer run real).after s (history ++ [⟨.compile, compiled⟩])).files
      (real run.workspace.targetFile) = some target := by
  obtain @⟨message, job, polls, transcript, contract, -, -, -⟩ := exchanges
  refine ⟨contract.updatedContent, ?_⟩
  -- the write and the build are the last two events, and no other write follows
  have front : ⟨.worker (.sendMessage session text), .ok message⟩ ::
      ⟨.worker (.startJob session), .ok job⟩ ::
        (polls ++ [⟨.worker (.readTranscript session), .ok transcript⟩,
          ⟨.disk (.write run.workspace.targetFile contract.updatedContent), .ok ()⟩]) ++
        [⟨.compile, compiled⟩] =
      (⟨.worker (.sendMessage session text), .ok message⟩ ::
        ⟨.worker (.startJob session), .ok job⟩ ::
          (polls ++ [⟨.worker (.readTranscript session), .ok transcript⟩]) : History Call Answer) ++
        [⟨.disk (.write run.workspace.targetFile contract.updatedContent), .ok ()⟩,
          ⟨.compile, compiled⟩] := by simp
  rw [front, Monitor.after_append]
  generalize (viewer run real).after s _ = before
  cases compiled <;> exact if_pos rfl

/-- Rounds that do not fail leave the target file with a known text. -/
theorem rounds_target {session : Session} {iteration : UInt32} {left : Nat} {text : String}
    {history : History Call Answer} {result : Except Failure (Option Outcome)}
    (rounds : Rounds run session iteration left text history result) (well : result.isOk = true) :
    ∃ target, ((viewer run real).after s history).files (real run.workspace.targetFile) =
      some target := by
  induction rounds generalizing s with
  | thwarted | uncompiled => cases well
  | mended exchanges | exhausted exchanges => exact exchanged_target exchanges _
  -- a further round follows, and what it leaves is what counts
  | again exchanges _ _ ih =>
    rw [← List.singleton_append, ← List.append_assoc, Monitor.after_append]
    exact ih well

theorem reads_accepted {history : History Call Answer}
    (reads : ∀ event ∈ history, Reads run.workspace event.1) :
    (viewer run real).Accepts s history := by
  refine (Monitor.accepts_of_kept (fun _ => True) reads trivial ?_).1
  rintro s call (rfl | rfl) -
  · exact ⟨trivial, fun _ => trivial⟩
  · exact ⟨trivial, fun _ => trivial⟩

/-- The context is what was uploaded when the sources were read as they are. -/
theorem context_accepted {session : Session} {read found : String}
    {posted : Answer (.worker (.sendMessage session
      (Request.context read found (Violation.log (run.reported output))).body))}
    (provided : Primed run real output main target s)
    (uploaded : s.uploaded = holdings real s run.workspace.artifacts) :
    (viewer run real).Accepts s [⟨.disk (.readText run.workspace.mainFile), .ok read⟩,
      ⟨.disk (.readText run.workspace.targetFile), .ok found⟩,
      ⟨.worker (.sendMessage session
        (Request.context read found (Violation.log (run.reported output))).body), posted⟩] := by
  obtain ⟨shows, -, atMain, atTarget, posts⟩ := provided
  refine ⟨trivial, trivial, ⟨output, shows.built, fun _ honest => ?_, fun one => ?_⟩, trivial⟩
  · have honest : ((s.honest && (s.files (real run.workspace.mainFile)).all (· == read)) &&
        (s.files (real run.workspace.targetFile)).all (· == found)) = true := honest
    -- an honest disk gave back the texts that the files are known to hold
    simp only [atMain, atTarget, Option.all_some, Bool.and_eq_true, beq_iff_eq] at honest
    obtain ⟨⟨-, rfl⟩, rfl⟩ := honest
    refine ⟨main, target, rfl, ?_⟩
    show s.uploaded = _
    rw [uploaded]
    simp [holdings, Workspace.artifacts, atMain, atTarget, shows.log]
  · have one : s.posts = 1 := one
    omega

/-- Between two passes, and at the end of a run that does not fail, the texts of the sources are
known and the logs are about the latest build. -/
structure Sound (run : Run) (real : Path → Path) (view : View) : Prop where
  main : ∃ main, view.files (real run.workspace.mainFile) = some main
  target : ∃ target, view.files (real run.workspace.targetFile) = some target
  shows : ∀ output, view.built = some output → Shows run real output view

/-- After a talk that left the target file known, the next pass finds what it needs. -/
theorem Told.sound (told : Told run real output main s)
    (known : ∃ target, s.files (real run.workspace.targetFile) = some target) :
    Sound run real s := by
  refine ⟨⟨main, told.main⟩, known, fun other built => ?_⟩
  obtain rfl := Option.some.inj (told.shows.built.symm.trans built)
  exact told.shows

/-- The talk keeps to the monitor. When it does not fail, the sources are known at its end. -/
theorem talk_views (separate : run.workspace.Separate real) {session : Session} {iteration : UInt32}
    {talk : History Call Answer} {result : Except Failure (Option Outcome)}
    (talks : Talk run session iteration (run.reported output) talk result)
    (primed : Primed run real output main target s)
    (uploaded : s.uploaded = holdings real s run.workspace.artifacts) :
    (viewer run real).Accepts s talk ∧
      (result.isOk = true → Sound run real ((viewer run real).after s talk)) := by
  cases talks with
  | unread reads => exact ⟨reads_accepted reads, nofun⟩
  | unposted => exact ⟨context_accepted primed uploaded, nofun⟩
  | @held read found message later _ rounds =>
    -- the three events of the context come first, and then the rounds
    let context : History Call Answer := [⟨.disk (.readText run.workspace.mainFile), .ok read⟩,
      ⟨.disk (.readText run.workspace.targetFile), .ok found⟩,
      ⟨.worker (.sendMessage session
        (Request.context read found (Violation.log (run.reported output))).body), .ok message⟩]
    have first : (viewer run real).Accepts s context := context_accepted primed uploaded
    obtain ⟨shows, -, atMain, -, posts⟩ := primed
    have shown : Shows run real output ((viewer run real).after s context) := shows.same rfl rfl
    have one : ((viewer run real).after s context).posts = 1 := by
      show s.posts + 1 = 1
      rw [posts]
    obtain ⟨accepted, told⟩ := rounds_told separate rounds shown atMain one
    show (viewer run real).Accepts s (context ++ later) ∧
      (_ → Sound run real ((viewer run real).after s (context ++ later)))
    rw [Monitor.after_append]
    exact ⟨Monitor.accepts_append.mpr ⟨first, accepted⟩,
      fun well => told.sound (rounds_target rounds well)⟩

/-! ## Iterations

An iteration is a backup, a setup, a talk and a teardown, one after the other. Each of them was
walked through on its own above, and here the four are put together in the order of
`iterate_parts`. -/

theorem only_teardown (session : Session) :
    Only (· = Call.worker (.teardownSession session)) (Conversation.closeSession session) := by
  unfold Conversation.closeSession
  split
  · trivial
  · exact ensures_discard.mpr ⟨rfl, fun _ => trivial⟩

theorem closing_views {session : Session} {closing : History Call Answer}
    (closes : Yields (Conversation.closeSession session) closing ()) :
    (viewer run real).Accepts s closing ∧ (viewer run real).after s closing = s := by
  have leaves : (viewer run real).Ensures (Conversation.closeSession session) s fun _ after =>
      after = s := by
    refine Monitor.ensures_of_only (only_teardown session) ?_ fun _ => rfl
    rintro _ rfl
    exact ⟨trivial, fun _ => rfl⟩
  exact leaves.sound closes

/-- An iteration for which everything is ready keeps to the monitor, and hands on what the next
pass needs when it does not fail. -/
theorem iterate_views (separate : run.workspace.Separate real) {iteration : UInt32}
    {history : History Call Answer} {result : Except Failure (Option Outcome)}
    (yields : Yields (run.iterate iteration (run.reported output)).run history result)
    (primed : Primed run real output main target s) :
    (viewer run real).Accepts s history ∧
      (result.isOk = true → Sound run real ((viewer run real).after s history)) := by
  obtain ⟨now, archiving, archived, work, rfl, archives, parts⟩ := iterate_parts yields
  obtain ⟨saves, saved⟩ := (primed_createBackup separate primed).sound archives
  rw [Monitor.after_cons, Monitor.after_append]
  suffices goes : (viewer run real).Accepts ((viewer run real).after s archiving) work ∧
      (result.isOk = true →
        Sound run real ((viewer run real).after ((viewer run real).after s archiving) work)) from
    ⟨⟨trivial, Monitor.accepts_append.mpr ⟨saves, goes.1⟩⟩, goes.2⟩
  generalize (viewer run real).after s archiving = s at saved ⊢
  rcases archived with failure | backup
  · obtain ⟨rfl, rfl⟩ := parts
    exact ⟨trivial, nofun⟩
  -- stopped behind the backup, or a session was to be opened
  obtain ⟨rfl, rfl⟩ | ⟨opening, rest, opened, rfl, opens, parts⟩ := parts
  · exact ⟨trivial, nofun⟩
  obtain ⟨shown, provided⟩ := (openWithin_provided run.conversation run.instructions
    run.workspace.artifacts run.conversation.sessionRetries.toNat saved).sound opens
  rcases opened with failure | session
  · obtain ⟨rfl, rfl⟩ := parts
    rw [List.append_nil]
    exact ⟨shown, nofun⟩
  obtain ⟨within, closing, rfl, works, closes⟩ := parts
  obtain ⟨talked, ends⟩ := talk_views separate (remediate_talk works) provided.1 (provided.2 rfl)
  obtain ⟨closed, same⟩ := closing_views closes
  rw [Monitor.after_append, Monitor.after_append, same]
  exact ⟨Monitor.accepts_append.mpr ⟨shown, Monitor.accepts_append.mpr ⟨talked, closed⟩⟩, ends⟩

/-! ## Passes

`Sound` holds between two passes. An inspection turns it into `Primed`, and an iteration that does
not fail turns that into `Sound` again. The rest is an induction on the passes of a run. -/

/-- An inspection makes no call that the monitor would object to. -/
theorem inspects_accepted {history : History Call Answer} {found : Except Failure Finding}
    (yields : Yields run.inspect.run history found) : (viewer run real).Accepts s history := by
  have walk : (viewer run real).Ensures run.inspect.run s fun _ _ => True := by
    refine Monitor.ensures_of_kept (fun _ => True) (only_inspect run) trivial ?_ fun _ _ => id
    rintro s call (rfl | rfl | rfl | rfl | ⟨text, rfl | rfl⟩ | ⟨text, now, rfl | rfl | rfl⟩) - <;>
      exact ⟨trivial, fun _ => trivial⟩
  exact (walk.sound yields).1

/-- Once an inspection wrote the logs of its build, everything is ready for a session. -/
theorem inspection_primed (separate : run.workspace.Separate real) (clean : String)
    (output : Toolchain.BuildOutput) (now : Instant)
    (atMain : s.files (real run.workspace.mainFile) = some main)
    (atTarget : s.files (real run.workspace.targetFile) = some target) :
    Primed run real output main target ((viewer run real).after s (run.inspection clean output now)) := by
  obtain ⟨⟨logBuild, logMain, logTarget⟩, ⟨buildMain, buildTarget⟩, -⟩ := separate.pairs
  have apart := separate.snapshot now
  simp only [Workspace.kept, List.forall_mem_cons] at apart
  obtain ⟨logCopy, buildCopy, mainCopy, targetCopy, -⟩ := apart
  let log := Violation.log (run.reported output)
  -- three files are written, and each of the kept ones is at most one of them
  have files : ((viewer run real).after s (run.inspection clean output now)).files =
      (((s.put (real run.workspace.buildLog) (some output.rawLog)).put
        (real run.workspace.violationLog) (some log)).put
          (real (run.workspace.violationSnapshot now)) (some log)).files := rfl
  refine ⟨⟨rfl, ?_, ?_⟩, ⟨now, ?_⟩, ?_, ?_, rfl⟩
  · rw [files, View.put_of_ne logCopy]
    exact if_pos rfl
  · rw [files, View.put_of_ne buildCopy, View.put_of_ne logBuild.symm]
    exact if_pos rfl
  · exact List.mem_cons_of_mem _ (List.mem_cons_of_mem _ List.mem_cons_self)
  · rw [files, View.put_of_ne mainCopy, View.put_of_ne logMain.symm, View.put_of_ne buildMain.symm]
    exact atMain
  · rw [files, View.put_of_ne targetCopy, View.put_of_ne logTarget.symm,
      View.put_of_ne buildTarget.symm]
    exact atTarget

/-- What is ready for a session is enough for the next pass as well. -/
theorem Primed.sound (primed : Primed run real output main target s) : Sound run real s := by
  refine ⟨⟨main, primed.main⟩, ⟨target, primed.target⟩, fun other built => ?_⟩
  obtain rfl := Option.some.inj (primed.shows.built.symm.trans built)
  exact primed.shows

/-- An inspection that finds what the build reported leaves its logs. -/
theorem inspected_primed (separate : run.workspace.Separate real) (sound : Sound run real s)
    {inspected : History Call Answer} {violations : List Violation}
    (inspects : Yields run.inspect.run inspected (.ok (.built violations))) :
    ∃ output main target, violations = run.reported output ∧
      Primed run real output main target ((viewer run real).after s inspected) := by
  obtain ⟨clean, output, now, -, reports, rfl⟩ := inspect_surveyed inspects
  obtain ⟨main, atMain⟩ := sound.main
  obtain ⟨target, atTarget⟩ := sound.target
  exact ⟨output, main, target, reports,
    inspection_primed separate clean output now atMain atTarget⟩

/-- What holds when a run ends with this result. -/
structure Concluded (run : Run) (real : Path → Path) (result : Except Failure Outcome)
    (view : View) : Prop where
  sound : result.isOk = true → Sound run real view
  /-- A run that converged leaves an empty violation log. -/
  converged : ∀ iterations, result = .ok (.converged iterations) →
    ∃ output, view.built = some output ∧ run.reported output = [] ∧
      view.files (real run.workspace.violationLog) = some ""

variable {progress : Progress} {left : Nat} {pass : History Call Answer}
  {result : Except Failure Outcome}

/-- A pass that mends the sources keeps to the monitor and hands `Sound` on. -/
theorem mending_views (separate : run.workspace.Separate real) (sound : Sound run real s)
    (mends : Mending run progress pass) :
    (viewer run real).Accepts s pass ∧ Sound run real ((viewer run real).after s pass) := by
  obtain ⟨inspects, iterates⟩ := mends
  obtain ⟨output, main, target, reports, primed⟩ := inspected_primed separate sound inspects
  rw [reports] at iterates
  obtain ⟨accepted, ends⟩ := iterate_views separate iterates primed
  rw [Monitor.after_cons, Monitor.after_append]
  exact ⟨⟨trivial, Monitor.accepts_append.mpr ⟨inspects_accepted inspects, accepted⟩⟩, ends rfl⟩

/-- The last pass keeps to the monitor, whichever way it ends. -/
theorem ending_views (separate : run.workspace.Separate real) (sound : Sound run real s)
    (ends : Ending run progress left pass result) :
    (viewer run real).Accepts s pass ∧ Concluded run real result ((viewer run real).after s pass) := by
  -- one case for each way in which a run can end; only a converged one has to clear its log
  cases ends with
  | stopped => exact ⟨⟨trivial, trivial⟩, fun _ => sound, nofun⟩
  | uncounted => exact ⟨⟨trivial, trivial⟩, nofun, nofun⟩
  | failed inspects => exact ⟨⟨trivial, inspects_accepted inspects⟩, nofun, nofun⟩
  | broken inspects =>
    have single := inspect_surveyed inspects
    refine ⟨⟨trivial, inspects_accepted inspects⟩, fun _ => ?_, nofun⟩
    rw [single]
    exact sound
  | converged inspects =>
    obtain ⟨output, main, target, reports, primed⟩ := inspected_primed separate sound inspects
    refine ⟨⟨trivial, inspects_accepted inspects⟩, fun _ => primed.sound, fun _ _ => ?_⟩
    refine ⟨output, primed.shows.built, reports.symm, ?_⟩
    have log := primed.shows.log
    rw [← reports, Violation.log_nil] at log
    exact log
  | spent inspects =>
    obtain ⟨output, main, target, -, primed⟩ := inspected_primed separate sound inspects
    exact ⟨⟨trivial, inspects_accepted inspects⟩, fun _ => primed.sound, nofun⟩
  | @iterated _ inspected iterated _ _ outcome _ inspects iterates last =>
    obtain ⟨output, main, target, reports, primed⟩ := inspected_primed separate sound inspects
    rw [reports] at iterates
    obtain ⟨accepted, sound⟩ := iterate_views separate iterates primed
    rw [Monitor.after_cons, Monitor.after_append]
    refine ⟨⟨trivial, Monitor.accepts_append.mpr ⟨inspects_accepted inspects, accepted⟩⟩, ?_, ?_⟩
    · intro well
      rcases outcome with failure | _ | outcome
      · rw [show result = .error failure from last] at well
        cases well
      · exact last.elim
      · exact sound rfl
    · rintro iterations rfl
      obtain ⟨failure, gives⟩ | ⟨diagnostics, gives⟩ := ends_of_iterated iterates last
      · cases gives
      · cases gives

/-- The passes of a run keep to the monitor, and its end is as promised. -/
theorem passing_views (separate : run.workspace.Separate real) {passes : List (History Call Answer)}
    (sound : Sound run real s) (passing : Passing run progress left passes result) :
    (viewer run real).Accepts s passes.flatten ∧
      Concluded run real result ((viewer run real).after s passes.flatten) := by
  -- the induction is on the passes; each that mends the sources hands `Sound` on to the next
  induction passing generalizing s with
  | last ends =>
    rw [List.flatten_singleton]
    exact ending_views separate sound ends
  | further mends _ ih =>
    obtain ⟨accepted, sound⟩ := mending_views separate sound mends
    obtain ⟨later, settled⟩ := ih sound
    rw [List.flatten_cons, Monitor.after_append]
    exact ⟨Monitor.accepts_append.mpr ⟨accepted, later⟩, settled⟩

/-! ## Whole runs

The monitor is read back into what holds of a history: its permissions become statements about the
part of the history before an upload or a message. -/

/-- What a run tells of the violations, when the files held these texts before it. -/
structure OneView (run : Run) (real : Path → Path) (initial : Path → String)
    (history : History Call Answer) (result : Except Failure Outcome) : Prop where
  /-- Whenever something is uploaded, the logs are about the latest build, and a copy of its
  violation log was written. -/
  uploads : ∀ before after artifact answer,
    history = before ++ ⟨.worker (.uploadArtifact artifact), answer⟩ :: after →
      ∃ output, Shows run real output (view real initial before) ∧
        Copied run output (view real initial before)
  /-- The first message after a build is its context, which holds what was uploaded, provided that
  the sources are read as they are. -/
  context : ∀ before after session text answer,
    history = before ++ ⟨.worker (.sendMessage session text), answer⟩ :: after →
      (view real initial before).posts = 0 → (view real initial before).honest = true →
        ∃ output, (view real initial before).built = some output ∧
          IsContext run output (view real initial before) text
  /-- The second one asks for a remedy of the violations that the build reported. -/
  remedy : ∀ before after session text answer,
    history = before ++ ⟨.worker (.sendMessage session text), answer⟩ :: after →
      (view real initial before).posts = 1 →
        ∃ output, (view real initial before).built = some output ∧
          text = (Request.remediation (run.reported output) run.registry).body
  /-- A run that does not fail leaves the logs of its latest build. -/
  ends : ∀ outcome, result = .ok outcome → ∀ output,
    (view real initial history).built = some output →
      Shows run real output (view real initial history)
  /-- A run that converged leaves an empty violation log. -/
  converged : ∀ iterations, result = .ok (.converged iterations) →
    ∃ output, (view real initial history).built = some output ∧ run.reported output = [] ∧
      (view real initial history).files (real run.workspace.violationLog) = some ""

/-- The checks before the first pass leave the view as it is. -/
theorem checks_views {checks : History Call Answer}
    (checked : ∀ event ∈ checks, Checks run.workspace event.1) :
    (viewer run real).Accepts s checks ∧ (viewer run real).after s checks = s := by
  refine Monitor.accepts_of_kept (· = s) checked rfl ?_
  rintro _ call (rfl | rfl | rfl | rfl) rfl <;> exact ⟨trivial, fun _ => rfl⟩

/-- Before the run every file is known, and there is no build yet. -/
theorem sound_start (initial : Path → String) : Sound run real (.start initial) :=
  ⟨⟨_, rfl⟩, ⟨_, rfl⟩, nofun⟩

/-- A run keeps to the monitor from its first call on. -/
theorem start_views (separate : run.workspace.Separate real) (initial : Path → String)
    {history : History Call Answer} (yields : Yields run.start.run history result) :
    (viewer run real).Accepts (.start initial) history ∧
      Concluded run real result (view real initial history) := by
  obtain ⟨checked, passes⟩ := start_passing yields
  have kept : (viewer run real).Accepts (.start initial) (prelude history) ∧
      (viewer run real).after (.start initial) (prelude history) = .start initial :=
    checks_views checked
  obtain ⟨begun, same⟩ := kept
  show _ ∧ Concluded run real result ((viewer run real).after (.start initial) history)
  rw [← prelude_append_sections history, Monitor.accepts_append, Monitor.after_append, same]
  obtain ⟨none, failure, rfl⟩ | passing := passes
  · rw [none]
    exact ⟨⟨begun, trivial⟩, nofun, nofun⟩
  · obtain ⟨accepted, concluded⟩ := passing_views separate (sound_start initial) passing
    exact ⟨⟨begun, accepted⟩, concluded⟩

/-- **One view of the violations.** In every run whose files are separate, whatever the world
answers: what is uploaded, what the messages say and what stays on the disk all tell the violations
of the latest build. -/
theorem one_view (run : Run) (real : Path → Path) (initial : Path → String)
    (separate : run.workspace.Separate real) {history : History Call Answer}
    {result : Except Failure Outcome} (yields : Yields run.start.run history result) :
    OneView run real initial history result := by
  obtain ⟨accepted, sound, converged⟩ := start_views separate initial yields
  refine ⟨?_, ?_, ?_, ?_, converged⟩
  · rintro before after artifact answer rfl
    exact accepted.permits
  · rintro before after session text answer rfl first honest
    obtain ⟨output, built, context, -⟩ := accepted.permits
    exact ⟨output, built, context first honest⟩
  · rintro before after session text answer rfl second
    obtain ⟨output, built, -, remedy⟩ := accepted.permits
    exact ⟨output, built, remedy second⟩
  · rintro outcome rfl
    exact (sound rfl).shows

/-! ## A run whose sources are read as they are

A run that meets the condition of separate files, in a world whose disk gives back what was
written. Paths are compared as texts here: a copy of the log and an archive have beginnings that
no kept file has. -/

theorem toList_join {base : Path} {name : String} (named : base.text.isEmpty = false)
    (open' : base.text.toList.getLast? ≠ some '/') (relative : name.toList.head? ≠ some '/') :
    (base / name).text.toList = base.text.toList ++ '/' :: name.toList := by
  have inside : (⟨name⟩ : Path).isAbsolute = false := by simpa [Path.isAbsolute] using relative
  show (base.join ⟨name⟩).text.toList = _
  unfold Path.join
  rw [inside, named, Bool.or_self, if_neg Bool.false_ne_true, if_neg (by simpa using open')]
  simp [String.toList_append]

/-- The name of a copy of the violation log goes on where the name of the log ends. -/
theorem take_violationSnapshot (now : Instant) :
    (plainRun.workspace.violationSnapshot now).text.toList.take 15 = "log/azc-errors-".toList := by
  have relative : ("azc-errors-" ++ now.stamp ++ ".txt").toList.head? ≠ some '/' := by
    simp [String.toList_append]
  have text : (plainRun.workspace.violationSnapshot now).text.toList =
      "log".toList ++ '/' :: ("azc-errors-" ++ now.stamp ++ ".txt").toList :=
    toList_join rfl (by decide) relative
  rw [text]
  simp [String.toList_append]

/-- An archive is kept in a folder of its own. -/
theorem head?_backupFile (iteration : UInt32) (now : Instant) :
    (plainRun.workspace.backupFile iteration now).text.toList.head? = some 'b' :=
  head?_join rfl (by simp [String.toList_append])

theorem separate_plainRun : plainRun.workspace.Separate id := by
  have copies : ∀ path ∈ plainRun.workspace.kept,
      path.text.toList.take 15 ≠ "log/azc-errors-".toList := by decide +kernel
  have backups : ∀ path ∈ plainRun.workspace.kept, path.text.toList.head? ≠ some 'b' := by
    decide +kernel
  refine ⟨by decide +kernel, fun now path kept same => ?_, fun iteration now path kept same => ?_⟩
  · have same : path = plainRun.workspace.violationSnapshot now := same
    apply copies path kept
    rw [same, take_violationSnapshot]
  · have same : path = plainRun.workspace.backupFile iteration now := same
    apply backups path kept
    rw [same, head?_backupFile]

/-- A world in which a file holds what was written to it, and the fix of the worker removes the
violation. -/
def attentive (past : History Call Answer) : (call : Call) → Answer call
  | .disk (.readText path) => .ok (((view id (fun _ => "") past).files path).getD "")
  | .build =>
    if (view id (fun _ => "") past).posts = 0 then .ok ⟨"AZC0012: Model", false⟩ else .ok ⟨"", true⟩
  | call => unmoved call

/-- That run converges, and its violation log is empty at the end. -/
theorem one_view_attentive :
    let history := (plainRun.start.run.replay attentive []).1
    let result := (plainRun.start.run.replay attentive []).2
    OneView plainRun id (fun _ => "") history result ∧
      (view id (fun _ => "") history).honest = true ∧
      result.toOption = some (.converged 1) ∧
      (view id (fun _ => "") history).uploaded = [(⟨"src/main.tsp"⟩, some ""),
        (⟨"src/client.tsp"⟩, some ""), (⟨"log/azc-errors.txt"⟩, some "AZC0012: Model\n")] := by
  intro history result
  have one := one_view plainRun id (fun _ => "") separate_plainRun
    (Procedure.yields_replay attentive plainRun.start.run)
  exact ⟨one, by decide +kernel, by decide +kernel, by decide +kernel⟩

end Run

end AzcRepair
