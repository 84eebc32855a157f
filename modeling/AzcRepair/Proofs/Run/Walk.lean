import AzcRepair.Proofs.Procedure.Monitor
import AzcRepair.Run

/-!
# Walking through the parts of a run

The rules by which a monitor walks through a part of a run that may fail: a failure ends the part,
and nothing after it is called. Work on the files of the workspace makes calls to the disk only.
-/

namespace AzcRepair.Run

open Monitor (Only)
open Worker (Session)

variable {σ α β : Type} {m : Monitor Call Answer σ} {s : σ}

/-! ## Parts that may fail

A part of a run returns a value or a failure, and a failure skips the rest. A monitor therefore
promises two things of every part: what holds when it goes on, and what holds when it fails here.
`Onward` is the pair of them, and the rules below say how the pair passes through each way to put
parts together. -/

/-- What is promised of the rest of a run when this part goes well; a failure is the end. -/
def Onward (next : α → σ → Prop) (failed : Failure → σ → Prop) : Except Failure α → σ → Prop
  | .ok value => next value
  | .error failure => failed failure

@[simp] theorem onward_ok {next : α → σ → Prop} {failed : Failure → σ → Prop} (value : α) :
    Onward next failed (.ok value) s ↔ next value s := Iff.rfl

/-- The failure that is reported. A panic is none: it breaks the program off, and no error is handed
to anyone. -/
def Failure.reported? : Failure → Option Failure
  | .panic _ => none
  | failure => some failure

@[simp] theorem Failure.reported?_worker (phase : Phase) (failure : Worker.Failure) :
    (Failure.worker phase failure).reported? = some (.worker phase failure) := rfl

@[simp] theorem Failure.reported?_contract (phase : Phase) (refusal : Contract.Refusal) :
    (Failure.contract phase refusal).reported? = some (.contract phase refusal) := rfl

theorem Failure.eq_of_reported? {failure reported : Failure}
    (reports : failure.reported? = some reported) : failure = reported := by
  cases failure with
  | panic cause => cases reports
  | toolchain | contract | worker | workspace => exact Option.some.inj reports

/-- The failure that a run or a part of it reports in the end. -/
def failure? : Except Failure α → Option Failure
  | .ok _ => none
  | .error failure => failure.reported?

/-- A part and what follows on it: the rest is walked from every state that the first part can end
in, unless it failed. -/
theorem ensures_run_bind {x : Attempt α} {next : α → Attempt β}
    {post : Except Failure β → σ → Prop} :
    m.Ensures (x >>= next).run s post ↔
      m.Ensures x.run s
        (Onward (fun value s => m.Ensures (next value).run s post)
          (fun failure => post (.error failure))) := by
  rw [ExceptT.run_bind, Monitor.ensures_bind]
  exact Monitor.ensures_congr fun value s => by cases value <;> rfl

theorem ensures_run_always {act : Act α} {post : Except Failure α → σ → Prop} :
    m.Ensures (always act).run s post ↔ m.Ensures act s fun value => post (.ok value) :=
  Monitor.ensures_map

/-- A call whose failure is wrapped and ends the run. -/
theorem ensures_run_orFail {ε : Type} {wrap : ε → Failure} {act : Act (Except ε α)}
    {post : Except Failure α → σ → Prop} :
    m.Ensures (orFail wrap act).run s post ↔
      m.Ensures act s fun outcome => post (outcome.mapError wrap) := by
  unfold orFail
  rw [ExceptT.run_mk, Monitor.ensures_bind]
  exact Monitor.ensures_congr fun value s => by cases value <;> rfl

/-- A part whose value is not used; its failure is still a failure. -/
theorem ensures_run_discard {x : Attempt α} {post : Except Failure Unit → σ → Prop} :
    m.Ensures (discard x).run s post ↔
      m.Ensures x.run s fun outcome => post (outcome.map fun _ => ()) := by
  change m.Ensures ((fun _ => ()) <$> x).run s post ↔ _
  rw [ExceptT.run_map, Monitor.ensures_map]

theorem ensures_discard {act : Act α} {post : Unit → σ → Prop} :
    m.Ensures (discard act) s post ↔ m.Ensures act s fun _ => post () :=
  Monitor.ensures_map

/-! ## Work on the files of the workspace

Actions on files are procedures of their own, over the calls to the disk alone, and a run embeds
them. The rules take the embedding apart again, so that an action is walked call by call like any
other part; a refusal of the disk is a failure of the workspace with the path in it. -/

/-- Embedding goes through the calls one by one, so it may be done before or after two procedures
are put together. -/
theorem embed_bind {C D : Type} {A : C → Type} {B : D → Type} {name : C → D}
    {back : (c : C) → B (name c) → A c} (p : Procedure C A α) (next : α → Procedure C A β) :
    (p >>= next).embed name back = p.embed name back >>= fun a => (next a).embed name back := by
  induction p with
  | done value => rfl
  | call c rest ih => simp only [Procedure.call_bind, Procedure.embed, ih]

/-- Work on files is a part of a run step by step. -/
theorem onDisk_bind (first : Workspace.Action α) (next : α → Workspace.Action β) :
    onDisk (first >>= next) = onDisk first >>= fun value => onDisk (next value) := by
  apply ExceptT.ext
  simp only [onDisk, orFail, ExceptT.run_mk, ExceptT.run_bind, embed_bind, Procedure.bind_assoc]
  congr 1
  funext outcome
  cases outcome <;> rfl

/-- The rule for parts that may fail, for actions on files. -/
theorem ensures_onDisk_bind {first : Workspace.Action α} {next : α → Workspace.Action β}
    {post : Except Failure β → σ → Prop} :
    m.Ensures (onDisk (first >>= next)).run s post ↔
      m.Ensures (onDisk first).run s
        (Onward (fun value s => m.Ensures (onDisk (next value)).run s post)
          (fun failure => post (.error failure))) := by
  rw [onDisk_bind]
  exact ensures_run_bind

/-- How a refusal of the file system ends a part of a run. -/
def ofDisk (path : Path) : Except OsError α → Except Failure α
  | .ok value => .ok value
  | .error error => .error (.workspace ⟨path, error⟩)

/-- One call to the disk, with the path that its refusal is reported for. -/
theorem ensures_blame {path : Path} {request : Procedure Disk.Call Disk.Answer (Except OsError α)}
    {post : Except Failure α → σ → Prop} :
    m.Ensures (onDisk (Workspace.blame path request)).run s post ↔
      m.Ensures (request.embed Call.disk fun _ answer => answer) s fun answer =>
        post (ofDisk path answer) := by
  simp only [onDisk, Workspace.blame, ensures_run_orFail, ExceptT.run_mk, embed_bind,
    Monitor.ensures_bind]
  exact Monitor.ensures_congr fun value s => by cases value <;> rfl

theorem ensures_present (path : Path) {post : Except Failure Bool → σ → Prop} :
    m.Ensures (onDisk (Workspace.present path)).run s post ↔
      m.permits s (.disk (.present path)) ∧
        ∀ answer, post (.ok answer) (m.note s (.disk (.present path)) answer) := Iff.rfl

/-- The call goes to the disk. -/
def IsDisk (call : Call) : Prop :=
  ∃ request, call = .disk request

theorem only_embed (p : Procedure Disk.Call Disk.Answer α) :
    Only IsDisk (p.embed Call.disk fun _ answer => answer : Act α) := by
  induction p with
  | done value => trivial
  | call c next ih => exact ⟨⟨c, rfl⟩, ih⟩

theorem only_onDisk (action : Workspace.Action α) : Only IsDisk (onDisk action).run := by
  refine (only_embed action.run).bind fun outcome => ?_
  cases outcome <;> trivial

/-! ## Counters

Sums of counters are checked. A counter goes on by one unless it is at the greatest number of 32
bits, and then there is a panic; every rule below has a case for either. -/

/-- The two cases of a sum with one: it is a number of 32 bits and greater by one, or the counter
was the greatest of these numbers and the sum panics. -/
theorem Panic.add_one_cases (count : UInt32) :
    count.toNat + 1 < UInt32.size ∧ Panic.add count 1 = .ok (count + 1) ∧
        (count + 1).toNat = count.toNat + 1 ∨
      count.toNat + 1 = UInt32.size ∧ Panic.add count 1 = .error .addOverflow := by
  have one : (1 : UInt32).toNat = 1 := rfl
  have bound : count.toNat < UInt32.size := count.toNat_lt
  unfold Panic.add
  rw [one]
  split
  · next fits =>
    refine .inl ⟨fits, rfl, ?_⟩
    rw [UInt32.toNat_add, one]
    exact Nat.mod_eq_of_lt fits
  · next beyond => exact .inr ⟨by omega, rfl⟩

/-- The number of an iteration is counted before its pass begins. -/
theorem ensures_count {progress : Progress} {post : Except Failure UInt32 → σ → Prop}
    (counted : post (.ok progress.number) s)
    (uncounted : progress.index.toNat + 1 = UInt32.size → post (.error (.panic .addOverflow)) s) :
    m.Ensures (count progress).run s post := by
  refine ensures_run_orFail.mpr ?_
  rcases Panic.add_one_cases progress.index with ⟨-, sum, -⟩ | ⟨greatest, sum⟩
  · rw [sum]
    exact counted
  · rw [sum]
    exact uncounted greatest

end Run

namespace Conversation

variable {conversation : Conversation} {instructions : String} {artifacts : List Worker.Artifact}

/-- An opening makes one setup more than there are retries. Where 32 bits do not hold that number it
panics before it calls anything. -/
theorem openSession_cases (conversation : Conversation) (instructions : String)
    (artifacts : List Worker.Artifact) :
    conversation.sessionRetries.toNat + 1 < UInt32.size ∧
        conversation.openSession instructions artifacts =
          (conversation.openWithin instructions artifacts conversation.sessionRetries.toNat >>=
            fun opened => .done (.ok opened)) ∨
      conversation.sessionRetries.toNat + 1 = UInt32.size ∧
        conversation.openSession instructions artifacts = .done (.error .addOverflow) := by
  unfold openSession setups
  rcases Run.Panic.add_one_cases conversation.sessionRetries with ⟨fits, sum, number⟩ | ⟨all, sum⟩
  · refine .inl ⟨fits, ?_⟩
    rw [sum]
    dsimp only
    rw [number, Nat.add_sub_cancel, map_eq_pure_bind]
    rfl
  · refine .inr ⟨all, ?_⟩
    rw [sum]
    rfl

/-- To walk through an opening is to walk through its attempts, and to check the panic where there
are none. -/
theorem ensures_openSession {σ : Type} {m : Monitor Run.Call Run.Answer σ} {s : σ}
    {post : Except Run.Panic (Except Worker.Failure Worker.Session) → σ → Prop}
    (panicked : conversation.sessionRetries.toNat + 1 = UInt32.size →
      post (.error .addOverflow) s)
    (opens : m.Ensures
      (conversation.openWithin instructions artifacts conversation.sessionRetries.toNat) s
      fun opened => post (.ok opened)) :
    m.Ensures (conversation.openSession instructions artifacts) s post := by
  rcases openSession_cases conversation instructions artifacts with ⟨-, same⟩ | ⟨all, same⟩
  · rw [same, Monitor.ensures_bind]
    exact opens
  · rw [same]
    exact panicked all

end Conversation

namespace Run

open Worker (Session)

variable {σ : Type} {m : Monitor Call Answer σ} {s : σ}

/-! ## Inspections, iterations and passes

One rule for each larger part of a run. Each asks for what a monitor has to show at the calls of
the part and hides how the part is put together, so that the walks further on never unfold an
inspection, an iteration or a pass. The intermediate promises have names (`AfterBuild`,
`WithSession`, `OnViolations`), which are also the places where a walk of its own can be cut in
two. -/

/-- What is promised of the rest of an inspection once the build answered: the logs are kept. -/
def AfterBuild (m : Monitor Call Answer σ) (run : Run) (post : Except Failure Finding → σ → Prop)
    (output : Toolchain.BuildOutput) (s : σ) : Prop :=
  let violations := Violation.extract run.repeats output.rawLog
  m.Ensures (onDisk (run.workspace.persistBuildLog output.rawLog)).run s
    (Onward
      (fun _ s => m.permits s .clock ∧ ∀ now,
        m.Ensures (onDisk (run.workspace.persistViolations (Violation.log violations) now)).run
          (m.note s .clock now)
          (Onward (fun _ => post (.ok (.built violations))) (fun failure => post (.error failure))))
      (fun failure => post (.error failure)))

/-- An inspection compiles, and when that went well it prepares and builds. Here `clean` holds once
the sources compiled and `prepared` once the artifacts were prepared. -/
theorem ensures_inspect {run : Run} {post : Except Failure Finding → σ → Prop}
    (clean prepared : σ → Prop) (compile : m.permits s .compile)
    (uncompiled : ∀ failure,
      post (.error (.toolchain failure)) (m.note s .compile (.error failure)))
    (broken : ∀ diagnostics, Text.isBlankText diagnostics = false →
      post (.ok (.broken diagnostics)) (m.note s .compile (.ok diagnostics)))
    (compiled : ∀ diagnostics, Text.isBlankText diagnostics = true →
      clean (m.note s .compile (.ok diagnostics)))
    (prepare : ∀ s, clean s → m.permits s .prepareArtifacts ∧
      (∀ failure, post (.error (.toolchain failure)) (m.note s .prepareArtifacts (.error failure))) ∧
      prepared (m.note s .prepareArtifacts (.ok ())))
    (build : ∀ s, prepared s → m.permits s .build ∧
      (∀ failure, post (.error (.toolchain failure)) (m.note s .build (.error failure))) ∧
      ∀ output, AfterBuild m run post output (m.note s .build (.ok output))) :
    m.Ensures run.inspect.run s post := by
  refine ensures_run_bind.mpr (ensures_run_orFail.mpr ⟨compile, fun answer => ?_⟩)
  cases answer with
  | error failure => exact uncompiled failure
  | ok diagnostics =>
    -- only sources without diagnostics are built
    change m.Ensures (ite _ _ _ : Attempt Finding).run _ _
    cases blank : Text.isBlankText diagnostics with
    | false => exact broken diagnostics blank
    | true =>
      obtain ⟨permitted, unprepared, ready⟩ := prepare _ (compiled diagnostics blank)
      refine ensures_run_bind.mpr (ensures_run_orFail.mpr ⟨permitted, fun answer => ?_⟩)
      cases answer with
      | error failure => exact unprepared failure
      | ok _ =>
        obtain ⟨permitted, unbuilt, built⟩ := build _ ready
        refine ensures_run_bind.mpr (ensures_run_orFail.mpr ⟨permitted, fun answer => ?_⟩)
        cases answer with
        | error failure => exact unbuilt failure
        | ok output =>
          refine ensures_run_bind.mpr (ensures_run_discard.mpr ((built output).mono ?_))
          rintro (failure | logged) s promised
          · exact promised
          refine ensures_run_bind.mpr
            (ensures_run_always.mpr ⟨promised.1, fun now => ?_⟩)
          refine ensures_run_bind.mpr
            (ensures_run_discard.mpr (Monitor.Ensures.mono (promised.2 now) ?_))
          rintro (failure | logged) s promised <;> exact promised

/-- What is promised of the rest of an iteration once its session was asked for. -/
def WithSession (m : Monitor Call Answer σ) (run : Run) (iteration : UInt32)
    (violations : List Violation) (post : Except Failure (Option Outcome) → σ → Prop) :
    Except Worker.Failure Session → σ → Prop
  | .error failure, s => post (.error (.worker .sessionSetup failure)) s
  | .ok session, s =>
    m.Ensures (run.remediate session iteration violations).run s fun result s =>
      m.Ensures (Conversation.closeSession session) s fun _ => post result

/-- What is promised of the rest of an iteration once the sources are archived: its session is asked
for, unless counting the setups panics. -/
def AfterBackup (m : Monitor Call Answer σ) (run : Run) (iteration : UInt32)
    (violations : List Violation) (post : Except Failure (Option Outcome) → σ → Prop) (s : σ) :
    Prop :=
  (run.conversation.sessionRetries.toNat + 1 = UInt32.size →
    post (.error (.panic .addOverflow)) s) ∧
  m.Ensures (run.conversation.openWithin run.instructions run.workspace.artifacts
    run.conversation.sessionRetries.toNat) s (WithSession m run iteration violations post)

/-- An iteration archives the sources, opens a session, and closes it whatever came of the work. -/
theorem ensures_iterate {run : Run} {iteration : UInt32} {violations : List Violation}
    {post : Except Failure (Option Outcome) → σ → Prop} (clock : m.permits s .clock)
    (rest : ∀ now : Instant,
      m.Ensures (onDisk (run.workspace.createBackup iteration now)).run (m.note s .clock now)
        (Onward (fun _ => AfterBackup m run iteration violations post)
          (fun failure => post (.error failure)))) :
    m.Ensures (run.iterate iteration violations).run s post := by
  refine ensures_run_bind.mpr (ensures_run_always.mpr ⟨clock, fun now => ?_⟩)
  refine ensures_run_bind.mpr (ensures_run_discard.mpr ((rest now).mono ?_))
  rintro (failure | backup) s promised
  · exact promised
  obtain ⟨panicked, opens⟩ := promised
  refine ensures_run_bind.mpr (ensures_run_orFail.mpr
    (Conversation.ensures_openSession panicked (opens.mono ?_)))
  rintro (failure | session) s promised
  · exact promised
  refine ensures_run_bind.mpr (ensures_run_orFail.mpr (ensures_run_bind.mpr
    (ensures_run_always.mpr ?_)))
  refine Monitor.Ensures.mono promised fun result s closing => ?_
  -- whatever came of the work, the session is closed before the result is looked at
  refine ensures_run_bind.mpr (ensures_run_always.mpr ?_)
  refine Monitor.Ensures.mono closing fun _ s ends => ?_
  cases result <;> exact ends

/-- What is promised of the rest of a pass once it was inspected; `onward` goes on with the
violations that were found. -/
def AfterInspection (progress : Progress) (post : Except Failure Outcome → σ → Prop)
    (onward : List Violation → σ → Prop) : Except Failure Finding → σ → Prop
  | .error failure => post (.error failure)
  | .ok (.broken diagnostics) => post (.ok (.compileFailed diagnostics))
  | .ok (.built []) => post (.ok (.converged progress.index))
  | .ok (.built (violation :: more)) => onward (violation :: more)

/-- What is promised of the rest of a run once an iteration was made. -/
def AfterIteration (post : Except Failure Outcome → σ → Prop) (onward : σ → Prop) :
    Except Failure (Option Outcome) → σ → Prop
  | .error failure => post (.error failure)
  | .ok (some outcome) => post (.ok outcome)
  | .ok none => onward

/-- What is promised of the rest of a run when violations were found: an iteration, if one is left,
and the further passes. -/
def OnViolations (m : Monitor Call Answer σ) (run : Run) (progress : Progress)
    (post : Except Failure Outcome → σ → Prop) : Nat → List Violation → σ → Prop
  | 0, violations, s => post (.ok (.maxIterationsReached violations)) s
  | left + 1, violations, s =>
    m.Ensures (run.iterate progress.number violations).run s
      (AfterIteration post fun s => m.Ensures (run.passes progress.advance left).run s post)

/-- A pass asks the switch, inspects the sources, and goes on when there are violations. -/
theorem ensures_passes {run : Run} {progress : Progress} {left : Nat}
    {post : Except Failure Outcome → σ → Prop} (switch : m.permits s .cancelled)
    (stopped : post (.ok (.cancelled progress.index)) (m.note s .cancelled true))
    (uncounted : progress.index.toNat + 1 = UInt32.size →
      post (.error (.panic .addOverflow)) (m.note s .cancelled false))
    (inspected : m.Ensures run.inspect.run (m.note s .cancelled false)
      (AfterInspection progress post (OnViolations m run progress post left))) :
    m.Ensures (run.passes progress left).run s post := by
  -- without an iteration left the pass is the same up to the violations, and then it is the end
  cases left with
  | zero =>
    refine ensures_run_bind.mpr (ensures_run_always.mpr ⟨switch, fun stop => ?_⟩)
    cases stop with
    | true => exact stopped
    | false =>
      refine ensures_run_bind.mpr (ensures_run_discard.mpr (ensures_count ?_ uncounted))
      refine ensures_run_bind.mpr (inspected.mono ?_)
      rintro (failure | _ | _ | _) s promised <;> exact promised
  | succ left =>
    refine ensures_run_bind.mpr (ensures_run_always.mpr ⟨switch, fun stop => ?_⟩)
    cases stop with
    | true => exact stopped
    | false =>
      refine ensures_run_bind.mpr (ensures_count ?_ uncounted)
      refine ensures_run_bind.mpr (inspected.mono ?_)
      rintro (failure | _ | _ | _) s promised
      · exact promised
      · exact promised
      · exact promised
      · refine ensures_run_bind.mpr (Monitor.Ensures.mono promised ?_)
        rintro (failure | _ | outcome) s promised <;> exact promised

/-- A run checks its sources and the connection, purges if it should, and makes its passes. Here
`begun` holds once the sources were found and `ready` once the connection was. -/
theorem ensures_start {run : Run} {post : Except Failure Outcome → σ → Prop} (begun ready : σ → Prop)
    (sources : m.Ensures (onDisk run.workspace.ensureSources).run s
      (Onward (fun _ => begun) (fun failure => post (.error failure))))
    (check : ∀ s, begun s → m.permits s (.worker .checkConnection))
    (refused : ∀ s failure, begun s → post (.error (.worker .sessionSetup failure))
      (m.note s (.worker .checkConnection) (.error failure)))
    (connected : ∀ s, begun s → ready (m.note s (.worker .checkConnection) (.ok ())))
    (purge : ∀ s, ready s → m.permits s (.worker .purgeAll) ∧
      ∀ purged, ready (m.note s (.worker .purgeAll) purged))
    (passes : ∀ s, ready s →
      m.Ensures (run.passes (.start run.maxIterations) run.maxIterations.toNat).run s post) :
    m.Ensures run.start.run s post := by
  refine ensures_run_bind.mpr (sources.mono ?_)
  rintro (failure | _) s promised
  · exact promised
  refine ensures_run_bind.mpr (ensures_run_orFail.mpr ⟨check s promised, fun checked => ?_⟩)
  cases checked with
  | error failure => exact refused s failure promised
  | ok _ =>
    change m.Ensures (ite _ _ _ : Attempt Outcome).run _ _
    have found := connected s promised
    -- a run purges first if it is told to, and whatever comes of that it goes on
    split
    · obtain ⟨permitted, stillReady⟩ := purge _ found
      exact ensures_run_bind.mpr (ensures_run_always.mpr (ensures_discard.mpr
        ⟨permitted, fun purged => passes _ (stillReady purged)⟩))
    · exact passes _ found

/-! ## A world without trouble

A world is a function from calls to answers, and a run replayed in it has one history. This one is
the base of the worlds in which the theorems about runs are tried out: each of them changes an
answer or two of it. -/

/-- What a world answers in which every request succeeds, the sources compile, the build reports
nothing and the worker is silent. -/
def obliging : (call : Call) → Answer call
  | .compile => .ok ""
  | .prepareArtifacts => .ok ()
  | .build => .ok ⟨"", true⟩
  | .worker .checkConnection | .worker (.attachIndex ..) | .worker (.teardownSession _) => .ok ()
  | .worker (.createSession _) => .ok ⟨"thread", "agent", none, []⟩
  | .worker (.uploadArtifact _) => .ok "file"
  | .worker (.createIndex ..) => .ok "index"
  | .worker (.indexStatus _) | .worker (.pollJob ..) => .ok ⟨.completed, none⟩
  | .worker (.sendMessage ..) => .ok "message"
  | .worker (.startJob _) => .ok "job"
  | .worker (.readTranscript _) => .ok []
  | .worker .purgeAll => .ok 0
  | .disk (.present _) | .disk (.isFile _) | .disk (.isDirectory _) => true
  | .disk (.list _) => .ok []
  | .disk (.readText _) => .ok ""
  | .disk (.readBytes _) => .ok ByteArray.empty
  | .disk (.write ..) | .disk (.makeDirectories _) | .disk (.createNew _) | .disk (.archive ..)
  | .disk (.copy ..) => .ok ()
  | .clock => default
  | .freshSuffix => "00000000"
  | .pause _ => ()
  | .cancelled => false

/-- A run in a workspace of plain relative paths, with a budget of one iteration. -/
def plainRun : Run where
  workspace := ⟨⟨"src"⟩, ⟨"src/client.tsp"⟩, ⟨"src/main.tsp"⟩, ⟨"log"⟩, ⟨"backups"⟩⟩
  maxIterations := 1

end AzcRepair.Run
