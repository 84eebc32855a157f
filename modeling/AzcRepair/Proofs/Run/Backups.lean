import AzcRepair.Proofs.Run.Outcomes
import AzcRepair.Proofs.Run.Passes
import AzcRepair.Proofs.Run.Target

/-!
# The archive before the change

The archive of an iteration is all that the design offers for going back, so it has to be there
before the sources change. The statement is about each pass of a run, as `sections` cuts a history,
and about a tree of files in which the target file lies and the logs and archives do not.

* `Secured` — what a pass does about the archive: it makes no iteration and touches nothing, it
  fails to archive the sources and ends the run with that, or it archives them once and works after.
* `secured_iteration`, `secured_passes` — one iteration, and by induction all passes.
* `backup_before_change` — what holds of every run.
-/

namespace AzcRepair

open Monitor (Only)
open Procedure (Event History Yields)

namespace Run

open Worker (Session)

/-! ## What a call does to the tree and the worker

Three questions about a single call: does it make an archive, does it speak to the worker, which
file of the tree does it change. The kinds of calls that are known of the parts of a run answer
them. -/

/-- The call makes the file of an archive or fills it. -/
def Call.archives : Call → Bool
  | disk (.createNew _) | disk (.archive ..) => true
  | _ => false

/-- The call opens a session or sends a message. -/
def Call.engages : Call → Bool
  | worker (.createSession _) | worker (.sendMessage ..) => true
  | _ => false

/-- The call changes no file of the tree, opens no session and sends no message. -/
def Untouching (inTree : Path → Bool) (call : Call) : Prop :=
  call.engages = false ∧ ∀ path, call.changes? = some path → inTree path = false

/-- The call belongs to the work on the sources: it makes no archive and no directory for one, and
changes no file but the target file. -/
def Amends (workspace : Workspace) (call : Call) : Prop :=
  call.archives = false ∧ (∀ path, call ≠ .disk (.makeDirectories path)) ∧
    ∀ path, call.changes? = some path → ∃ text, call = .disk (.write workspace.targetFile text)

variable {run : Run} {inTree : Path → Bool}

theorem untouching_write {path : Path} {text : String} (elsewhere : inTree path = false) :
    Untouching inTree (.disk (.write path text)) := by
  refine ⟨rfl, fun changed same => ?_⟩
  cases same
  exact elsewhere

/-- The checks of a run neither archive nor touch anything. -/
theorem untouching_of_checks {workspace : Workspace} {call : Call} (h : Checks workspace call) :
    call.archives = false ∧ Untouching inTree call := by
  rcases h with rfl | rfl | rfl | rfl <;> exact ⟨rfl, rfl, nofun⟩

/-- An inspection writes its logs, and these lie outside the tree. -/
theorem untouching_of_inspects (apart : run.workspace.Apart inTree) {call : Call}
    (h : Inspects run.workspace call) : call.archives = false ∧ Untouching inTree call := by
  rcases h with rfl | rfl | rfl | rfl | ⟨text, rfl | rfl⟩ | ⟨text, now, rfl | rfl | rfl⟩
  · exact ⟨rfl, rfl, nofun⟩
  · exact ⟨rfl, rfl, nofun⟩
  · exact ⟨rfl, rfl, nofun⟩
  · exact ⟨rfl, rfl, nofun⟩
  · exact ⟨rfl, rfl, nofun⟩
  · exact ⟨rfl, untouching_write apart.buildLog⟩
  · exact ⟨rfl, rfl, nofun⟩
  · exact ⟨rfl, untouching_write apart.violationLog⟩
  · exact ⟨rfl, untouching_write (apart.violationSnapshot now)⟩

/-- To archive changes only the archive, which lies outside the tree as well. -/
theorem untouching_of_archives (apart : run.workspace.Apart inTree) {iteration : UInt32}
    {now : Instant} {call : Call} (h : Archives run.workspace iteration now call) :
    Untouching inTree call := by
  have elsewhere := apart.backupFile iteration now
  rcases h with rfl | rfl | rfl
  · exact ⟨rfl, nofun⟩
  · refine ⟨rfl, fun path same => ?_⟩
    cases same
    exact elsewhere
  · refine ⟨rfl, fun path same => ?_⟩
    cases same
    exact elsewhere

theorem amends_of_setsUp {workspace : Workspace} {call : Call} (h : SetsUp call) :
    Amends workspace call := by
  cases call with
  | compile | prepareArtifacts | build | disk | cancelled => exact h.elim
  | worker | clock | freshSuffix | pause => exact ⟨rfl, nofun, nofun⟩

/-- Work within a session writes the target file and nothing else. -/
theorem amends_of_worksOn {workspace : Workspace} {session : Session} {call : Call}
    (h : WorksOn workspace session call) : Amends workspace call := by
  rcases h with (rfl | rfl | ⟨text, rfl⟩) | rfl | ⟨ms, rfl⟩ | ⟨request, rfl, -⟩
  · exact ⟨rfl, nofun, nofun⟩
  · exact ⟨rfl, nofun, nofun⟩
  · exact ⟨rfl, nofun, fun _ _ => ⟨text, rfl⟩⟩
  · exact ⟨rfl, nofun, nofun⟩
  · exact ⟨rfl, nofun, nofun⟩
  · exact ⟨rfl, nofun, nofun⟩

/-! ## Archiving

That an archive was made says more than that a call was answered: it was filled, and from the
directory of the sources. -/

/-- An archive that was made was filled from the source directory. -/
theorem archive_mem_of_createBackup {workspace : Workspace} {iteration : UInt32} {now : Instant}
    {history : History Call Answer} {backup : Workspace.Backup}
    (yields : Yields (onDisk (workspace.createBackup iteration now)).run history (.ok backup)) :
    backup = ⟨workspace.backupFile iteration now, iteration, now⟩ ∧
      ⟨.disk (.archive (workspace.backupFile iteration now) workspace.sourceDir), .ok ()⟩ ∈
        history := by
  let Filled (result : Except Failure Workspace.Backup) (past : History Call Answer) : Prop :=
    ∀ backup, result = .ok backup →
      backup = ⟨workspace.backupFile iteration now, iteration, now⟩ ∧
        ⟨.disk (.archive (workspace.backupFile iteration now) workspace.sourceDir), .ok ()⟩ ∈ past
  have walk : Monitor.recording.Ensures (onDisk (workspace.createBackup iteration now)).run []
      Filled := by
    -- the directory, the file and its contents, and every refusal means that there is no archive
    refine ensures_onDisk_bind.mpr (ensures_blame.mpr ⟨trivial, fun made => ?_⟩)
    rcases made with error | _
    · exact nofun
    refine ensures_onDisk_bind.mpr (ensures_blame.mpr ⟨trivial, fun created => ?_⟩)
    rcases created with error | _
    · exact nofun
    refine ensures_onDisk_bind.mpr (ensures_blame.mpr ⟨trivial, fun filled => ?_⟩)
    rcases filled with error | _
    · exact nofun
    rintro _ ⟨⟩
    exact ⟨rfl, List.mem_append_right _ (List.mem_singleton_self _)⟩
  exact Monitor.ensures_recording.mp walk history _ yields backup rfl

/-! ## What a pass does about the archive

The rules for a pass are made for the reader of the statement: each says completely what was done
about the archive, the tree and the worker, and whether this pass can have another behind it. -/

/-- An iteration starts after this inspection: it found violations, and the budget allows the
iteration with this number. -/
structure Starts (run : Run) (number : Nat) (inspected : History Call Answer) (iteration : UInt32) :
    Prop where
  found : ∃ violation more, Yields run.inspect.run inspected (.ok (.built (violation :: more)))
  count : iteration.toNat = number
  budget : number ≤ run.maxIterations.toNat

/-- What the pass with this number does about the archive. In every pass the inspection makes no
archive and touches neither the tree nor the worker. -/
inductive Secured (run : Run) (inTree : Path → Bool) (number : Nat)
    (result : Except Failure Outcome) (last : Prop) : History Call Answer → Prop
  /-- The run was told to stop. -/
  | stopped (ends : last) : Secured run inTree number result last [⟨.cancelled, true⟩]
  /-- Broken off before the inspection, since 32 bits do not hold the number of the pass. -/
  | uncounted (beyond : number = UInt32.size) (ends : last)
    (panics : result = .error (.panic .addOverflow)) :
    Secured run inTree number result last [⟨.cancelled, false⟩]
  /-- No iteration starts: the inspection failed or found nothing, or the budget is spent. -/
  | idle {inspected : History Call Answer} {found : Except Failure Finding}
    (inspects : Yields run.inspect.run inspected found)
    (enough : ∀ violation more, found = .ok (.built (violation :: more)) →
      run.maxIterations.toNat < number)
    (untouched : ∀ event ∈ inspected, event.1.archives = false ∧ Untouching inTree event.1)
    (ends : last) :
    Secured run inTree number result last (⟨.cancelled, false⟩ :: inspected)
  /-- The sources could not be archived. Nothing else was done, and the run ends with that. -/
  | unsaved {inspected archiving : History Call Answer} {iteration : UInt32} {now : Instant}
    {refusal : Workspace.Failure} (starts : Starts run number inspected iteration)
    (archives : Yields (onDisk (run.workspace.createBackup iteration now)).run archiving
      (.error (.workspace refusal)))
    (once : ∀ event ∈ inspected, event.1.archives = false)
    (untouched : ∀ event ∈ inspected ++ archiving, Untouching inTree event.1)
    (ends : last) (fails : result = .error (.workspace refusal)) :
    Secured run inTree number result last
      (⟨.cancelled, false⟩ :: inspected ++ ⟨.clock, now⟩ :: archiving)
  /-- The sources were archived once, before the session of the iteration and as they were when the
  pass began; of the tree only the target file was written, and only after that. -/
  | saved {inspected archiving work : History Call Answer} {iteration : UInt32} {now : Instant}
    (starts : Starts run number inspected iteration)
    (archives : Yields (onDisk (run.workspace.createBackup iteration now)).run archiving
      (.ok ⟨run.workspace.backupFile iteration now, iteration, now⟩))
    (filled : ⟨.disk (.archive (run.workspace.backupFile iteration now) run.workspace.sourceDir),
      .ok ()⟩ ∈ archiving)
    (once : ∀ event ∈ inspected, event.1.archives = false)
    (untouched : ∀ event ∈ inspected ++ archiving, Untouching inTree event.1)
    (after : ∀ event ∈ work, Amends run.workspace event.1) :
    Secured run inTree number result last
      (⟨.cancelled, false⟩ :: inspected ++ ⟨.clock, now⟩ :: archiving ++ work)

/-! ## Iterations and passes

One iteration is taken apart by `iterate_parts` into what came before its archive, the archive and
what came after. The passes follow by induction, with the number of the pass going up while the
iterations that are left go down. -/

/-- Only the disk can refuse an archive. -/
theorem workspace_of_onDisk {α : Type} {action : Workspace.Action α} {history : History Call Answer}
    {failure : Failure} (yields : Yields (onDisk action).run history (.error failure)) :
    ∃ refusal, failure = .workspace refusal := by
  obtain ⟨_, _, outcome, -, -, ends⟩ := yields.of_bind
  rcases outcome with refusal | value
  · cases ends
    exact ⟨refusal, rfl⟩
  · cases ends

/-- What an iteration does after its archive changes no file but the target file. -/
theorem worked_of_archived {iteration : UInt32} {violations : List Violation}
    {work : History Call Answer} {result : Except Failure (Option Outcome)}
    {backup : Workspace.Backup}
    (parts : AfterArchiving run iteration violations work result (.ok backup)) :
    ∀ event ∈ work, Amends run.workspace event.1 := by
  obtain ⟨rfl, -⟩ | ⟨opening, rest, opened, rfl, opens, parts⟩ := parts
  · -- the number of setups is beyond 32 bits, and no work is done
    exact List.forall_mem_nil _
  have opened : ∀ event ∈ opening, Amends run.workspace event.1 := fun event mem =>
    amends_of_setsUp ((only_openWithin run.conversation _ _ _).of_mem opens event mem)
  refine List.forall_mem_append.mpr ⟨opened, ?_⟩
  split at parts
  · obtain ⟨rfl, -⟩ := parts
    exact List.forall_mem_nil _
  · next session =>
    obtain ⟨within, closing, rfl, works, closes⟩ := parts
    refine List.forall_mem_append.mpr ⟨fun event mem => ?_, fun event mem => ?_⟩
    · exact amends_of_worksOn ((only_remediate run session iteration violations).of_mem works
        event mem)
    · exact amends_of_setsUp ((only_closeSession session).of_mem closes event mem)

/-- A pass with an iteration archives the sources before anything else, or ends with the refusal. -/
theorem secured_iteration (apart : run.workspace.Apart inTree) {number : Nat}
    {iteration : UInt32} {violation : Violation} {more : List Violation}
    {inspected iterated : History Call Answer} {outcome : Except Failure (Option Outcome)}
    {result : Except Failure Outcome} {last : Prop}
    (inspects : Yields run.inspect.run inspected (.ok (.built (violation :: more))))
    (count : iteration.toNat = number) (budget : number ≤ run.maxIterations.toNat)
    (iterates : Yields (run.iterate iteration (violation :: more)).run iterated outcome)
    (fails : ∀ failure, outcome = .error failure → last ∧ result = .error failure) :
    Secured run inTree number result last (⟨.cancelled, false⟩ :: (inspected ++ iterated)) := by
  obtain ⟨now, archiving, archived, work, rfl, archives, parts⟩ := iterate_parts iterates
  have looks : ∀ event ∈ inspected, event.1.archives = false ∧ Untouching inTree event.1 :=
    fun event mem => untouching_of_inspects apart ((only_inspect run).of_mem inspects event mem)
  have saves : ∀ event ∈ archiving, Untouching inTree event.1 := fun event mem =>
    untouching_of_archives apart ((only_createBackup _ _ _).of_mem archives event mem)
  have untouched : ∀ event ∈ inspected ++ archiving, Untouching inTree event.1 :=
    List.forall_mem_append.mpr ⟨fun event mem => (looks event mem).2, saves⟩
  have once : ∀ event ∈ inspected, event.1.archives = false := fun event mem => (looks event mem).1
  have starts : Starts run number inspected iteration := ⟨⟨violation, more, inspects⟩, count, budget⟩
  -- without the archive the iteration is over, with it everything else is work
  rcases archived with failure | backup
  · obtain ⟨rfl, refused⟩ := parts
    obtain ⟨refusal, rfl⟩ := workspace_of_onDisk archives
    obtain ⟨ends, failed⟩ := fails _ refused
    rw [List.append_nil]
    exact .unsaved starts archives once untouched ends failed
  · obtain ⟨rfl, filled⟩ := archive_mem_of_createBackup archives
    have parted : Secured run inTree number result last _ :=
      .saved starts archives filled once untouched (worked_of_archived parts)
    simpa only [List.cons_append, List.append_assoc] using parted

/-- The passes from this number on are secured; only the last one may end the run. -/
def AllSecured (run : Run) (inTree : Path → Bool) (result : Except Failure Outcome) (number : Nat)
    (passes : List (History Call Answer)) : Prop :=
  ∀ k pass, passes[k]? = some pass →
    Secured run inTree (number + k) result (k + 1 = passes.length) pass

/-- A secured pass in front of secured passes; their numbers go up by one. -/
theorem allSecured_cons {result : Except Failure Outcome} {number : Nat}
    {pass : History Call Answer} {rest : List (History Call Answer)}
    (first : Secured run inTree number result (0 + 1 = (pass :: rest).length) pass)
    (later : AllSecured run inTree result (number + 1) rest) :
    AllSecured run inTree result number (pass :: rest) := by
  intro k other here
  cases k with
  | zero =>
    cases here
    exact first
  | succ k =>
    have there := later k other here
    have place : (k + 1 + 1 = (pass :: rest).length) = (k + 1 = rest.length) := by simp
    rw [place, ← Nat.add_assoc, Nat.add_right_comm]
    exact there

/-- Where there is no pass there is nothing to secure. -/
theorem allSecured_nil (result : Except Failure Outcome) (number : Nat) :
    AllSecured run inTree result number [] :=
  nofun

/-- Every pass is secured, and a pass that makes no iteration or fails in it is the last one. -/
theorem secured_passes (apart : run.workspace.Apart inTree) {progress : Progress} {left : Nat}
    {history : History Call Answer} {result : Except Failure Outcome}
    (budget : progress.index.toNat + left = run.maxIterations.toNat)
    (yields : Yields (run.passes progress left).run history result) :
    prelude history = [] ∧
      AllSecured run inTree result (progress.index.toNat + 1) (sections history) := by
  -- the induction is on the iterations that are left; only the last case has another pass
  induction left using Nat.strongRecOn generalizing progress history with
  | ind left ih =>
    obtain rfl | ⟨beyond, rfl, panics⟩ | ⟨inspected, found, rest, rfl, inspects, parts⟩ :=
      passes_parts yields
    · exact ⟨rfl, allSecured_cons (.stopped rfl) (allSecured_nil _ _)⟩
    · exact ⟨rfl, allSecured_cons (.uncounted beyond rfl panics) (allSecured_nil _ _)⟩
    have looks := (only_inspect run).of_mem inspects
    have stays : ∀ event ∈ inspected, event.1 ≠ .cancelled := fun event mem =>
      ne_cancelled_of_inspects (looks event mem)
    -- the number of an iteration that is left fits 32 bits
    have number (some : left ≠ 0) : progress.number.toNat = progress.index.toNat + 1 := by
      have small : run.maxIterations.toNat < 2 ^ 32 := run.maxIterations.toNat_lt
      rw [Progress.number, UInt32.toNat_add, UInt32.toNat_one]
      omega
    cases parts with
    | ends enough =>
      have further : prelude [] = [] := rfl
      obtain ⟨begins, cuts⟩ := cut_pass false stays further
      rw [List.append_nil] at begins cuts ⊢
      rw [begins, cuts]
      refine ⟨rfl, allSecured_cons (.idle inspects ?_ ?_ rfl) (allSecured_nil _ _)⟩
      · intro violation more reported
        have spent := enough violation more reported
        omega
      · exact fun event mem => untouching_of_inspects apart (looks event mem)
    | lastIteration iterates ends =>
      have within := (only_iterate run _ _).of_mem iterates
      have further : prelude [] = [] := rfl
      obtain ⟨begins, cuts⟩ := cut_pass false (List.forall_mem_append.mpr
        ⟨stays, fun event mem => ne_cancelled_of_iterates (within event mem)⟩) further
      rw [List.append_nil] at begins cuts
      rw [begins, cuts]
      refine ⟨rfl, allSecured_cons ?_ (allSecured_nil _ _)⟩
      refine secured_iteration apart inspects (number (Nat.succ_ne_zero _)) (by omega) iterates ?_
      rintro failure rfl
      exact ⟨rfl, ends⟩
    | @iteration left violation more iterated later _ iterates further =>
      have within := (only_iterate run _ _).of_mem iterates
      have advanced : progress.advance.index.toNat = progress.index.toNat + 1 :=
        number (Nat.succ_ne_zero _)
      obtain ⟨next, secured⟩ := ih left (Nat.lt_succ_self left) (by omega) further
      obtain ⟨begins, cuts⟩ := cut_pass false (List.forall_mem_append.mpr
        ⟨stays, fun event mem => ne_cancelled_of_iterates (within event mem)⟩) next
      rw [List.append_assoc] at begins cuts
      rw [begins, cuts]
      rw [advanced] at secured
      refine ⟨rfl, allSecured_cons ?_ secured⟩
      refine secured_iteration apart inspects (number (Nat.succ_ne_zero _)) (by omega) iterates ?_
      rintro failure ⟨⟩

/-! ## Whole runs

What comes before the first pass touches nothing; the rest is passes. -/

/-- **Backup before change.** In every run, whatever the world answers: before the first pass
nothing is archived and nothing is touched. A pass without an iteration makes no archive and touches
neither the tree nor the worker, and it ends the run. An iteration archives the sources exactly once,
before it opens its session and while the tree is as it was when the pass began; of the tree only the
target file is written, and only after the archive of the same iteration was filled. When the
archive fails, the run ends with that failure and nothing was opened, sent or written. -/
theorem backup_before_change (run : Run) (inTree : Path → Bool)
    (apart : run.workspace.Apart inTree) {history : History Call Answer}
    {result : Except Failure Outcome} (yields : Yields run.start.run history result) :
    history = prelude history ++ (sections history).flatten ∧
      (∀ event ∈ prelude history, event.1.archives = false ∧ Untouching inTree event.1) ∧
      AllSecured run inTree result 1 (sections history) := by
  refine ⟨(prelude_append_sections history).symm, ?_⟩
  obtain ⟨checks, rest, rfl, checked, ended⟩ := start_parts yields
  have stays : ∀ event ∈ checks, event.1 ≠ .cancelled := by
    intro event mem
    rcases checked event mem with h | h | h | h <;> simp [h]
  obtain ⟨begins, cuts⟩ := cut_append stays rest
  obtain ⟨first, secured⟩ : prelude rest = [] ∧ AllSecured run inTree result 1 (sections rest) := by
    rcases ended with rfl | passes
    · exact ⟨rfl, allSecured_nil _ _⟩
    · exact secured_passes apart (Nat.zero_add _) passes
  rw [begins, cuts, first, List.append_nil]
  exact ⟨fun event mem => untouching_of_checks (checked event mem), secured⟩

/-! ## A second archive that fails

The claim is tried out where it matters most: the first iteration is archived and made, and for
the second there is no room. The tree of the plain run is given by a test on paths. -/

/-- The files below the source directory of the plain run. -/
def inPlainTree (path : Path) : Bool :=
  path.text.toList.take 4 = ['s', 'r', 'c', '/']

/-- The logs and archives of the plain run do not lie in its tree. -/
theorem apart_inPlainTree : plainRun.workspace.Apart inPlainTree := by
  refine apart_of_head rfl fun path head => decide_eq_false fun same => head ?_
  have first : (path.text.toList.take 4).head? = path.text.toList.head? := by
    rw [List.head?_take, if_neg (by decide : (4 : Nat) ≠ 0)]
  rw [← first, same]
  rfl

/-- A world in which fixes compile and change nothing, with room for one archive. -/
def crowded (past : History Call Answer) : (call : Call) → Answer call
  | .disk (.createNew _) => if past.any (·.1.archives) then .error (.other "full") else .ok ()
  | call => unmoved call

/-- The first iteration of that run is made, and the second ends it. -/
theorem backup_before_change_crowded :
    let run := { plainRun with maxIterations := 2 }
    let history := (run.start.run.replay crowded []).1
    let result := (run.start.run.replay crowded []).2
    AllSecured run inPlainTree result 1 (sections history) ∧ (sections history).length = 2 ∧
      failure? result =
        some (.workspace ⟨plainRun.workspace.backupFile 2 default, .other "full"⟩) := by
  intro run history result
  have secured := backup_before_change run inPlainTree apart_inPlainTree
    (Procedure.yields_replay crowded run.start.run)
  exact ⟨secured.2.2, by decide +kernel, by decide +kernel⟩

end Run

end AzcRepair
