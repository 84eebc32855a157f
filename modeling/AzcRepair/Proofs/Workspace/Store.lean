import AzcRepair.Proofs.Run.Target
import AzcRepair.Proofs.Workspace.Names
import AzcRepair.Proofs.Workspace.Operation

/-!
# A store that is written once

What a workspace does with its files, one operation after the other, in any order and with whatever
texts, iterations and times.

* `Step`, `steps` — operations on a file tree, one after the other.
* `Step.Lawful` — what a single operation does with all files; `lawful_step` says that each does so
  on a disk that does what it is asked for, `granted_steps` where it does.
* `Linked.kept`, `Linked.latest` — what a file holds after a course of operations.
* `store_write_once` — backups and snapshots stay, and the logs are the latest.
-/

namespace AzcRepair

open FileTree (carryOut Grants)

namespace Workspace

variable {workspace : Workspace} {cwd : Route} {tree after : FileTree}

/-! ## Courses of operations

A step keeps the tree before and after it. What one operation does was shown above; here it is
told of every step of a course, and then of the course as a whole. -/

/-- An operation on a file tree, and what came of it. -/
structure Step where
  operation : Operation
  before : FileTree
  result : Except Failure Unit
  after : FileTree

/-- An operation is carried out. -/
def step (workspace : Workspace) (cwd : Route) (tree : FileTree) (operation : Operation) : Step :=
  let done := carryOut cwd (operation.action workspace).run tree
  ⟨operation, tree, done.1, done.2⟩

/-- Operations are carried out one after the other, also past failures. -/
def steps (workspace : Workspace) (cwd : Route) : FileTree → List Operation → List Step
  | _, [] => []
  | tree, operation :: rest =>
    workspace.step cwd tree operation ::
      workspace.steps cwd (workspace.step cwd tree operation).after rest

namespace Step

/-- The disk does what the operation asks for. -/
def Granted (workspace : Workspace) (cwd : Route) (step : Step) : Prop :=
  Grants cwd (step.operation.action workspace).run step.before

/-- What an operation does with all files. A backup fails where a file is, and changes none; else it
adds one. -/
def Lawful (workspace : Workspace) (cwd : Route) (step : Step) : Prop :=
  match step.operation with
  | .backup iteration now =>
    let path := workspace.backupFile iteration now
    step.before.file? (path.routeFrom cwd) ≠ none ∧
        step.result = .error ⟨path, .alreadyExists⟩ ∧ step.after.file? = step.before.file? ∨
      step.before.file? (path.routeFrom cwd) = none ∧ step.result = .ok () ∧
        ∃ entries, step.after.file? =
          Function.update step.before.file? (path.routeFrom cwd) (some (.archive entries))
  | .violations text now =>
    step.result = .ok () ∧ step.after.file? =
      Function.update (Function.update step.before.file? (workspace.violationLog.routeFrom cwd)
        (some (.ofText text))) ((workspace.violationSnapshot now).routeFrom cwd)
        (some (.ofText text))
  | .buildLog text =>
    step.result = .ok () ∧ step.after.file? = Function.update step.before.file?
      (workspace.buildLog.routeFrom cwd) (some (.ofText text))
  | .target text =>
    step.result = .ok () ∧ step.after.file? = Function.update step.before.file?
      (workspace.targetFile.routeFrom cwd) (some (.ofText text))

end Step

theorem lawful_step {operation : Operation}
    (granted : (workspace.step cwd tree operation).Granted workspace cwd) :
    (workspace.step cwd tree operation).Lawful workspace cwd := by
  change Grants cwd (operation.action workspace).run tree at granted
  unfold step
  -- one kind of operation after the other
  cases operation with
  | backup iteration now =>
    obtain ⟨result, after, hdone, heffect⟩ := backup_done granted
    rw [hdone]
    exact heffect
  | violations text now =>
    obtain ⟨after, hdone, hfiles⟩ := violations_done granted
    rw [hdone]
    exact ⟨rfl, hfiles⟩
  | buildLog text =>
    obtain ⟨after, hdone, hfiles⟩ := buildLog_done granted
    rw [hdone]
    exact ⟨rfl, hfiles⟩
  | target text =>
    obtain ⟨after, hdone, hfiles⟩ := target_done granted
    rw [hdone]
    exact ⟨rfl, hfiles⟩

theorem lawful_steps {operations : List Operation}
    (granted : ∀ step ∈ workspace.steps cwd tree operations, step.Granted workspace cwd) :
    ∀ step ∈ workspace.steps cwd tree operations, step.Lawful workspace cwd := by
  induction operations generalizing tree with
  | nil => exact List.forall_mem_nil _
  | cons operation rest ih =>
    obtain ⟨hfirst, hrest⟩ := List.forall_mem_cons.mp granted
    exact List.forall_mem_cons.mpr ⟨lawful_step hfirst, ih hrest⟩

/-- In a workspace that is ready the disk does what all operations ask for. -/
theorem granted_steps {operations : List Operation}
    (ready : workspace.Ready cwd tree operations) :
    ∀ step ∈ workspace.steps cwd tree operations, step.Granted workspace cwd := by
  induction operations generalizing tree with
  | nil => exact List.forall_mem_nil _
  | cons operation rest ih =>
    obtain ⟨hgrants, hsame⟩ := ready.goesThrough
    exact List.forall_mem_cons.mpr ⟨hgrants, ih (ready.behind hsame)⟩

/-- Each step begins where the one before it ended. -/
inductive Linked : FileTree → List Step → Prop where
  | nil (tree : FileTree) : Linked tree []
  | cons {step : Step} {rest : List Step} (behind : Linked step.after rest) :
      Linked step.before (step :: rest)

theorem linked_steps (workspace : Workspace) (cwd : Route) (tree : FileTree)
    (operations : List Operation) : Linked tree (workspace.steps cwd tree operations) := by
  induction operations generalizing tree with
  | nil => exact .nil tree
  | cons operation rest ih =>
    change Linked (workspace.step cwd tree operation).before (workspace.step cwd tree operation :: _)
    exact .cons (ih _)

theorem Linked.behind {past later : List Step} {step : Step}
    (h : Linked tree (past ++ step :: later)) : Linked step.after later := by
  induction past generalizing tree with
  | nil =>
    cases h with
    | cons behind => exact behind
  | cons first past ih =>
    cases h with
    | cons behind => exact ih behind

/-- What every step keeps of a file, the course keeps. -/
theorem Linked.kept {course : List Step} {route : Route} {content : FileContent}
    (h : Linked tree course) (there : tree.file? route = some content)
    (keeps : ∀ step ∈ course, step.before.file? route = some content →
      step.after.file? route = some content) :
    ∀ step ∈ course, step.after.file? route = some content := by
  -- the induction is on the steps: what the first one keeps is there before the others
  induction h with
  | nil tree => exact List.forall_mem_nil _
  | cons behind ih =>
    have hfirst := keeps _ List.mem_cons_self there
    exact List.forall_mem_cons.mpr
      ⟨hfirst, ih hfirst fun step hstep => keeps step (List.mem_cons_of_mem _ hstep)⟩

/-- A file that some steps replace by a text holds the latest one. -/
theorem Linked.latest {past later : List Step} {step : Step} {route : Route}
    {text? : Step → Option String} (h : Linked tree (past ++ step :: later))
    (replaces : ∀ other ∈ past ++ [step], other.after.file? route =
      ((text? other).map .ofText).or (other.before.file? route)) :
    step.after.file? route =
      (((past ++ [step]).filterMap text?).getLast?.map .ofText).or (tree.file? route) := by
  -- on the steps in front: what the first of them leaves is where the others begin
  induction past generalizing tree with
  | nil =>
    cases h with
    | cons behind =>
      rw [replaces step (by simp)]
      cases htext : text? step <;> simp [htext]
  | cons first past ih =>
    cases h with
    | cons behind =>
      have hlater := ih behind fun other hother => replaces other (List.mem_cons_of_mem first hother)
      rw [hlater, replaces first List.mem_cons_self, List.cons_append]
      cases htext : text? first with
      | none =>
        rw [List.filterMap_cons_none htext]
        rfl
      | some text =>
        rw [List.filterMap_cons_some htext, List.getLast?_cons]
        cases ((past ++ [step]).filterMap text?).getLast? <;> rfl

/-! ## What a lawful step leaves alone

Every operation changes the files of its kind only. As files in one place are of one kind, one
iteration and one millisecond, all other kept files stay as they were. -/

theorem Apart.kept_ne_target
    (apart : workspace.Apart fun path => path.routeFrom cwd = workspace.targetFile.routeFrom cwd)
    (file : Kept) : (file.path workspace).routeFrom cwd ≠ workspace.targetFile.routeFrom cwd := by
  cases file with
  | violationLog => exact of_decide_eq_false apart.violationLog
  | violationSnapshot now => exact of_decide_eq_false (apart.violationSnapshot now)
  | buildLog => exact of_decide_eq_false apart.buildLog
  | backup iteration now => exact of_decide_eq_false (apart.backupFile iteration now)

/-- A target file that lies in neither directory is no kept file. -/
theorem apart_of_beside {above : Route} {name : String}
    (target : workspace.targetFile.routeFrom cwd = above ++ [name])
    (logs : workspace.logDir.routeFrom cwd ≠ above)
    (backups : workspace.backupDir.routeFrom cwd ≠ above) :
    workspace.Apart fun path => path.routeFrom cwd = workspace.targetFile.routeFrom cwd := by
  have hbeside (file : Kept) :
      (file.path workspace).routeFrom cwd ≠ workspace.targetFile.routeFrom cwd := by
    intro h
    rw [Kept.route, target] at h
    have habove := (List.append_singleton_inj.mp h).1
    cases file with
    | backup => exact backups habove
    | violationLog | violationSnapshot | buildLog => exact logs habove
  exact ⟨decide_eq_true rfl, decide_eq_false (hbeside .violationLog),
    fun now => decide_eq_false (hbeside (.violationSnapshot now)),
    decide_eq_false (hbeside .buildLog),
    fun iteration now => decide_eq_false (hbeside (.backup iteration now))⟩

/-- The kept files that an operation may change. -/
def Operation.changes : Operation → List Kept
  | backup iteration now => [.backup iteration now]
  | violations _ now => [.violationLog, .violationSnapshot now]
  | buildLog _ => [.buildLog]
  | target _ => []

theorem Operation.of_mem_paths {operation : Operation} {path : Path}
    (h : path ∈ operation.paths workspace) :
    path = workspace.targetFile ∨ ∃ file ∈ operation.changes, path = file.path workspace := by
  cases operation with
  | backup => exact .inr ⟨_, List.mem_cons_self, List.mem_singleton.mp h⟩
  | violations =>
    rcases List.mem_cons.mp h with hlog | hcopy
    · exact .inr ⟨_, List.mem_cons_self, hlog⟩
    · exact .inr ⟨_, List.mem_cons_of_mem _ List.mem_cons_self, List.mem_singleton.mp hcopy⟩
  | buildLog => exact .inr ⟨_, List.mem_cons_self, List.mem_singleton.mp h⟩
  | target => exact .inl (List.mem_singleton.mp h)

namespace Step

variable {step : Step} {route : Route}

theorem Lawful.elsewhere (h : step.Lawful workspace cwd)
    (apart : ∀ path ∈ step.operation.paths workspace, path.routeFrom cwd ≠ route) :
    step.after.file? route = step.before.file? route := by
  unfold Lawful at h
  cases hoperation : step.operation with
  | backup iteration now =>
    rw [hoperation] at h apart
    have hapart := apart _ List.mem_cons_self
    rcases h with ⟨-, -, hfiles⟩ | ⟨-, -, entries, hfiles⟩
    · rw [hfiles]
    · rw [hfiles, Function.update_of_ne hapart.symm]
  | violations text now =>
    rw [hoperation] at h apart
    have hlog := apart _ List.mem_cons_self
    have hcopy := apart _ (List.mem_cons_of_mem _ List.mem_cons_self)
    rw [h.2, Function.update_of_ne hcopy.symm, Function.update_of_ne hlog.symm]
  | buildLog text | target text =>
    rw [hoperation] at h apart
    rw [h.2, Function.update_of_ne (apart _ List.mem_cons_self).symm]

/-- A kept file is only changed by an operation on a file of its kind, its iteration and its
millisecond. -/
theorem Lawful.beside (file : Kept) {path : Path} (named : file.path workspace = path)
    (h : step.Lawful workspace cwd)
    (apart : workspace.Apart fun path => path.routeFrom cwd = workspace.targetFile.routeFrom cwd)
    (other : ∀ changed ∈ step.operation.changes, ¬ changed.Same file) :
    step.after.file? (path.routeFrom cwd) = step.before.file? (path.routeFrom cwd) := by
  subst named
  refine h.elsewhere fun path hpath => ?_
  rcases Operation.of_mem_paths hpath with rfl | ⟨changed, hchanged, rfl⟩
  · exact fun hroute => apart.kept_ne_target file hroute.symm
  · exact fun hroute => other changed hchanged (Kept.same_of_route hroute)

/-- The text that a step writes to the violation log. -/
def violations? (step : Step) : Option String :=
  match step.operation with
  | .violations text _ => some text
  | _ => none

def buildLog? (step : Step) : Option String :=
  match step.operation with
  | .buildLog text => some text
  | _ => none

theorem Lawful.violationLog (h : step.Lawful workspace cwd)
    (apart : workspace.Apart fun path => path.routeFrom cwd = workspace.targetFile.routeFrom cwd) :
    step.after.file? (workspace.violationLog.routeFrom cwd) = (step.violations?.map .ofText).or
      (step.before.file? (workspace.violationLog.routeFrom cwd)) := by
  -- violations write the log and then a copy elsewhere; all else leaves the log alone
  cases hoperation : step.operation with
  | violations text now =>
    have hcopy : workspace.violationLog.routeFrom cwd ≠
        (workspace.violationSnapshot now).routeFrom cwd := by
      intro hroute
      have hsame : Kept.Same .violationLog (.violationSnapshot now) := Kept.same_of_route hroute
      cases hsame
    rw [Lawful, hoperation] at h
    rw [h.2, Function.update_of_ne hcopy, Function.update_self, violations?, hoperation]
    rfl
  | backup | buildLog | target =>
    have hnone : step.violations? = none := by rw [violations?, hoperation]
    rw [hnone, Option.map_none, Option.none_or]
    refine Lawful.beside .violationLog rfl h apart fun changed hchanged hsame => ?_
    cases hsame
    simp [Operation.changes, hoperation] at hchanged

theorem Lawful.buildLog (h : step.Lawful workspace cwd)
    (apart : workspace.Apart fun path => path.routeFrom cwd = workspace.targetFile.routeFrom cwd) :
    step.after.file? (workspace.buildLog.routeFrom cwd) = (step.buildLog?.map .ofText).or
      (step.before.file? (workspace.buildLog.routeFrom cwd)) := by
  cases hoperation : step.operation with
  | buildLog text =>
    rw [Lawful, hoperation] at h
    rw [h.2, Function.update_self, buildLog?, hoperation]
    rfl
  | backup | violations | target =>
    have hnone : step.buildLog? = none := by rw [buildLog?, hoperation]
    rw [hnone, Option.map_none, Option.none_or]
    refine Lawful.beside .buildLog rfl h apart fun changed hchanged hsame => ?_
    cases hsame
    simp [Operation.changes, hoperation] at hchanged

theorem Lawful.keeps_backup {iteration : UInt32} {now : Instant} {content : FileContent}
    (h : step.Lawful workspace cwd)
    (apart : workspace.Apart fun path => path.routeFrom cwd = workspace.targetFile.routeFrom cwd)
    (there : step.before.file? ((workspace.backupFile iteration now).routeFrom cwd) =
      some content) :
    step.after.file? ((workspace.backupFile iteration now).routeFrom cwd) = some content := by
  rw [← there]
  cases hoperation : step.operation with
  | backup iteration' now' =>
    -- a backup in the same place finds the file and is refused
    by_cases hroute : (workspace.backupFile iteration' now').routeFrom cwd =
        (workspace.backupFile iteration now).routeFrom cwd
    · rw [Lawful, hoperation] at h
      rcases h with ⟨-, -, hfiles⟩ | ⟨hnone, -, -⟩
      · rw [hfiles]
      · rw [hroute, there] at hnone
        cases hnone
    · refine h.elsewhere fun path hpath => ?_
      rw [hoperation, Operation.paths] at hpath
      rwa [List.mem_singleton.mp hpath]
  | violations | buildLog | target =>
    refine Lawful.beside (.backup iteration now) rfl h apart fun changed hchanged hsame => ?_
    cases hsame
    simp [Operation.changes, hoperation] at hchanged

/-- A snapshot stays as it is while no violations of its millisecond are kept. -/
theorem Lawful.keeps_snapshot {now : Instant} (h : step.Lawful workspace cwd)
    (apart : workspace.Apart fun path => path.routeFrom cwd = workspace.targetFile.routeFrom cwd)
    (later : ∀ text now', step.operation = .violations text now' → now'.toMillis ≠ now.toMillis) :
    step.after.file? ((workspace.violationSnapshot now).routeFrom cwd) =
      step.before.file? ((workspace.violationSnapshot now).routeFrom cwd) := by
  refine Lawful.beside (.violationSnapshot now) rfl h apart
    fun changed hchanged hsame => ?_
  cases hsame with
  | violationSnapshot htime =>
    cases hoperation : step.operation with
    | violations text now' =>
      simp [Operation.changes, hoperation] at hchanged
      rw [hchanged] at htime
      exact later text now' hoperation htime
    | backup | buildLog | target => simp [Operation.changes, hoperation] at hchanged

end Step

/-! ## The store

Most of what is claimed about a course is about one file: either nothing changes it any more, or
the latest change of it counts. -/

/-- Outside leap seconds, the iteration and the millisecond determine the file of a backup. -/
theorem backupFile_of_toMillis {now now' : Instant} (iteration : UInt32)
    (hnow : now.nanos < Instant.perSecond) (hnow' : now'.nanos < Instant.perSecond)
    (h : now.toMillis = now'.toMillis) :
    workspace.backupFile iteration now = workspace.backupFile iteration now' := by
  rw [backupFile, backupFile, (Instant.stamp_eq_iff hnow hnow').mpr h]

/-- **A store that is written once.** Operations are carried out one after the other, in any order and
with any texts, iterations and times; the disk does what it is asked for, and no kept file is the
target file. Each operation does with the files what it should: a backup fails where a file is and
adds exactly one elsewhere, and a new target changes the target file alone. Kept files in one place
are of one millisecond and, if backups, of one iteration. A backup that was made is never changed
again, after every operation the two logs are the latest ones, and a snapshot holds its text as long
as no other violations of its millisecond are kept. -/
theorem store_write_once {operations : List Operation}
    (apart : workspace.Apart fun path => path.routeFrom cwd = workspace.targetFile.routeFrom cwd)
    (granted : ∀ step ∈ workspace.steps cwd tree operations, step.Granted workspace cwd) :
    (∀ step ∈ workspace.steps cwd tree operations, step.Lawful workspace cwd) ∧
    (∀ one other : Kept,
      (one.path workspace).routeFrom cwd = (other.path workspace).routeFrom cwd → one.Same other) ∧
    (∀ iteration (now now' : Instant), now.nanos < Instant.perSecond →
      now'.nanos < Instant.perSecond → now.toMillis = now'.toMillis →
      workspace.backupFile iteration now = workspace.backupFile iteration now') ∧
    ∀ past step later, workspace.steps cwd tree operations = past ++ step :: later →
      (∀ iteration now, step.operation = .backup iteration now → step.result = .ok () →
        ∀ other ∈ later, other.after.file? ((workspace.backupFile iteration now).routeFrom cwd) =
          step.after.file? ((workspace.backupFile iteration now).routeFrom cwd)) ∧
      step.after.file? (workspace.violationLog.routeFrom cwd) =
        (((past ++ [step]).filterMap Step.violations?).getLast?.map .ofText).or
          (tree.file? (workspace.violationLog.routeFrom cwd)) ∧
      step.after.file? (workspace.buildLog.routeFrom cwd) =
        (((past ++ [step]).filterMap Step.buildLog?).getLast?.map .ofText).or
          (tree.file? (workspace.buildLog.routeFrom cwd)) ∧
      (∀ text now, step.operation = .violations text now →
        (∀ other ∈ later, ∀ text' now', other.operation = .violations text' now' →
          now'.toMillis ≠ now.toMillis) →
        ∀ other ∈ step :: later,
          other.after.file? ((workspace.violationSnapshot now).routeFrom cwd) =
            some (.ofText text)) := by
  have hlawful := lawful_steps granted
  have hlinked := linked_steps workspace cwd tree operations
  refine ⟨hlawful, fun one other => Kept.same_of_route,
    fun iteration _ _ => backupFile_of_toMillis iteration, ?_⟩
  intro past step later hsplit
  rw [hsplit] at hlawful hlinked
  have hstep : step.Lawful workspace cwd := hlawful step (by simp)
  have hpast : ∀ other ∈ past ++ [step], other.Lawful workspace cwd := by
    intro other hother
    rcases List.mem_append.mp hother with hother | hother
    · exact hlawful other (List.mem_append_left _ hother)
    · rw [List.mem_singleton.mp hother]
      exact hstep
  have hlater : ∀ other ∈ later, other.Lawful workspace cwd := fun other hother =>
    hlawful other (List.mem_append_right past (List.mem_cons_of_mem step hother))
  refine ⟨?_, ?_, ?_, ?_⟩
  · intro iteration now hoperation hok
    rw [Step.Lawful, hoperation] at hstep
    rcases hstep with ⟨-, herror, -⟩ | ⟨-, -, entries, hfiles⟩
    · cases hok.symm.trans herror
    · have hthere : step.after.file? ((workspace.backupFile iteration now).routeFrom cwd) =
          some (.archive entries) := by rw [hfiles, Function.update_self]
      rw [hthere]
      -- from here on the archive is there, and every later step keeps what is there
      exact hlinked.behind.kept hthere fun other hother =>
        (hlater other hother).keeps_backup apart
  · exact hlinked.latest fun other hother => (hpast other hother).violationLog apart
  · exact hlinked.latest fun other hother => (hpast other hother).buildLog apart
  · intro text now hoperation hnone
    have hthere : step.after.file? ((workspace.violationSnapshot now).routeFrom cwd) =
        some (.ofText text) := by
      rw [Step.Lawful, hoperation] at hstep
      rw [hstep.2, Function.update_self]
    refine List.forall_mem_cons.mpr ⟨hthere, ?_⟩
    refine hlinked.behind.kept hthere fun other hother hbefore => ?_
    rw [(hlater other hother).keeps_snapshot apart (hnone other hother), hbefore]

/-- A workspace that keeps its logs where the backups are. -/
def gathered : Workspace :=
  ⟨⟨"./src"⟩, ⟨"./src/client.tsp"⟩, ⟨"./src/main.tsp"⟩, ⟨"./backups"⟩, ⟨"./backups"⟩⟩

/-- Two rounds; the second begins in the millisecond of the first and has its violations later. -/
def twoRounds : List Operation :=
  [.backup 1 ⟨0, 0⟩, .violations "first" ⟨0, 0⟩, .target "new", .backup 1 ⟨0, 0⟩,
    .violations "second" ⟨0, 5000000⟩]

theorem ready_gathered : gathered.Ready ["home"] homeTree twoRounds := by
  have hbackups : homeTree.findDirectory ["home"] ⟨"./backups"⟩ = .ok (["home", "backups"], _) :=
    FileTree.findDirectory_eq_ok_iff.mpr ⟨⟨by simp, by decide⟩, by decide, by decide, rfl⟩
  have hsources : homeTree.findDirectory ["home"] ⟨"./src"⟩ = .ok (["home", "src"], _) :=
    FileTree.findDirectory_eq_ok_iff.mpr ⟨⟨by simp, by decide⟩, by decide, by decide, rfl⟩
  have hpaths : ∀ path ∈ twoRounds.flatMap (Operation.paths gathered), path ∈ ([
      ⟨"./src/client.tsp"⟩, ⟨"./backups/iteration-1-src-backup-19700101_000000_000.tar.gz"⟩,
      ⟨"./backups/azc-errors.txt"⟩, ⟨"./backups/azc-errors-19700101_000000_000.txt"⟩,
      ⟨"./backups/azc-errors-19700101_000000_005.txt"⟩] : List Path) := by decide +kernel
  refine ⟨⟨_, _, hbackups⟩, ⟨_, _, hbackups⟩, ⟨_, _, hsources⟩, ?_⟩
  intro operation hoperation path hpath
  have hmem := hpaths path (List.mem_flatMap.mpr ⟨operation, hoperation, hpath⟩)
  simp only [List.mem_cons, List.not_mem_nil, or_false] at hmem
  rcases hmem with rfl | rfl | rfl | rfl | rfl
  all_goals
    exact FileTree.writable_iff.mpr
      ⟨⟨⟨by simp, by decide⟩, by decide, by decide⟩, by decide +kernel, by decide⟩

/-- The second backup is refused and the first one stays, the log is the second one, and the snapshot
of the first is still there. -/
theorem store_write_once_two_rounds :
    ∃ first logged changed second last,
      gathered.steps ["home"] homeTree twoRounds = [first, logged, changed, second, last] ∧
      first.result = .ok () ∧
      second.result = .error ⟨gathered.backupFile 1 ⟨0, 0⟩, .alreadyExists⟩ ∧
      last.after.file? ((gathered.backupFile 1 ⟨0, 0⟩).routeFrom ["home"]) =
        first.after.file? ((gathered.backupFile 1 ⟨0, 0⟩).routeFrom ["home"]) ∧
      last.after.file? (gathered.violationLog.routeFrom ["home"]) = some (.ofText "second") ∧
      last.after.file? ((gathered.violationSnapshot ⟨0, 0⟩).routeFrom ["home"]) =
        some (.ofText "first") := by
  have htarget : gathered.targetFile.routeFrom ["home"] = ["home", "src"] ++ ["client.tsp"] := by
    decide
  have hapart := apart_of_beside htarget (by decide) (by decide)
  obtain ⟨hlawful, -, -, hcourse⟩ := store_write_once hapart (granted_steps ready_gathered)
  obtain ⟨first, logged, changed, second, last, hsteps, hfirst, hbefore, hlogged, hchanged, hsecond,
      hlast⟩ : ∃ first logged changed second last,
        gathered.steps ["home"] homeTree twoRounds = [first, logged, changed, second, last] ∧
        first.operation = .backup 1 ⟨0, 0⟩ ∧ first.before = homeTree ∧
        logged.operation = .violations "first" ⟨0, 0⟩ ∧
        changed.operation = .target "new" ∧
        (second.operation = .backup 1 ⟨0, 0⟩ ∧ second.before = changed.after) ∧
        last.operation = .violations "second" ⟨0, 5000000⟩ :=
    ⟨_, _, _, _, _, rfl, rfl, rfl, rfl, rfl, ⟨rfl, rfl⟩, rfl⟩
  refine ⟨first, logged, changed, second, last, hsteps, ?_⟩
  rw [hsteps] at hlawful
  have hbackup : first.Lawful gathered ["home"] := hlawful first (by simp)
  have hagain : second.Lawful gathered ["home"] := hlawful second (by simp)
  obtain ⟨hkept, -, -, -⟩ := hcourse [] first [logged, changed, second, last] hsteps
  obtain ⟨-, -, -, hcopy⟩ := hcourse [first] logged [changed, second, last] hsteps
  obtain ⟨-, hlog, -, -⟩ := hcourse [first, logged, changed, second] last [] hsteps
  have hfree : homeTree.file? ((gathered.backupFile 1 ⟨0, 0⟩).routeFrom ["home"]) = none :=
    Option.isNone_iff_eq_none.mp (by decide +kernel)
  rw [Step.Lawful, hfirst, hbefore] at hbackup
  rw [Step.Lawful, hsecond.1, hsecond.2] at hagain
  obtain ⟨-, hok, entries, hfiles⟩ := hbackup.resolve_left fun h => h.1 hfree
  have hstays := hkept 1 ⟨0, 0⟩ hfirst hok
  have hthere : changed.after.file? ((gathered.backupFile 1 ⟨0, 0⟩).routeFrom ["home"]) ≠ none := by
    rw [hstays changed (by simp), hfiles, Function.update_self]
    exact Option.some_ne_none _
  obtain ⟨-, hrefused, -⟩ := hagain.resolve_right fun h => hthere h.1
  refine ⟨hok, hrefused, hstays last (by simp), ?_, ?_⟩
  · rw [hlog]
    simp [Step.violations?, hfirst, hlogged, hchanged, hsecond.1, hlast]
  · refine hcopy "first" ⟨0, 0⟩ hlogged ?_ last (by simp)
    intro other hother text now hoperation
    simp only [List.mem_cons, List.not_mem_nil, or_false] at hother
    rcases hother with rfl | rfl | rfl
    · cases hchanged.symm.trans hoperation
    · cases hsecond.1.symm.trans hoperation
    · cases hlast.symm.trans hoperation
      decide

end Workspace

end AzcRepair
