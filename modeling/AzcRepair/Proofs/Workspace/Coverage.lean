import Mathlib.Data.Fintype.EquivFin
import AzcRepair.Proofs.FileTree.Places
import AzcRepair.Proofs.Settings.Demands
import AzcRepair.Workspace

/-!
# What an archive of the sources covers

The target file is named by a text of its own, seen from the source directory. Joining paths tidies
nothing, so this text can lead out of the directory that is archived.

* `Path.StaysBelow` — a path that cannot lead out: relative, never above its start, and not back to
  it. `Path.staysBelow_iff` says that these are the paths that lead below every directory.
* `createBackup_eq_ok_iff` — a successful archive, taken apart into what was done on the disk.
* `archived_of_inside` — a file below the source directory is in the archive, with its bytes.
* `exists_backupThenWrite` — when the archive and the new target come about.
* `backup_covers_target` — the target file lies in the source directory for every root and every
  source directory exactly when its name stays below; where it lies there, the archive holds it.
* `backup_misses_sibling_target` — accepted settings whose target file lies elsewhere.
-/

namespace AzcRepair

/-- A path that leads below the place that it is seen from, whatever this place is. -/
def Path.StaysBelow (path : Path) : Prop :=
  ∃ below, below ≠ [] ∧ path.descent? = some below

open FileTree (carryOut carryOut_bind)

namespace Workspace

variable {workspace : Workspace} {cwd : Route} {tree after : FileTree} {α β : Type}

/-! ## Carrying out actions

An action stops at its first failure, so one that succeeds can be taken apart into requests that
all succeeded. -/

/-- An action that succeeds goes on from where its first part succeeded. -/
theorem carryOut_bind_eq_ok_iff {first : Action α} {next : α → Action β} {value : β} :
    carryOut cwd (first >>= next).run tree = (.ok value, after) ↔
      ∃ given middle, carryOut cwd first.run tree = (.ok given, middle) ∧
        carryOut cwd (next given).run middle = (.ok value, after) := by
  rw [ExceptT.run_bind, carryOut_bind]
  generalize carryOut cwd first.run tree = begun
  obtain ⟨_ | given, middle⟩ := begun
  · refine ⟨fun failed => ?_, fun ⟨_, _, failed, _⟩ => ?_⟩ <;> cases failed
  · refine ⟨fun done => ⟨given, middle, rfl, done⟩, ?_⟩
    rintro ⟨_, _, same, done⟩
    cases same
    exact done

theorem carryOut_blame_eq_ok_iff {path : Path}
    {request : Procedure Disk.Call Disk.Answer (Except OsError α)} {value : α} :
    carryOut cwd (blame path request).run tree = (.ok value, after) ↔
      carryOut cwd request tree = (.ok value, after) := by
  change carryOut cwd (request >>= _) tree = _ ↔ _
  rw [carryOut_bind]
  generalize carryOut cwd request tree = asked
  obtain ⟨_ | given, middle⟩ := asked
  · refine ⟨fun failed => ?_, fun failed => ?_⟩ <;> cases failed
  · refine ⟨fun done => ?_, fun done => ?_⟩ <;> cases done <;> rfl

theorem attempt_eq_ok_iff {update : Except OsError FileTree} :
    tree.attempt update = (.ok (), after) ↔ update = .ok after := by
  -- a failed update leaves the tree as it was and reports the error
  cases update with
  | error error => refine ⟨fun failed => ?_, fun failed => ?_⟩ <;> cases failed
  | ok updated => simp [FileTree.attempt]

/-- A backup that succeeds makes its directory and a new file, and fills this file. -/
theorem createBackup_eq_ok_iff {iteration : UInt32} {now : Instant} {backup : Backup} :
    carryOut cwd (workspace.createBackup iteration now).run tree = (.ok backup, after) ↔
      backup = ⟨workspace.backupFile iteration now, iteration, now⟩ ∧
        ∃ ready fresh, tree.makeDirectories cwd workspace.backupDir = .ok ready ∧
          ready.createNew cwd backup.path = .ok fresh ∧
          fresh.archive cwd backup.path workspace.sourceDir = (.ok (), after) := by
  constructor
  · intro done
    -- the three requests of a backup: the directory, the new file, what is in it
    obtain ⟨_, ready, directories, done⟩ := carryOut_bind_eq_ok_iff.mp done
    obtain ⟨_, fresh, made, done⟩ := carryOut_bind_eq_ok_iff.mp done
    obtain ⟨_, filled, archive, done⟩ := carryOut_bind_eq_ok_iff.mp done
    cases done
    exact ⟨rfl, ready, fresh, attempt_eq_ok_iff.mp (carryOut_blame_eq_ok_iff.mp directories),
      attempt_eq_ok_iff.mp (carryOut_blame_eq_ok_iff.mp made), carryOut_blame_eq_ok_iff.mp archive⟩
  · rintro ⟨rfl, ready, fresh, directories, made, archive⟩
    refine carryOut_bind_eq_ok_iff.mpr ⟨(), ready, ?_, carryOut_bind_eq_ok_iff.mpr
      ⟨(), fresh, ?_, carryOut_bind_eq_ok_iff.mpr ⟨(), after, ?_, rfl⟩⟩⟩
    · exact carryOut_blame_eq_ok_iff.mpr (attempt_eq_ok_iff.mpr directories)
    · exact carryOut_blame_eq_ok_iff.mpr (attempt_eq_ok_iff.mpr made)
    · exact carryOut_blame_eq_ok_iff.mpr archive

theorem writeTarget_eq_ok_iff {text : String} :
    carryOut cwd (workspace.writeTarget text).run tree = (.ok (), after) ↔
      tree.write cwd workspace.targetFile (.ofText text) = .ok after :=
  carryOut_blame_eq_ok_iff.trans attempt_eq_ok_iff

/-- A file below the source directory is in the archive, under its route from there. -/
theorem archived_of_inside {iteration : UInt32} {now : Instant} {backup : Backup} {rest : Route}
    {content : FileContent}
    (made : carryOut cwd (workspace.createBackup iteration now).run tree = (.ok backup, after))
    (below : rest ≠ [])
    (there : tree.file? (workspace.sourceDir.routeFrom cwd ++ rest) = some content) :
    ∃ entries, after.find cwd backup.path = .ok (.file (.archive entries)) ∧
      ("/".intercalate ("src" :: rest), content.data) ∈ entries ∧
      backup.path.routeFrom cwd ≠ workspace.sourceDir.routeFrom cwd ++ rest := by
  obtain ⟨-, ready, fresh, directories, new, filled⟩ := createBackup_eq_ok_iff.mp made
  obtain ⟨begun, found, header, source, written⟩ := FileTree.archive_changes filled
  rw [← (FileTree.makeDirectoriesAlong_keeps directories).1] at there
  -- nothing is where the archive is made, so it is not the file
  have apart : backup.path.routeFrom cwd ≠ workspace.sourceDir.routeFrom cwd ++ rest := by
    intro same
    obtain ⟨⟨-, -, nothing⟩, -⟩ := FileTree.createNew_eq_ok_iff.mp new
    rw [same] at nothing
    cases nothing.symm.trans (FileTree.file?_eq_some_iff.mp there)
  refine ⟨_, FileTree.find_of_write written, FileTree.mem_archiveEntries below ?_, apart⟩
  have kept : begun.file? (workspace.sourceDir.routeFrom cwd ++ rest) = some content := by
    rw [(FileTree.write_changes header).1, if_neg apart.symm,
      (FileTree.createNew_changes new).1, if_neg apart.symm, there]
  have whole := FileTree.file?_eq_some_iff.mp kept
  rwa [FileNode.get?_append, source, Option.bind_some] at whole

end Workspace

/-! ## Paths that stay below

A path is followed step by step, and every step up takes back a step down. A path that goes up
further than it went down leaves its directory, and comes back to it at best from some places. -/

/-- A path leads below whatever directory it is seen from exactly when it stays below. -/
theorem Path.staysBelow_iff {path : Path} :
    path.StaysBelow ↔ ∀ cwd, ∃ rest ≠ [], path.routeFrom cwd = cwd ++ rest := by
  refine ⟨fun ⟨below, more, descent⟩ cwd => ⟨below, more, routeFrom_of_descent descent cwd⟩, ?_⟩
  intro leads
  -- seen from a directory whose name it does not know, the path comes back only if it never leaves
  obtain ⟨name, new⟩ := Infinite.exists_notMem_finset path.steps.toFinset
  rw [List.mem_toFinset] at new
  obtain ⟨rest, more, leads⟩ := leads [name]
  have inside : (path.routeFrom [name]).head? = .some name := by rw [leads]; rfl
  unfold StaysBelow descent?
  -- an absolute path does not depend on where it is seen from
  by_cases absolute : path.isAbsolute = true
  · rw [routeFrom_of_isAbsolute absolute] at inside
    exact absurd inside (head?_follow_ne new nofun)
  · rw [if_neg absolute]
    cases descent : path.steps.foldlM descend [] with
    | none =>
      rw [routeFrom_of_not_isAbsolute (by simpa using absolute)] at inside
      exact absurd inside (head?_follow_ne_of_descend new descent)
    | some below =>
      have same : path.routeFrom [name] = [name] ++ below :=
        routeFrom_of_descent (by rw [descent?, if_neg absolute, descent]) [name]
      refine ⟨below, ?_, rfl⟩
      rwa [List.append_cancel_left (same.symm.trans leads)]

namespace Settings

/-- The target file lies in the source directory, seen from a working directory. -/
def Layout.HoldsTarget (layout : Layout) (cwd : Route) : Prop :=
  ∃ rest ≠ [], layout.targetPath.routeFrom cwd = layout.sourcePath.routeFrom cwd ++ rest

/-- The settings for another root and another source directory. -/
def relocated (settings : Settings) (root sourceDir : Path) : Settings :=
  { settings with workspace := { settings.workspace with root, sourceDir } }

/-- Only that the root is named matters. -/
theorem relocated_accepted {settings : Settings} (accepted : settings.check = .ok ())
    {root : Path} (named : root.text.isEmpty = false) (sourceDir : Path) :
    (settings.relocated root sourceDir).check = .ok () := by
  rw [check_eq_ok_iff] at accepted ⊢
  simp only [demands, relocated, List.forall_mem_cons, named] at accepted ⊢
  obtain ⟨endpoint, model, key, program, -, rest⟩ := accepted
  exact ⟨endpoint, model, key, program, rfl, rest⟩

/-- The target file lies in the source directory for every choice of the two directories exactly when
its own path stays below. -/
theorem relocated_holdsTarget_iff {settings : Settings} (accepted : settings.check = .ok ()) :
    (∀ root sourceDir, (settings.relocated root sourceDir).check = .ok () →
      ∀ cwd, (settings.relocated root sourceDir).workspace.HoldsTarget cwd) ↔
    Path.StaysBelow ⟨settings.workspace.targetFile⟩ := by
  have target (root sourceDir : Path) (cwd : Route) :
      (settings.relocated root sourceDir).workspace.targetPath.routeFrom cwd =
        Path.routeFrom ((settings.relocated root sourceDir).workspace.sourcePath.routeFrom cwd)
          ⟨settings.workspace.targetFile⟩ :=
    Path.routeFrom_join _ _ _
  rw [Path.staysBelow_iff]
  constructor
  · intro held cwd
    -- the working directory itself, as the root and as the source directory
    have here : (settings.relocated ⟨"."⟩ ⟨"."⟩).workspace.sourcePath.routeFrom cwd = cwd := by
      refine (Path.resolve_routeFrom _ _ cwd).trans ?_
      exact (Path.routeFrom_dot _).trans (Path.routeFrom_dot cwd)
    obtain ⟨rest, more, leads⟩ := held ⟨"."⟩ ⟨"."⟩ (relocated_accepted accepted rfl _) cwd
    rw [target, here] at leads
    exact ⟨rest, more, leads⟩
  · intro stays root sourceDir _ cwd
    unfold Layout.HoldsTarget
    rw [target]
    exact stays _

end Settings

namespace Workspace

variable {workspace : Workspace} {cwd : Route} {tree after : FileTree}

/-- A backup and then a new target. -/
def backupThenWrite (workspace : Workspace) (iteration : UInt32) (now : Instant) (text : String) :
    Action Backup := do
  let backup ← workspace.createBackup iteration now
  workspace.writeTarget text
  return backup

theorem backupThenWrite_eq_ok_iff {iteration : UInt32} {now : Instant} {text : String}
    {backup : Backup} :
    carryOut cwd (workspace.backupThenWrite iteration now text).run tree = (.ok backup, after) ↔
      ∃ saved, carryOut cwd (workspace.createBackup iteration now).run tree = (.ok backup, saved) ∧
        saved.write cwd workspace.targetFile (.ofText text) = .ok after := by
  constructor
  · intro done
    obtain ⟨_, saved, made, done⟩ := carryOut_bind_eq_ok_iff.mp done
    obtain ⟨_, replaced, written, done⟩ := carryOut_bind_eq_ok_iff.mp done
    cases done
    exact ⟨saved, made, writeTarget_eq_ok_iff.mp written⟩
  · rintro ⟨saved, made, written⟩
    exact carryOut_bind_eq_ok_iff.mpr ⟨backup, saved, made, carryOut_bind_eq_ok_iff.mpr
      ⟨(), after, writeTarget_eq_ok_iff.mpr written, rfl⟩⟩

/-- The backup and the new target come about when the backup directory and the source directory are
there, nothing has the name of the archive, and the target file can be written. -/
theorem exists_backupThenWrite {iteration : UInt32} {now : Instant} {text : String}
    {fresh written : FileTree} {above route : Route} {others entries : List (String × FileNode)}
    (backups : tree.findDirectory cwd workspace.backupDir = .ok (above, others))
    (made : tree.createNew cwd (workspace.backupFile iteration now) = .ok fresh)
    (source : tree.findDirectory cwd workspace.sourceDir = .ok (route, entries))
    (target : tree.write cwd workspace.targetFile (.ofText text) = .ok written) :
    ∃ after, carryOut cwd (workspace.backupThenWrite iteration now text).run tree =
      (.ok ⟨workspace.backupFile iteration now, iteration, now⟩, after) := by
  obtain ⟨-, directories⟩ := FileTree.createNew_changes made
  obtain ⟨_, source⟩ := directories.findDirectory source
  obtain ⟨filled, archive⟩ := FileTree.exists_archive made source
  obtain ⟨_, _, -, -, last⟩ := FileTree.archive_changes archive
  obtain ⟨_, target⟩ := directories.write target (.ofText text)
  obtain ⟨after, target⟩ := (FileTree.write_changes last).2.write target (.ofText text)
  refine ⟨after, backupThenWrite_eq_ok_iff.mpr ⟨filled, createBackup_eq_ok_iff.mpr ?_, target⟩⟩
  exact ⟨rfl, tree, fresh, FileTree.makeDirectories_of_findDirectory backups, made, archive⟩

/-- The archive of a backup holds the bytes of a file under its route below the source directory. -/
def Holds (workspace : Workspace) (tree : FileTree) (cwd : Route) (backup : Backup) (path : Path)
    (bytes : ByteArray) : Prop :=
  ∃ entries rest, tree.find cwd backup.path = .ok (.file (.archive entries)) ∧
    path.routeFrom cwd = workspace.sourceDir.routeFrom cwd ++ rest ∧
    ("/".intercalate ("src" :: rest), bytes) ∈ entries

/-- The target file lies in the source directory, whatever this and the root are, exactly when its
own path stays below. Where it lies there, what it held is in the archive that was made before it was
replaced. -/
theorem backup_covers_target {settings : Settings} (accepted : settings.check = .ok ()) :
    ((∀ root sourceDir, (settings.relocated root sourceDir).check = .ok () →
        ∀ cwd, (settings.relocated root sourceDir).workspace.HoldsTarget cwd) ↔
      Path.StaysBelow ⟨settings.workspace.targetFile⟩) ∧
    ∀ (cwd : Route) (tree after : FileTree) (iteration : UInt32) (now : Instant) (text : String)
      (backup : Backup) (old : ByteArray), settings.workspace.HoldsTarget cwd →
      tree.find cwd settings.workspace.targetPath = .ok (.file (.bytes old)) →
      carryOut cwd ((ofLayout settings.workspace).backupThenWrite iteration now text).run tree =
        (.ok backup, after) →
      after.find cwd settings.workspace.targetPath = .ok (.file (.ofText text)) ∧
        (ofLayout settings.workspace).Holds after cwd backup settings.workspace.targetPath old := by
  refine ⟨Settings.relocated_holdsTarget_iff accepted, ?_⟩
  intro cwd tree after iteration now text backup old ⟨rest, below, leads⟩ found done
  obtain ⟨saved, made, written⟩ := backupThenWrite_eq_ok_iff.mp done
  obtain ⟨-, -, there, -⟩ := FileTree.find_eq_file_iff.mp found
  rw [leads] at there
  obtain ⟨entries, archive, mem, apart⟩ := archived_of_inside made below there
  refine ⟨FileTree.find_of_write written, entries, rest, ?_, leads, mem⟩
  exact FileTree.find_of_write_beside archive written (leads.symm ▸ apart)

/-- A home directory with sources and a place for backups. -/
def homeTree : FileTree :=
  ⟨[("home", .directory
    [("src", .directory [("client.tsp", .file (.bytes ⟨#[111, 108, 100]⟩))]),
      ("backups", .directory [])])]⟩

/-- The default layout with another target file, and an endpoint. -/
def settingsFor (targetFile : String) : Settings :=
  { workspace := { targetFile }, worker := { endpoint := "http://localhost" } }

theorem settingsFor_workspace : ofLayout (settingsFor "client.tsp").workspace =
    ⟨⟨"./src"⟩, ⟨"./src/client.tsp"⟩, ⟨"./src/main.tsp"⟩, ⟨"./log"⟩, ⟨"./backups"⟩⟩ := by
  decide +kernel

theorem exists_backup_homeTree : ∃ after,
    carryOut ["home"] ((ofLayout (settingsFor "client.tsp").workspace).backupThenWrite 1 ⟨0, 0⟩
        "new").run homeTree =
      (.ok ⟨⟨"./backups/iteration-1-src-backup-19700101_000000_000.tar.gz"⟩, 1, ⟨0, 0⟩⟩, after) := by
  rw [settingsFor_workspace]
  have name : backupFile ⟨⟨"./src"⟩, ⟨"./src/client.tsp"⟩, ⟨"./src/main.tsp"⟩, ⟨"./log"⟩,
      ⟨"./backups"⟩⟩ 1 ⟨0, 0⟩ =
        ⟨"./backups/iteration-1-src-backup-19700101_000000_000.tar.gz"⟩ := by decide +kernel
  have backups : homeTree.findDirectory ["home"] ⟨"./backups"⟩ = .ok (["home", "backups"], _) :=
    FileTree.findDirectory_eq_ok_iff.mpr ⟨⟨by simp, by decide⟩, by decide, by decide, rfl⟩
  have sources : homeTree.findDirectory ["home"] ⟨"./src"⟩ = .ok (["home", "src"], _) :=
    FileTree.findDirectory_eq_ok_iff.mpr ⟨⟨by simp, by decide⟩, by decide, by decide, rfl⟩
  have target : homeTree.write ["home"] ⟨"./src/client.tsp"⟩ (.ofText "new") = .ok _ :=
    FileTree.write_eq_ok_iff.mpr ⟨⟨⟨⟨by simp, by decide⟩, by decide, by decide⟩,
      by decide +kernel, by decide⟩, rfl⟩
  have archive : homeTree.createNew ["home"]
      ⟨"./backups/iteration-1-src-backup-19700101_000000_000.tar.gz"⟩ = .ok _ :=
    FileTree.createNew_eq_ok_iff.mpr ⟨⟨⟨⟨by simp, by decide⟩, by decide, by decide⟩,
      by decide +kernel, rfl⟩, rfl⟩
  rw [← name] at archive ⊢
  exact exists_backupThenWrite backups archive sources target

/-- With the default names, the old text is in the archive when the new one is in its place. -/
theorem backup_covers_default_target :
    (∀ root sourceDir, ((settingsFor "client.tsp").relocated root sourceDir).check = .ok () →
      ∀ cwd, ((settingsFor "client.tsp").relocated root sourceDir).workspace.HoldsTarget cwd) ∧
    ∃ after backup, after.find ["home"] ⟨"./src/client.tsp"⟩ = .ok (.file (.ofText "new")) ∧
      (ofLayout (settingsFor "client.tsp").workspace).Holds after ["home"] backup
        ⟨"./src/client.tsp"⟩ ⟨#[111, 108, 100]⟩ := by
  have accepted : (settingsFor "client.tsp").check = .ok () := rfl
  obtain ⟨inside, covers⟩ := backup_covers_target accepted
  refine ⟨inside.mpr ⟨["client.tsp"], by decide, by decide⟩, ?_⟩
  have target : (settingsFor "client.tsp").workspace.targetPath = ⟨"./src/client.tsp"⟩ :=
    congrArg targetFile settingsFor_workspace
  obtain ⟨after, done⟩ := exists_backup_homeTree
  have held := inside.mpr ⟨["client.tsp"], by decide, by decide⟩ ⟨"."⟩ ⟨"src"⟩ rfl ["home"]
  have found : homeTree.find ["home"] ⟨"./src/client.tsp"⟩ =
      .ok (.file (.bytes ⟨#[111, 108, 100]⟩)) :=
    FileTree.find_eq_file_iff.mpr ⟨⟨by simp, by decide⟩, by decide, rfl, by decide +kernel⟩
  rw [target] at covers
  exact ⟨after, _, covers ["home"] homeTree after 1 ⟨0, 0⟩ "new" _ _ held found done⟩

/-- Settings are accepted whose target file lies next to the source directory. -/
theorem backup_misses_sibling_target :
    (settingsFor "../client.tsp").check = .ok () ∧
      ¬ (settingsFor "../client.tsp").workspace.HoldsTarget ["home"] := by
  refine ⟨rfl, fun ⟨rest, _, leads⟩ => ?_⟩
  have target : (settingsFor "../client.tsp").workspace.targetPath.routeFrom ["home"] =
      ["home", "client.tsp"] := by decide +kernel
  have source : (settingsFor "../client.tsp").workspace.sourcePath.routeFrom ["home"] =
      ["home", "src"] := by decide +kernel
  rw [target, source] at leads
  exact absurd leads (by simp)

end Workspace

end AzcRepair
