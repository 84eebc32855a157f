import AzcRepair.Proofs.Workspace.Coverage

/-!
# What a workspace does with its files

A workspace writes logs, makes backups and replaces the target file. The disk does what it is asked
for; it only refuses to make a file anew that is there.

* `FileTree.Grants` — all that a procedure asks of the disk is done.
* `Operation` — what a workspace does; `violations_done`, `buildLog_done`, `target_done` and
  `backup_done` say what becomes of all files.
* `GoesThrough` — all is done, and no directory comes or goes; `Ready.goesThrough` says where an
  operation does so.
-/

namespace AzcRepair

open FileTree (carryOut carryOut_bind)

/-! ## What the disk does

The disk is trusted with what it is asked for; whether a file has to be new is the one thing that
it may refuse. `Grants` says this of a procedure as a whole, along the answers that it gets. -/

namespace FileTree

/-- What is asked for is done, unless a file that has to be new is there. -/
def Granted (cwd : Route) (tree : FileTree) : Disk.Call → Prop
  | .write path text => ∃ after, tree.write cwd path (.ofText text) = .ok after
  | .makeDirectories path => ∃ after, tree.makeDirectories cwd path = .ok after
  | .archive path directory => ∃ after, tree.archive cwd path directory = (.ok (), after)
  | .copy source target => ∃ after, tree.copy cwd source target = .ok after
  | .createNew path =>
    (∃ content, tree.find cwd path = .ok (.file content)) ∨
      ∃ after, tree.createNew cwd path = .ok after
  | _ => True

/-- All that a procedure asks of the disk is done. -/
def Grants {α : Type} (cwd : Route) : Procedure Disk.Call Disk.Answer α → FileTree → Prop
  | .done _, _ => True
  | .call c next, tree =>
    tree.Granted cwd c ∧ Grants cwd (next (tree.perform cwd c).1) (tree.perform cwd c).2

variable {cwd : Route} {tree after : FileTree} {path : Path} {α β : Type}

theorem grants_bind (work : Procedure Disk.Call Disk.Answer α)
    (next : α → Procedure Disk.Call Disk.Answer β) :
    Grants cwd (work >>= next) tree ↔ Grants cwd work tree ∧
      Grants cwd (next (carryOut cwd work tree).1) (carryOut cwd work tree).2 := by
  -- the induction is on the requests of the first part; the tree goes along with them
  induction work generalizing tree with
  | done value => exact (true_and _).to_iff.symm
  | call c rest ih =>
    rw [Procedure.call_bind]
    exact (and_congr_right fun _ => ih _).trans and_assoc.symm

theorem createNew_of_find {content : FileContent}
    (there : tree.find cwd path = .ok (.file content)) :
    tree.createNew cwd path = .error .alreadyExists := by
  obtain ⟨hfit, hwalkable, hfile, hslash⟩ := find_eq_file_iff.mp there
  have hplace : tree.resolve cwd path = .ok (tree.placeOf cwd path) :=
    resolve_eq_ok_iff.mpr ⟨hfit, hwalkable, rfl⟩
  have hnode := file?_eq_some_iff.mp hfile
  unfold createNew
  rw [hplace]
  simp only [placeOf, hnode, hslash]
  cases path.steps.getLast?.any Path.goesDown <;> rfl

theorem file?_write {content : FileContent} (written : tree.write cwd path content = .ok after) :
    after.file? = Function.update tree.file? (path.routeFrom cwd) (some content) := by
  funext other
  rw [(write_changes written).1, Function.update_apply]

end FileTree

open FileTree (Grants Granted)

namespace Workspace

variable {workspace : Workspace} {cwd : Route} {tree after : FileTree} {α : Type}

section

variable {path : Path} {request : Procedure Disk.Call Disk.Answer (Except OsError Unit)}
  {next : Unit → Action α} {middle : FileTree}

theorem blame_bind_run : (blame path request >>= next).run = request >>= fun
    | .ok () => (next ()).run
    | .error error => .done (.error ⟨path, error⟩) := by
  rw [ExceptT.run_bind]
  change (request >>= _) >>= _ = _
  rw [Procedure.bind_assoc]
  congr 1
  funext answer
  cases answer <;> rfl

/-- When the first request of an action succeeds, the action goes on. -/
theorem carryOut_blame_ok (h : carryOut cwd request tree = (.ok (), middle)) :
    carryOut cwd (blame path request >>= next).run tree = carryOut cwd (next ()).run middle := by
  rw [blame_bind_run, carryOut_bind, h]

/-- When it is refused, the action ends with the path. -/
theorem carryOut_blame_error {error : OsError}
    (h : carryOut cwd request tree = (.error error, middle)) :
    carryOut cwd (blame path request >>= next).run tree = (.error ⟨path, error⟩, middle) := by
  rw [blame_bind_run, carryOut_bind, h]
  rfl

theorem grants_blame :
    Grants cwd (blame path request >>= next).run tree ↔
      Grants cwd request tree ∧ ∀ middle, carryOut cwd request tree = (.ok (), middle) →
        Grants cwd (next ()).run middle := by
  rw [blame_bind_run, FileTree.grants_bind]
  refine and_congr_right fun _ => ?_
  generalize carryOut cwd request tree = asked
  obtain ⟨answer, middle⟩ := asked
  cases answer with
  | error error =>
    refine ⟨fun _ _ h => ?_, fun _ => trivial⟩
    cases h
  | ok value =>
    refine ⟨fun hnext _ h => ?_, fun hnext => hnext middle rfl⟩
    cases h
    exact hnext

end

/-! ## What each request does

One lemma for each kind of request, in front of the rest of an action. With them an action is gone
through from its first request to its last. -/

section

variable {path : Path} {next : Unit → Action α}

/-- A request that changes the tree, or is refused and leaves it alone. -/
theorem grants_attempt {request : Procedure Disk.Call Disk.Answer (Except OsError Unit)}
    {update : Except OsError FileTree} (does : carryOut cwd request tree = tree.attempt update)
    (granted : Grants cwd request tree ↔ ∃ after, update = .ok after) :
    Grants cwd (blame path request >>= next).run tree ↔
      ∃ after, update = .ok after ∧ Grants cwd (next ()).run after := by
  rw [grants_blame, does, granted]
  constructor
  · intro ⟨⟨after, hafter⟩, hnext⟩
    exact ⟨after, hafter, hnext after (attempt_eq_ok_iff.mpr hafter)⟩
  · intro ⟨after, hafter, hnext⟩
    refine ⟨⟨after, hafter⟩, fun middle h => ?_⟩
    cases hafter.symm.trans (attempt_eq_ok_iff.mp h)
    exact hnext

theorem grants_write {text : String} :
    Grants cwd (write path text >>= next).run tree ↔
      ∃ after, tree.write cwd path (.ofText text) = .ok after ∧ Grants cwd (next ()).run after :=
  grants_attempt rfl (and_true _).to_iff

theorem grants_makeDirectories :
    Grants cwd (makeDirectories path >>= next).run tree ↔
      ∃ after, tree.makeDirectories cwd path = .ok after ∧ Grants cwd (next ()).run after :=
  grants_attempt rfl (and_true _).to_iff

theorem carryOut_write {text : String} (h : tree.write cwd path (.ofText text) = .ok after) :
    carryOut cwd (write path text >>= next).run tree = carryOut cwd (next ()).run after :=
  carryOut_blame_ok (attempt_eq_ok_iff.mpr h)

theorem carryOut_makeDirectories (h : tree.makeDirectories cwd path = .ok after) :
    carryOut cwd (makeDirectories path >>= next).run tree = carryOut cwd (next ()).run after :=
  carryOut_blame_ok (attempt_eq_ok_iff.mpr h)

end

/-! ## Operations

Each operation is a few requests in a row, and the first one that is refused ends it. -/

/-- What a workspace does with its files. -/
inductive Operation where
  | backup (iteration : UInt32) (now : Instant)
  | violations (text : String) (now : Instant)
  | buildLog (text : String)
  | target (text : String)

/-- Only the failure of an operation counts. -/
def Operation.action (workspace : Workspace) : Operation → Action Unit
  | backup iteration now => do let _ ← workspace.createBackup iteration now
  | violations text now => do let _ ← workspace.persistViolations text now
  | buildLog text => do let _ ← workspace.persistBuildLog text
  | target text => workspace.writeTarget text

theorem action_violations (text : String) (now : Instant) :
    (Operation.violations text now).action workspace =
      makeDirectories workspace.logDir >>= fun _ => write workspace.violationLog text >>=
        fun _ => write (workspace.violationSnapshot now) text >>= fun _ => pure () := by
  simp only [Operation.action, persistViolations, bind_assoc, pure_bind]

theorem action_buildLog (text : String) :
    (Operation.buildLog text).action workspace =
      makeDirectories workspace.logDir >>= fun _ => write workspace.buildLog text >>=
        fun _ => pure () := by
  simp only [Operation.action, persistBuildLog, bind_assoc, pure_bind]

theorem action_target (text : String) :
    (Operation.target text).action workspace = write workspace.targetFile text >>= fun _ => pure () :=
  (bind_pure _).symm

theorem action_backup (iteration : UInt32) (now : Instant) :
    (Operation.backup iteration now).action workspace =
      makeDirectories workspace.backupDir >>= fun _ =>
        blame (workspace.backupFile iteration now)
            (Disk.ask (.createNew (workspace.backupFile iteration now))) >>= fun _ =>
          blame (workspace.backupFile iteration now)
              (Disk.ask (.archive (workspace.backupFile iteration now) workspace.sourceDir)) >>=
            fun _ => pure () := by
  simp only [Operation.action, createBackup, bind_assoc, pure_bind]

/-! ## What each operation does

Making directories changes no file, so the effect of an operation is that of its writes. -/

theorem violations_done {text : String} {now : Instant}
    (granted : Grants cwd ((Operation.violations text now).action workspace).run tree) :
    ∃ after, carryOut cwd ((Operation.violations text now).action workspace).run tree =
        (.ok (), after) ∧
      after.file? = Function.update (Function.update tree.file?
        (workspace.violationLog.routeFrom cwd) (some (.ofText text)))
        ((workspace.violationSnapshot now).routeFrom cwd) (some (.ofText text)) := by
  rw [action_violations] at granted ⊢
  obtain ⟨ready, hready, granted⟩ := grants_makeDirectories.mp granted
  obtain ⟨logged, hlogged, granted⟩ := grants_write.mp granted
  obtain ⟨copied, hcopied, -⟩ := grants_write.mp granted
  refine ⟨copied, ?_, ?_⟩
  · rw [carryOut_makeDirectories hready, carryOut_write hlogged, carryOut_write hcopied]
    rfl
  · rw [FileTree.file?_write hcopied, FileTree.file?_write hlogged,
      (FileTree.makeDirectoriesAlong_keeps hready).1]

theorem buildLog_done {text : String}
    (granted : Grants cwd ((Operation.buildLog text).action workspace).run tree) :
    ∃ after, carryOut cwd ((Operation.buildLog text).action workspace).run tree =
        (.ok (), after) ∧
      after.file? = Function.update tree.file? (workspace.buildLog.routeFrom cwd)
        (some (.ofText text)) := by
  rw [action_buildLog] at granted ⊢
  obtain ⟨ready, hready, granted⟩ := grants_makeDirectories.mp granted
  obtain ⟨logged, hlogged, -⟩ := grants_write.mp granted
  refine ⟨logged, ?_, ?_⟩
  · rw [carryOut_makeDirectories hready, carryOut_write hlogged]
    rfl
  · rw [FileTree.file?_write hlogged, (FileTree.makeDirectoriesAlong_keeps hready).1]

theorem target_done {text : String}
    (granted : Grants cwd ((Operation.target text).action workspace).run tree) :
    ∃ after, carryOut cwd ((Operation.target text).action workspace).run tree = (.ok (), after) ∧
      after.file? = Function.update tree.file? (workspace.targetFile.routeFrom cwd)
        (some (.ofText text)) := by
  rw [action_target] at granted ⊢
  obtain ⟨written, hwritten, -⟩ := grants_write.mp granted
  refine ⟨written, ?_, FileTree.file?_write hwritten⟩
  rw [carryOut_write hwritten]
  rfl

/-- A backup is refused where a file is, and changes none; where no file is, it adds one. -/
theorem backup_done {iteration : UInt32} {now : Instant}
    (granted : Grants cwd ((Operation.backup iteration now).action workspace).run tree) :
    ∃ result after, carryOut cwd ((Operation.backup iteration now).action workspace).run tree =
        (result, after) ∧
      (tree.file? ((workspace.backupFile iteration now).routeFrom cwd) ≠ none ∧
          result = .error ⟨workspace.backupFile iteration now, .alreadyExists⟩ ∧
          after.file? = tree.file? ∨
        tree.file? ((workspace.backupFile iteration now).routeFrom cwd) = none ∧
          result = .ok () ∧ ∃ entries, after.file? = Function.update tree.file?
            ((workspace.backupFile iteration now).routeFrom cwd) (some (.archive entries))) := by
  rw [action_backup] at granted ⊢
  obtain ⟨ready, hready, granted⟩ := grants_makeDirectories.mp granted
  rw [carryOut_makeDirectories hready]
  rw [← (FileTree.makeDirectoriesAlong_keeps hready).1]
  generalize workspace.backupFile iteration now = path at granted ⊢
  obtain ⟨⟨hnew, -⟩, granted⟩ := grants_blame.mp granted
  -- only a file that is there may be in the way of a new one
  rcases hnew with ⟨content, hthere⟩ | ⟨fresh, hfresh⟩
  · have hrefused : carryOut cwd (Disk.ask (.createNew path)) ready =
        (.error .alreadyExists, ready) := by
      change ready.attempt (ready.createNew cwd path) = _
      rw [FileTree.createNew_of_find hthere]
      rfl
    obtain ⟨-, -, hfile, -⟩ := FileTree.find_eq_file_iff.mp hthere
    refine ⟨_, ready, carryOut_blame_error hrefused, .inl ⟨?_, rfl, rfl⟩⟩
    rw [hfile]
    exact Option.some_ne_none content
  · have hmade : carryOut cwd (Disk.ask (.createNew path)) ready = (.ok (), fresh) :=
      attempt_eq_ok_iff.mpr hfresh
    obtain ⟨⟨⟨after, harchive⟩, -⟩, -⟩ := grants_blame.mp (granted fresh hmade)
    have hfilled : carryOut cwd (Disk.ask (.archive path workspace.sourceDir)) fresh =
        (.ok (), after) := harchive
    obtain ⟨⟨-, -, hnothing⟩, -⟩ := FileTree.createNew_eq_ok_iff.mp hfresh
    have hnone : ready.file? (path.routeFrom cwd) = none := by
      rw [FileTree.file?, hnothing]
    have hempty : fresh.file? =
        Function.update ready.file? (path.routeFrom cwd) (some (.bytes ByteArray.empty)) := by
      funext other
      rw [(FileTree.createNew_changes hfresh).1, Function.update_apply]
    -- the archive takes the place of the empty file that was made for it
    obtain ⟨_, entries, -, -, hwritten⟩ := FileTree.archive_changes harchive
    refine ⟨.ok (), after, ?_, .inr ⟨hnone, rfl, ?_⟩⟩
    · rw [carryOut_blame_ok hmade, carryOut_blame_ok hfilled]
      rfl
    · exact ⟨_, by rw [FileTree.file?_write hwritten, hempty, Function.update_idem]⟩

end Workspace

/-! ## Where an operation goes through

That the disk does what it is asked for need not be assumed: where the directories are there and
the files can be written, it does. No operation takes a directory away, so this holds again behind
each of them. -/

namespace FileTree

/-- A file can be written where the path leads. -/
def Writable (tree : FileTree) (cwd : Route) (path : Path) : Prop :=
  ∃ after, tree.write cwd path (.bytes ByteArray.empty) = .ok after

variable {cwd : Route} {tree after : FileTree} {path : Path}

theorem Writable.write (h : tree.Writable cwd path) (content : FileContent) :
    ∃ after, tree.write cwd path content = .ok after := by
  obtain ⟨after, hwritten⟩ := h
  exact write_again hwritten content

theorem writable_iff : tree.Writable cwd path ↔ tree.Reaches cwd path ∧
    path.text.endsWith "/" = false ∧ ¬ tree.HasDirectory (path.routeFrom cwd) := by
  unfold Writable
  simp only [write_eq_ok_iff, exists_and_left, exists_eq, and_true]

/-- Where a file can be written there is one, or it can be made anew. -/
theorem Writable.find_or_createNew (h : tree.Writable cwd path) :
    (∃ content, tree.find cwd path = .ok (.file content)) ∨
      ∃ after, tree.createNew cwd path = .ok after := by
  obtain ⟨hreaches, hslash, hfree⟩ := writable_iff.mp h
  -- there is nothing, or a file; a directory could not be written
  cases hnode : tree.root.get? (path.routeFrom cwd) with
  | none => exact .inr ⟨_, createNew_eq_ok_iff.mpr ⟨⟨hreaches, hslash, hnode⟩, rfl⟩⟩
  | some node =>
    cases node with
    | directory entries => exact absurd ⟨entries, hnode⟩ hfree
    | file content =>
      have hfile := file?_eq_some_iff.mpr hnode
      exact .inl ⟨content, find_eq_file_iff.mpr ⟨hreaches.fit, hreaches.walkable, hfile, hslash⟩⟩

theorem SameDirectories.writable (same : tree.SameDirectories after)
    (h : tree.Writable cwd path) : after.Writable cwd path := by
  obtain ⟨last, hwritten⟩ := h
  exact same.write hwritten _

theorem SameDirectories.refl (tree : FileTree) : tree.SameDirectories tree :=
  fun _ => Iff.rfl

theorem SameDirectories.trans {last : FileTree} (first : tree.SameDirectories after)
    (second : after.SameDirectories last) : tree.SameDirectories last :=
  fun route => (second route).trans (first route)

/-- All that a procedure asks for is done, and no directory comes or goes. -/
def GoesThrough {α : Type} (cwd : Route) (work : Procedure Disk.Call Disk.Answer α)
    (tree : FileTree) : Prop :=
  Grants cwd work tree ∧ tree.SameDirectories (carryOut cwd work tree).2

end FileTree

open FileTree (GoesThrough)

namespace Workspace

variable {workspace : Workspace} {cwd : Route} {tree after : FileTree} {α : Type}

section

variable {path : Path} {next : Unit → Action α}
  {request : Procedure Disk.Call Disk.Answer (Except OsError Unit)}

theorem goesThrough_blame (first : GoesThrough cwd request tree)
    (onward : ∀ middle, carryOut cwd request tree = (.ok (), middle) →
      tree.SameDirectories middle → GoesThrough cwd (next ()).run middle) :
    GoesThrough cwd (blame path request >>= next).run tree := by
  obtain ⟨hgrants, hsame⟩ := first
  cases hanswer : carryOut cwd request tree with
  | mk answer middle =>
    rw [hanswer] at hsame
    cases answer with
    | error error =>
      refine ⟨grants_blame.mpr ⟨hgrants, fun _ h => ?_⟩, ?_⟩
      · rw [hanswer] at h
        cases h
      · rwa [carryOut_blame_error hanswer]
    | ok value =>
      have hnext := onward middle hanswer hsame
      refine ⟨grants_blame.mpr ⟨hgrants, fun _ h => ?_⟩, ?_⟩
      · rw [hanswer] at h
        cases h
        exact hnext.1
      · rw [carryOut_blame_ok hanswer]
        exact hsame.trans hnext.2

theorem goesThrough_pure (value : α) : GoesThrough cwd (pure value : Action α).run tree :=
  ⟨trivial, .refl tree⟩

theorem goesThrough_makeDirectories {route : Route} {entries : List (String × FileNode)}
    (there : tree.findDirectory cwd path = .ok (route, entries))
    (onward : GoesThrough cwd (next ()).run tree) :
    GoesThrough cwd (makeDirectories path >>= next).run tree := by
  have hkept := FileTree.makeDirectories_of_findDirectory there
  have hdone : carryOut cwd (Disk.ask (.makeDirectories path)) tree = (.ok (), tree) :=
    attempt_eq_ok_iff.mpr hkept
  refine goesThrough_blame ⟨⟨⟨tree, hkept⟩, trivial⟩, ?_⟩ fun middle h _ => ?_
  · rw [hdone]
    exact .refl tree
  · cases hdone.symm.trans h
    exact onward

theorem goesThrough_write {text : String} (writable : tree.Writable cwd path)
    (onward : ∀ after, tree.SameDirectories after → GoesThrough cwd (next ()).run after) :
    GoesThrough cwd (write path text >>= next).run tree := by
  obtain ⟨after, hwritten⟩ := writable.write (.ofText text)
  have hdone : carryOut cwd (Disk.ask (.write path text)) tree = (.ok (), after) :=
    attempt_eq_ok_iff.mpr hwritten
  refine goesThrough_blame ⟨⟨⟨after, hwritten⟩, trivial⟩, ?_⟩ fun middle _ => onward middle
  rw [hdone]
  exact (FileTree.write_changes hwritten).2

end

/-- The files that an operation may change. -/
def Operation.paths (workspace : Workspace) : Operation → List Path
  | backup iteration now => [workspace.backupFile iteration now]
  | violations _ now => [workspace.violationLog, workspace.violationSnapshot now]
  | buildLog _ => [workspace.buildLog]
  | target _ => [workspace.targetFile]

/-- The directories of the workspace are there, and the files of the operations can be written. -/
structure Ready (workspace : Workspace) (cwd : Route) (tree : FileTree)
    (operations : List Operation) : Prop where
  logDir : ∃ route entries, tree.findDirectory cwd workspace.logDir = .ok (route, entries)
  backupDir : ∃ route entries, tree.findDirectory cwd workspace.backupDir = .ok (route, entries)
  sourceDir : ∃ route entries, tree.findDirectory cwd workspace.sourceDir = .ok (route, entries)
  files : ∀ operation ∈ operations, ∀ path ∈ operation.paths workspace, tree.Writable cwd path

theorem Ready.behind {operation : Operation} {operations : List Operation}
    (ready : workspace.Ready cwd tree (operation :: operations))
    (same : tree.SameDirectories after) : workspace.Ready cwd after operations := by
  obtain ⟨⟨_, _, hlogs⟩, ⟨_, _, hbackups⟩, ⟨_, _, hsources⟩, hfiles⟩ := ready
  refine ⟨⟨_, same.findDirectory hlogs⟩, ⟨_, same.findDirectory hbackups⟩,
    ⟨_, same.findDirectory hsources⟩, fun operation hoperation path hpath => ?_⟩
  exact same.writable (hfiles operation (List.mem_cons_of_mem _ hoperation) path hpath)

/-- In a workspace that is ready every operation goes through. -/
theorem Ready.goesThrough {operation : Operation} {operations : List Operation}
    (ready : workspace.Ready cwd tree (operation :: operations)) :
    GoesThrough cwd (operation.action workspace).run tree := by
  obtain ⟨⟨_, _, hlogs⟩, ⟨_, _, hbackups⟩, ⟨_, _, hsources⟩, hfiles⟩ := ready
  have hfiles := hfiles operation List.mem_cons_self
  cases operation with
  | backup iteration now =>
    rw [action_backup]
    refine goesThrough_makeDirectories hbackups ?_
    have hnew := (hfiles _ List.mem_cons_self).find_or_createNew
    generalize workspace.backupFile iteration now = path at hnew ⊢
    refine goesThrough_blame ⟨⟨hnew, trivial⟩, ?_⟩ fun fresh hfresh hsame => ?_
    · change tree.SameDirectories (tree.attempt (tree.createNew cwd path)).2
      cases hmade : tree.createNew cwd path with
      | error error => exact .refl tree
      | ok fresh => exact (FileTree.createNew_changes hmade).2
    · have hmade := attempt_eq_ok_iff.mp hfresh
      obtain ⟨_, hsources⟩ := hsame.findDirectory hsources
      obtain ⟨filled, harchive⟩ := FileTree.exists_archive hmade hsources
      obtain ⟨_, _, -, -, hwritten⟩ := FileTree.archive_changes harchive
      have hdone : carryOut cwd (Disk.ask (.archive path workspace.sourceDir)) fresh =
          (.ok (), filled) := harchive
      refine goesThrough_blame ⟨⟨⟨filled, harchive⟩, trivial⟩, ?_⟩ fun _ _ _ => goesThrough_pure ()
      rw [hdone]
      exact (FileTree.write_changes hwritten).2
  | violations text now =>
    rw [action_violations]
    refine goesThrough_makeDirectories hlogs ?_
    refine goesThrough_write (hfiles _ List.mem_cons_self) fun logged hsame => ?_
    have hcopy := hfiles _ (List.mem_cons_of_mem _ List.mem_cons_self)
    exact goesThrough_write (hsame.writable hcopy) fun _ _ => goesThrough_pure ()
  | buildLog text =>
    rw [action_buildLog]
    refine goesThrough_makeDirectories hlogs ?_
    exact goesThrough_write (hfiles _ List.mem_cons_self) fun _ _ => goesThrough_pure ()
  | target text =>
    rw [action_target]
    exact goesThrough_write (hfiles _ List.mem_cons_self) fun _ _ => goesThrough_pure ()

end Workspace

end AzcRepair
