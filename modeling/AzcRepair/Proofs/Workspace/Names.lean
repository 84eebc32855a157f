import AzcRepair.Proofs.Calendar.Stamp
import AzcRepair.Proofs.FileTree.Route
import AzcRepair.Workspace

/-!
# The files of a workspace are different ones

The logs, the snapshots of the violation log and the backups are named below two directories, which
may be any, also the same. Their names alone tell them apart.

* `snapshotName_inj`, `backupName_inj` — what can be read off a name.
* `Kept` — these files, with the directory and the name of each; `Kept.route` says where they lie.
* `Kept.same_of_route` — files that lie in one place are of one kind, one iteration and one
  millisecond.
-/

namespace AzcRepair.Workspace

open Text (parts_inj decimal_inj isDigit_of_mem_digits)

/-! ## Names

Names are put together of fixed pieces, a number and a stamp. Pieces of a fixed length and a mark
between the others make it possible to read the number and the stamp back. -/

def snapshotName (now : Instant) : String :=
  "azc-errors-" ++ now.stamp ++ ".txt"

def backupName (iteration : UInt32) (now : Instant) : String :=
  "iteration-" ++ Text.decimal iteration.toNat ++ "-src-backup-" ++ now.stamp ++ ".tar.gz"

theorem snapshotName_toList (now : Instant) :
    (snapshotName now).toList = "azc-errors-".toList ++ (now.stamp.toList ++ ".txt".toList) := by
  simp [snapshotName]

theorem backupName_toList (iteration : UInt32) (now : Instant) :
    (backupName iteration now).toList =
      "iteration-".toList ++ (Text.digits iteration.toNat ++
        '-' :: ("src-backup-".toList ++ (now.stamp.toList ++ ".tar.gz".toList))) := by
  simp [backupName, Text.decimal]

theorem snapshotName_inj {one other : Instant} (h : snapshotName one = snapshotName other) :
    one.stamp = other.stamp := by
  have hlists := congrArg String.toList h
  rw [snapshotName_toList, snapshotName_toList] at hlists
  exact String.toList_inj.mp (List.append_cancel_right (List.append_cancel_left hlists))

theorem backupName_inj {one other : UInt32} {now now' : Instant}
    (h : backupName one now = backupName other now') : one = other ∧ now.stamp = now'.stamp := by
  have hlists := congrArg String.toList h
  rw [backupName_toList, backupName_toList] at hlists
  have hdash (n : Nat) : '-' ∉ Text.digits n := fun mem => by cases isDigit_of_mem_digits mem
  obtain ⟨hdigits, hrest⟩ := parts_inj (hdash _) (hdash _) (List.append_cancel_left hlists)
  have hnumber : one.toNat = other.toNat := decimal_inj (congrArg String.ofList hdigits)
  have hstamps := List.append_cancel_right (List.append_cancel_left hrest)
  exact ⟨UInt32.toNat_inj.mp hnumber, String.toList_inj.mp hstamps⟩

/-! ## Places

All kept files lie right below one of two directories, so two of them lie in one place only if
they have the same name. -/

/-- A file that a workspace keeps for later. -/
inductive Kept where
  | violationLog
  | violationSnapshot (now : Instant)
  | buildLog
  | backup (iteration : UInt32) (now : Instant)

namespace Kept

def path (workspace : Workspace) : Kept → Path
  | violationLog => workspace.violationLog
  | violationSnapshot now => workspace.violationSnapshot now
  | buildLog => workspace.buildLog
  | backup iteration now => workspace.backupFile iteration now

def directory (workspace : Workspace) : Kept → Path
  | backup .. => workspace.backupDir
  | _ => workspace.logDir

def name : Kept → String
  | violationLog => "azc-errors.txt"
  | violationSnapshot now => snapshotName now
  | buildLog => "build-output.log"
  | backup iteration now => backupName iteration now

theorem path_eq (workspace : Workspace) (file : Kept) :
    file.path workspace = file.directory workspace / file.name := by
  cases file <;> rfl

theorem slash_notMem_name (file : Kept) : '/' ∉ file.name.toList := by
  cases file with
  | violationLog | buildLog => decide
  | violationSnapshot now =>
    rw [name, snapshotName_toList]
    simp [now.slash_notMem_stamp]
  | backup iteration now =>
    have hdigits : '/' ∉ Text.digits iteration.toNat := fun mem => by
      cases isDigit_of_mem_digits mem
    rw [name, backupName_toList]
    simp [now.slash_notMem_stamp, hdigits]

/-- What tells the kinds of files apart in their names: the first character, or the one behind
`azc-errors`. -/
def mark (name : String) : Option Char :=
  if name.toList.head? = some 'a' then name.toList[10]? else name.toList.head?

theorem mark_name (file : Kept) : mark file.name = some (match file with
    | violationLog => '.'
    | violationSnapshot _ => '-'
    | buildLog => 'b'
    | backup .. => 'i') := by
  cases file with
  | violationLog | buildLog => rfl
  | violationSnapshot now =>
    rw [mark, name, snapshotName_toList]
    rfl
  | backup iteration now =>
    rw [mark, name, backupName_toList]
    rfl

variable {workspace : Workspace} {cwd : Route} {one other : Kept}

/-- Every name begins with a letter. -/
theorem dot_ne_head (file : Kept) :
    ∃ first, file.name.toList.head? = some first ∧ first ≠ '.' := by
  cases file with
  | violationLog => exact ⟨'a', rfl, by decide⟩
  | violationSnapshot now =>
    rw [name, snapshotName_toList]
    exact ⟨'a', rfl, by decide⟩
  | buildLog => exact ⟨'b', rfl, by decide⟩
  | backup iteration now =>
    rw [name, backupName_toList]
    exact ⟨'i', rfl, by decide⟩

theorem route (file : Kept) : (file.path workspace).routeFrom cwd =
    (file.directory workspace).routeFrom cwd ++ [file.name] := by
  obtain ⟨first, hfirst, hdot⟩ := file.dot_ne_head
  have hne {other : String} (hother : other.toList.head? ≠ some first) : file.name ≠ other :=
    fun h => hother (h ▸ hfirst)
  have hempty : file.name ≠ "" := hne (by simp)
  have hsingle : file.name ≠ "." := hne (by simpa using hdot.symm)
  have hdouble : file.name ≠ ".." := hne (by simpa using hdot.symm)
  rw [path_eq]
  exact Path.routeFrom_name file.slash_notMem_name hempty hsingle hdouble _ cwd

/-- The files are of one kind, one iteration and one millisecond. -/
inductive Same : Kept → Kept → Prop where
  | violationLog : Same violationLog violationLog
  | violationSnapshot {one other : Instant} (time : one.toMillis = other.toMillis) :
      Same (violationSnapshot one) (violationSnapshot other)
  | buildLog : Same buildLog buildLog
  | backup (iteration : UInt32) {one other : Instant} (time : one.toMillis = other.toMillis) :
      Same (backup iteration one) (backup iteration other)

theorem same_of_name (h : one.name = other.name) : Same one other := by
  have hmark := congrArg mark h
  rw [mark_name, mark_name] at hmark
  -- the marks of different kinds are different characters
  cases one with
  | violationLog =>
    cases other with
    | violationLog => exact .violationLog
    | violationSnapshot | buildLog | backup => cases hmark
  | violationSnapshot now =>
    cases other with
    | violationSnapshot now' => exact .violationSnapshot (Instant.stamp_inj (snapshotName_inj h))
    | violationLog | buildLog | backup => cases hmark
  | buildLog =>
    cases other with
    | buildLog => exact .buildLog
    | violationLog | violationSnapshot | backup => cases hmark
  | backup iteration now =>
    cases other with
    | backup iteration' now' =>
      obtain ⟨rfl, hstamp⟩ := backupName_inj h
      exact .backup iteration (Instant.stamp_inj hstamp)
    | violationLog | violationSnapshot | buildLog => cases hmark

/-- Files that lie in one place are the same. -/
theorem same_of_route
    (h : (one.path workspace).routeFrom cwd = (other.path workspace).routeFrom cwd) :
    Same one other := by
  rw [route, route] at h
  exact same_of_name (List.append_singleton_inj.mp h).2

end Kept

end AzcRepair.Workspace
