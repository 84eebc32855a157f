import AzcRepair.Proofs.Settings.Reading

/-!
# The sections of settings

Every section is read so that at the path to each of its settings there stands what was written.

* `Settings.paths` — the paths to all settings.
* `Settings.sound` — what stands there in settings that were read, put together from the sections.
-/

namespace AzcRepair.Settings

open Json (Field member? names)

variable {value : Json}

def Layout.paths : List (List Step) :=
  pathsInto Layout.fieldNames fun _ => here

theorem Layout.sound : Sound (prepareRecord Layout.fieldNames fun _ value => value) Layout.ofJson?
    Layout.toJson {} Layout.paths := by
  intro value layout read
  obtain ⟨fields, record, read⟩ := Option.bind_eq_some_iff.mp read
  split at read
  · dsimp only [Option.bind_eq_bind] at read
    simp only [↓Option.bind_eq_some_iff, Option.pure_def, Option.some.injEq] at read
    obtain ⟨_, root, _, source, _, target, _, main, _, helper, _, output, _, log, _, backup, _,
      template, _, feed, rfl⟩ := read
    -- all fields of this section are plain values
    refine stands_record (by decide) record ?_
    exact ⟨stands_leaf rfl rfl (faithful_path.stands root),
      stands_leaf rfl rfl (faithful_path.stands source),
      stands_leaf rfl rfl (faithful_string.stands target),
      stands_leaf rfl rfl (faithful_string.stands main),
      stands_leaf rfl rfl (faithful_path.stands helper),
      stands_leaf rfl rfl (faithful_path.stands output),
      stands_leaf rfl rfl (faithful_path.stands log),
      stands_leaf rfl rfl (faithful_path.stands backup),
      stands_leaf rfl rfl (faithful_string.stands template),
      stands_leaf rfl rfl (faithful_string.stands feed), trivial⟩
  · cases read

def Commands.paths : List (List Step) :=
  pathsInto Commands.fieldNames fun _ => here

theorem Commands.sound : Sound (prepareRecord Commands.fieldNames fun _ value => value)
    Commands.ofJson? Commands.toJson {} Commands.paths := by
  intro value commands read
  obtain ⟨fields, record, read⟩ := Option.bind_eq_some_iff.mp read
  split at read
  · dsimp only [Option.bind_eq_bind] at read
    simp only [↓Option.bind_eq_some_iff, Option.pure_def, Option.some.injEq] at read
    obtain ⟨_, compile, _, compileArgs, _, build, _, buildArgs, rfl⟩ := read
    refine stands_record (by decide) record ?_
    exact ⟨stands_leaf rfl rfl (faithful_string.stands compile),
      stands_leaf rfl rfl (faithful_texts.stands compileArgs),
      stands_leaf rfl rfl (faithful_string.stands build),
      stands_leaf rfl rfl (faithful_texts.stands buildArgs), trivial⟩
  · cases read

/-! ## The worker

The worker has two sections of its own, and a key that is not written at all when there is none.
-/

def Auth.paths : List (List Step) :=
  pathsInto Auth.fieldNames fun _ => here

theorem Auth.sound : Sound prepareAuth Auth.ofJson? Auth.toJson {} Auth.paths := by
  intro value auth read
  obtain ⟨fields, record, read⟩ := Option.bind_eq_some_iff.mp read
  split at read
  · dsimp only [Option.bind_eq_bind] at read
    simp only [↓Option.bind_eq_some_iff, Option.pure_def, Option.some.injEq] at read
    obtain ⟨_, method, _, program, _, resource, _, margin, rfl⟩ := read
    refine stands_record (by decide) record ?_
    exact ⟨stands_method rfl rfl rfl rfl method,
      stands_leaf rfl rfl (faithful_string.stands program),
      stands_leaf rfl rfl (faithful_string.stands resource),
      stands_leaf rfl rfl (faithful_word32.stands margin), trivial⟩
  · cases read

def Retry.paths : List (List Step) :=
  pathsInto Retry.fieldNames fun _ => here

theorem Retry.sound : Sound (prepareRecord Retry.fieldNames fun _ value => value) Retry.ofJson?
    Retry.toJson {} Retry.paths := by
  intro value retry read
  obtain ⟨fields, record, read⟩ := Option.bind_eq_some_iff.mp read
  split at read
  · dsimp only [Option.bind_eq_bind] at read
    simp only [↓Option.bind_eq_some_iff, Option.pure_def, Option.some.injEq] at read
    obtain ⟨_, retries, _, initial, _, max, rfl⟩ := read
    refine stands_record (by decide) record ?_
    exact ⟨stands_leaf rfl rfl (faithful_word32.stands retries),
      stands_leaf rfl rfl (faithful_word64.stands initial),
      stands_leaf rfl rfl (faithful_word64.stands max), trivial⟩
  · cases read

def Worker.paths : List (List Step) :=
  pathsInto Worker.fieldNames fun
    | "auth" => Auth.paths
    | "retry" => Retry.paths
    | _ => here

theorem Worker.sound : Sound prepareWorker Worker.ofJson? Worker.toJson {} Worker.paths := by
  intro value worker read
  obtain ⟨fields, record, read⟩ := Option.bind_eq_some_iff.mp read
  split at read
  · dsimp only [Option.bind_eq_bind] at read
    simp only [↓Option.bind_eq_some_iff, Option.pure_def, Option.some.injEq] at read
    obtain ⟨_, endpoint, _, version, key, keyed, auth, authed, _, model, _, agent, _, interval, _,
      polls, _, delay, _, retries, _, timeout, _, purge, retry, retried, rfl⟩ := read
    refine stands_record (by decide) record ?_
    -- a key that is missing is left out, so the members behind it are found in two ways
    cases key <;>
      exact ⟨stands_leaf rfl rfl (faithful_string.stands endpoint),
        stands_leaf rfl rfl (faithful_string.stands version),
        stands_leaf rfl rfl (faithful_string.stands_optional keyed),
        Auth.sound.below rfl rfl rfl rfl authed,
        stands_leaf rfl rfl (faithful_string.stands model),
        stands_leaf rfl rfl (faithful_string.stands agent),
        stands_leaf rfl rfl (faithful_word64.stands interval),
        stands_leaf rfl rfl (faithful_word32.stands polls),
        stands_leaf rfl rfl (faithful_word64.stands delay),
        stands_leaf rfl rfl (faithful_word32.stands retries),
        stands_leaf rfl rfl (faithful_word64.stands timeout),
        stands_leaf rfl rfl (faithful_bool.stands purge),
        Retry.sound.below rfl rfl rfl rfl retried, trivial⟩
  · cases read

/-! ## All sections

The proofs follow one pattern: the record is read field by field, and each field is a plain value,
a method, or a section that was dealt with before. -/

def Limits.paths : List (List Step) :=
  pathsInto Limits.fieldNames fun _ => here

theorem Limits.sound : Sound (prepareRecord Limits.fieldNames fun _ value => value) Limits.ofJson?
    Limits.toJson {} Limits.paths := by
  intro value limits read
  obtain ⟨fields, record, read⟩ := Option.bind_eq_some_iff.mp read
  split at read
  · dsimp only [Option.bind_eq_bind] at read
    simp only [↓Option.bind_eq_some_iff, Option.pure_def, Option.some.injEq] at read
    obtain ⟨_, iterations, _, attempts, rfl⟩ := read
    refine stands_record (by decide) record ?_
    exact ⟨stands_leaf rfl rfl (faithful_word32.stands iterations),
      stands_leaf rfl rfl (faithful_word32.stands attempts), trivial⟩
  · cases read

def Build.paths : List (List Step) :=
  pathsInto Build.fieldNames fun _ => here

theorem Build.sound : Sound (prepareRecord Build.fieldNames fun _ value => value) Build.ofJson?
    Build.toJson {} Build.paths := by
  intro value build read
  obtain ⟨fields, record, read⟩ := Option.bind_eq_some_iff.mp read
  split at read
  · dsimp only [Option.bind_eq_bind] at read
    simp only [↓Option.bind_eq_some_iff, Option.pure_def, Option.some.injEq] at read
    obtain ⟨_, dedup, rfl⟩ := read
    refine stands_record (by decide) record ?_
    exact ⟨stands_leaf rfl rfl (faithful_bool.stands dedup), trivial⟩
  · cases read

def Log.paths : List (List Step) :=
  pathsInto Log.fieldNames fun _ => here

theorem Log.sound : Sound (prepareRecord Log.fieldNames fun _ value => value) Log.ofJson?
    Log.toJson {} Log.paths := by
  intro value log read
  obtain ⟨fields, record, read⟩ := Option.bind_eq_some_iff.mp read
  split at read
  · dsimp only [Option.bind_eq_bind] at read
    simp only [↓Option.bind_eq_some_iff, Option.pure_def, Option.some.injEq] at read
    obtain ⟨_, level, _, format, dir, directed, _, rotation, rfl⟩ := read
    refine stands_record (by decide) record ?_
    -- as with the key of the worker, a directory that is missing is left out
    cases dir <;>
      exact ⟨stands_leaf rfl rfl (faithful_string.stands level),
        stands_leaf rfl rfl (faithful_string.stands format),
        stands_leaf rfl rfl (faithful_path.stands_optional directed),
        stands_leaf rfl rfl (faithful_string.stands rotation), trivial⟩
  · cases read

/-- The paths to all settings. -/
def paths : List (List Step) :=
  pathsInto fieldNames fun
    | "workspace" => Layout.paths
    | "toolchain" => Commands.paths
    | "worker" => Worker.paths
    | "convergence" => Limits.paths
    | "build" => Build.paths
    | "logging" => Log.paths
    | _ => []

theorem sound : Sound prepare ofJson? toJson {} paths := by
  intro value settings read
  obtain ⟨fields, record, read⟩ := Option.bind_eq_some_iff.mp read
  split at read
  · dsimp only [Option.bind_eq_bind] at read
    simp only [↓Option.bind_eq_some_iff, Option.pure_def, Option.some.injEq] at read
    obtain ⟨_, workspace, _, toolchain, _, worker, _, convergence, _, build, _, logging, rfl⟩ :=
      read
    refine stands_record (by decide) record ?_
    exact ⟨Layout.sound.below rfl rfl rfl rfl workspace,
      Commands.sound.below rfl rfl rfl rfl toolchain,
      Worker.sound.below rfl rfl rfl rfl worker,
      Limits.sound.below rfl rfl rfl rfl convergence,
      Build.sound.below rfl rfl rfl rfl build, Log.sound.below rfl rfl rfl rfl logging, trivial⟩
  · cases read

example : paths.length = 39 := by decide

end AzcRepair.Settings
