import AzcRepair.Proofs.FileTree.Places
import AzcRepair.Toolchain.Tools

/-!
# The output directory as two processes see it

The compiler is told the output directory by its text and starts in the root; the program looks for
the project under the same text in its own working directory.

* `Tools.SeesSameOutput` — the text leads both to the same place.
* `compile_runs_once` — compiling runs the compiler once, in the root.
* `project_looks_first` — the search starts at the output directory.
* `output_directory_shared_iff` — when both look at the same place from every working directory.
* `output_directory_of_relative_root` — a relative root is followed twice.
-/

namespace AzcRepair.Toolchain.Tools

open Procedure (Yields)

variable {tools : Tools}

/-- The output directory as seen from the root, where the compiler runs, is the one that is seen from
the working directory. -/
def SeesSameOutput (tools : Tools) (cwd : Route) : Prop :=
  tools.outputDir.routeFrom (tools.root.routeFrom cwd) = tools.outputDir.routeFrom cwd

/-- Compiling runs the compiler in the root, with the text of the output directory, and asks for
nothing else. -/
theorem compile_runs_once :
    ∃ next, tools.compile.run = .call (.run ⟨tools.commands.compileProgram,
        tools.commands.compileArgs.map (Text.replaceAll outputPlaceholder tools.outputDir.text),
        some tools.root⟩) next ∧
      ∀ answer, ∃ result, next answer = .done result := by
  refine ⟨_, rfl, fun answer => ?_⟩
  cases answer with
  | error error => exact ⟨_, rfl⟩
  | ok finished =>
    dsimp only [Procedure.andThen, ExceptT.bindCont, pure]
    -- success, a failure with a text, or one without; nothing is asked for any more
    split_ifs
    · exact ⟨_, rfl⟩
    · exact ⟨_, rfl⟩
    · exact ⟨_, rfl⟩

/-- The search for the project starts at the output directory. -/
theorem project_looks_first :
    ∃ next, tools.project.run = .call (.disk (.isDirectory tools.outputDir)) next :=
  ⟨_, rfl⟩

/-- From every working directory both look at the same place exactly when one of the two configured
paths is absolute or the root goes up as often as down. -/
theorem forall_seesSameOutput_iff {layout : Settings.Layout} {commands : Settings.Commands} :
    (∀ cwd, (ofSettings layout commands).SeesSameOutput cwd) ↔
      layout.outputDir.isAbsolute = true ∨ layout.root.isAbsolute = true ∨
        layout.root.climbs = layout.root.descents := by
  have seen (cwd : Route) : (ofSettings layout commands).outputDir.routeFrom cwd =
      layout.outputDir.routeFrom (layout.root.routeFrom cwd) :=
    Path.resolve_routeFrom layout layout.outputDir cwd
  unfold SeesSameOutput
  simp only [seen]
  change (∀ cwd, layout.outputDir.routeFrom (layout.root.routeFrom (layout.root.routeFrom cwd)) =
    layout.outputDir.routeFrom (layout.root.routeFrom cwd)) ↔ _
  -- an absolute path is followed from nowhere, so one of them is enough
  by_cases output : layout.outputDir.isAbsolute = true
  · simp only [Path.routeFrom_of_isAbsolute output, output, implies_true, true_or]
  by_cases root : layout.root.isAbsolute = true
  · simp only [Path.routeFrom_of_isAbsolute root, root, implies_true, true_or, or_true]
  rw [Bool.not_eq_true] at output root
  simp only [Path.routeFrom_of_not_isAbsolute output, Path.routeFrom_of_not_isAbsolute root,
    Path.follow_again_iff, output, root, Bool.false_eq_true, false_or]
  rfl

/-- The compiler is told a text that it follows from the root, and the search for the project follows
the same text from the working directory. From every working directory both come to the same place
exactly when one of the configured paths is absolute or the root goes up as often as down. -/
theorem output_directory_shared_iff (layout : Settings.Layout) (commands : Settings.Commands) :
    let tools := ofSettings layout commands
    (∃ next, tools.compile.run = .call (.run ⟨commands.compileProgram,
        commands.compileArgs.map (Text.replaceAll outputPlaceholder tools.outputDir.text),
        some tools.root⟩) next ∧ ∀ answer, ∃ result, next answer = .done result) ∧
    (∃ next, tools.project.run = .call (.disk (.isDirectory tools.outputDir)) next) ∧
    (∀ (tree : FileTree) (cwd : Route) (place : FileTree.Place),
      tree.resolve cwd tools.outputDir = .ok place → place.route = tools.outputDir.routeFrom cwd) ∧
    ((∀ cwd, tools.SeesSameOutput cwd) ↔
      layout.outputDir.isAbsolute = true ∨ layout.root.isAbsolute = true ∨
        layout.root.climbs = layout.root.descents) := by
  refine ⟨compile_runs_once, project_looks_first, fun tree cwd place found => ?_,
    forall_seesSameOutput_iff⟩
  obtain ⟨-, -, rfl⟩ := FileTree.resolve_eq_ok_iff.mp found
  rfl

/-- With a root and an output directory that are both relative, the compiler follows the root twice. -/
theorem output_directory_of_relative_root :
    let tools := ofSettings { root := ⟨"ws"⟩, outputDir := ⟨"out"⟩ } {}
    tools.outputDir.routeFrom (tools.root.routeFrom ["home"]) = ["home", "ws", "ws", "out"] ∧
      tools.outputDir.routeFrom ["home"] = ["home", "ws", "out"] ∧ ¬ tools.SeesSameOutput ["home"] := by
  unfold SeesSameOutput
  decide

end AzcRepair.Toolchain.Tools
