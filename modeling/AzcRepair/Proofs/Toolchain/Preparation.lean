import AzcRepair.Proofs.Procedure.Layers
import AzcRepair.Proofs.Toolchain.Search
import AzcRepair.Toolchain.Tools

/-!
# The project behind the templates

Putting the templates in place looks for the project, copies the feed configuration next to it and
writes the text of the template over it. A later look for the project must not come to another file.

* `answer`, `carryOut` — the tools on a tree of files, for any outcome of the commands.
* `project_run`, `prepareArtifacts_run`, `build_run` — what they do to the tree;
  `prepareArtifacts_eq_ok_iff` says when the templates come in place.
* `Replaces` — no directory comes or goes, and only two files change; `Replaces.firstBelow_eq`: the
  search then finds the same file again.
* `Prepared` — the templates in place.
* `project_lookup` — what the search finds, before and after.
-/

namespace AzcRepair

namespace FileTree

variable {tree after : FileTree} {cwd : Route} {path source target : Path} {content : FileContent}

/-! ## Copies and texts

A copy empties its target before it writes the content, and a text is read by way of bytes. The
lemmas take these apart, so that later only writes and finds are left. -/

theorem bind_eq_ok_iff {α β : Type} {first : Except OsError α} {next : α → Except OsError β}
    {value : β} :
    (first >>= next) = .ok value ↔ ∃ given, first = .ok given ∧ next given = .ok value := by
  -- only a first part that succeeds is gone on from
  cases first with
  | error error => exact iff_of_false nofun fun ⟨_, begun, _⟩ => nomatch begun
  | ok given =>
    constructor
    · intro done
      exact ⟨given, rfl, done⟩
    · rintro ⟨_, same, done⟩
      cases same
      exact done

/-- A copy writes the content of the source to the target, and leaves nothing of a file that is
copied onto itself. -/
theorem copy_eq_ok_iff :
    tree.copy cwd source target = .ok after ↔
      ∃ content emptied, tree.find cwd source = .ok (.file content) ∧
        tree.write cwd target (.bytes ByteArray.empty) = .ok emptied ∧
        (if source.routeFrom cwd = target.routeFrom cwd then .ok emptied
          else tree.write cwd target content) = .ok after := by
  unfold copy
  rw [bind_eq_ok_iff]
  constructor
  · rintro ⟨_ | _, found, copied⟩
    · next content =>
      obtain ⟨emptied, empties, copied⟩ := bind_eq_ok_iff.mp copied
      obtain ⟨-, -, copied⟩ := bind_resolve_eq_ok_iff.mp copied
      obtain ⟨-, -, copied⟩ := bind_resolve_eq_ok_iff.mp copied
      exact ⟨content, emptied, found, empties, copied⟩
    · cases copied
  · rintro ⟨content, emptied, found, empties, copied⟩
    obtain ⟨fit, walkable, -⟩ := find_eq_file_iff.mp found
    obtain ⟨⟨reaches, -⟩, -⟩ := write_eq_ok_iff.mp empties
    refine ⟨.file content, found, bind_eq_ok_iff.mpr ⟨emptied, empties, ?_⟩⟩
    apply bind_resolve_eq_ok_iff.mpr ⟨fit, walkable, ?_⟩
    exact bind_resolve_eq_ok_iff.mpr ⟨reaches.fit, reaches.walkable, copied⟩

/-- Whatever is copied, the target is written. -/
theorem exists_write_of_copy (copied : tree.copy cwd source target = .ok after) :
    ∃ content, tree.write cwd target content = .ok after := by
  obtain ⟨content, emptied, -, empties, copied⟩ := copy_eq_ok_iff.mp copied
  split at copied
  · exact ⟨_, empties.trans copied⟩
  · exact ⟨content, copied⟩

theorem readText_eq_ok_iff {text : String} :
    tree.readText cwd path = .ok text ↔
      ∃ content, tree.find cwd path = .ok (.file content) ∧
        String.fromUTF8? content.data = some text := by
  unfold readText readBytes
  constructor
  · intro read
    obtain ⟨data, bytes, decoded⟩ := bind_eq_ok_iff.mp read
    obtain ⟨_ | entries, found, opened⟩ := bind_eq_ok_iff.mp bytes
    · next content =>
      -- a directory would not have been opened
      cases opened
      refine ⟨content, found, ?_⟩
      split at decoded
      · next decoded' => cases decoded; exact decoded'
      · cases decoded
    · cases opened
  · rintro ⟨content, found, decoded⟩
    have bytes : tree.readBytes cwd path = .ok content.data :=
      bind_eq_ok_iff.mpr ⟨_, found, rfl⟩
    refine bind_eq_ok_iff.mpr ⟨_, bytes, ?_⟩
    rw [decoded]
    rfl

theorem fromUTF8?_ofText (text : String) :
    String.fromUTF8? (FileContent.ofText text).data = some text := by
  show String.fromUTF8? text.toUTF8 = some text
  exact dif_pos text.isValidUTF8

theorem readText_of_write {text : String}
    (written : tree.write cwd path (.ofText text) = .ok after) :
    after.readText cwd path = .ok text :=
  readText_eq_ok_iff.mpr ⟨_, find_of_write written, fromUTF8?_ofText text⟩

/-- A text that is written to another file is still read where it was read. -/
theorem readText_of_write_copy {text : String} (read : tree.readText cwd source = .ok text)
    (written : tree.write cwd path (.ofText text) = .ok after) :
    after.readText cwd source = .ok text := by
  obtain ⟨content, found, decoded⟩ := readText_eq_ok_iff.mp read
  -- a text that is written over itself stays the same
  by_cases same : source.routeFrom cwd = path.routeFrom cwd
  · obtain ⟨fit, walkable, -, noSlash⟩ := find_eq_file_iff.mp found
    obtain ⟨files, directories⟩ := write_changes written
    refine readText_eq_ok_iff.mpr ⟨.ofText text, find_eq_file_iff.mpr ⟨fit, ?_, ?_, noSlash⟩,
      fromUTF8?_ofText text⟩
    · exact directories.kept.walkable walkable
    · rw [files, if_pos same]
  · exact readText_eq_ok_iff.mpr ⟨content, find_of_write_beside found written same, decoded⟩

/-- What is read elsewhere than where something was written could be read before. -/
theorem readText_before_write {text : String} (written : tree.write cwd path content = .ok after)
    (apart : source.routeFrom cwd ≠ path.routeFrom cwd)
    (read : after.readText cwd source = .ok text) : tree.readText cwd source = .ok text := by
  obtain ⟨content, found, decoded⟩ := readText_eq_ok_iff.mp read
  obtain ⟨fit, walkable, file, noSlash⟩ := find_eq_file_iff.mp found
  obtain ⟨files, directories⟩ := write_changes written
  have back : after.KeepsDirectories tree := fun route => (directories route).mp
  rw [files, if_neg apart] at file
  exact readText_eq_ok_iff.mpr
    ⟨content, find_eq_file_iff.mpr ⟨fit, back.walkable walkable, file, noSlash⟩, decoded⟩

/-- What is written under a text that is a file name is written under a name. -/
theorem isName_of_write {dir : Path} {name : String} (plain : Path.IsPlain name)
    (written : tree.write cwd (dir / name) content = .ok after) : IsName name := by
  obtain ⟨⟨reaches, -⟩, -⟩ := write_eq_ok_iff.mp written
  have walkable := reaches.walkable
  rw [plain.steps, walkable_append] at walkable
  exact ⟨plain, walkable.2.2.1 plain.goesDown⟩

end FileTree

namespace Toolchain.Tools

open AzcRepair.Path (IsPlain)
open FileTree (WellNamed)

variable {α β : Type} {tools : Tools} {cwd base : Route} {tree after : FileTree}

/-! ## The tools on a tree

The tools ask both for files and for commands. Commands may do anything to the tree, which
`Launch` leaves open; putting the templates in place runs none. -/

/-- What running a command comes to. -/
abbrev Launch := Execution.Command → StateM FileTree (Except OsError Execution.Result)

/-- Answers on a tree of files what the tools ask of the world. -/
def answer (cwd : Route) (launch : Launch) : (call : Call) → StateM FileTree (Answer call)
  | .run command => launch command
  | .disk call => fun tree => tree.perform cwd call

/-- Carries out on a tree of files what the tools do. -/
def carryOut (cwd : Route) (launch : Launch) (work : Act α) : StateM FileTree (Except Failure α) :=
  work.run.handle (answer cwd launch)

variable {launch : Launch}

theorem carryOut_bind (first : Act α) (next : α → Act β) :
    carryOut cwd launch (first >>= next) tree =
      match carryOut cwd launch first tree with
      | (.ok value, after) => carryOut cwd launch (next value) after
      | (.error failure, after) => (.error failure, after) := by
  have step (p : StateM FileTree (Except Failure α))
      (f : Except Failure α → StateM FileTree (Except Failure β)) :
      (p >>= f) tree = f (p tree).1 (p tree).2 := rfl
  unfold carryOut
  rw [ExceptT.run_bind, Procedure.handle_bind, step]
  generalize first.run.handle (answer cwd launch) tree = begun
  obtain ⟨_ | value, middle⟩ := begun
  · rfl
  · rfl

theorem carryOut_askDisk (call : Disk.Call) :
    carryOut cwd launch (askDisk call) tree =
      (.ok (tree.perform cwd call).1, (tree.perform cwd call).2) :=
  rfl

theorem carryOut_orIo (result : Except OsError α) :
    carryOut cwd launch (orIo result) tree = (result.mapError .io, tree) := by
  cases result <;> rfl

/-- The tools look for the project as the search does. -/
theorem project_run :
    carryOut cwd launch tools.project tree =
      (match firstBelow tree cwd projectExtension searchDepth tools.outputDir with
        | some path => .ok path
        | none => .error (.projectNotFound tools.outputDir), tree) := by
  have search : carryOut cwd launch (ExceptT.lift (Procedure.embed Call.disk
        (fun _ answer => answer) (findFirst projectExtension tools.outputDir).run)) tree =
      (.ok (FileTree.carryOut cwd (findFirst projectExtension tools.outputDir).run tree).1,
        (FileTree.carryOut cwd (findFirst projectExtension tools.outputDir).run tree).2) := by
    unfold carryOut
    rw [ExceptT.run_lift, map_eq_pure_bind, Procedure.handle_bind, Procedure.handle_embed]
    rfl
  rw [project]
  rw [carryOut_bind, search, findFirst, findWithin_run]
  dsimp only
  rw [carryOut_bind, carryOut_orIo]
  dsimp only [Except.mapError]
  cases firstBelow tree cwd projectExtension searchDepth tools.outputDir with
  | none => rfl
  | some path => rfl

theorem carryOut_copy (source target : Path) (next : Unit → Act α) :
    carryOut cwd launch
        (askDisk (.copy source target) >>= fun copied => orIo copied >>= next) tree =
      match tree.copy cwd source target with
      | .ok after => carryOut cwd launch (next ()) after
      | .error error => (.error (.io error), tree) := by
  rw [carryOut_bind, carryOut_askDisk]
  dsimp only [FileTree.perform]
  rw [carryOut_bind, carryOut_orIo]
  cases tree.copy cwd source target <;> rfl

theorem carryOut_write (path : Path) (text : String) :
    carryOut cwd launch (askDisk (.write path text) >>= orIo) tree =
      match tree.write cwd path (.ofText text) with
      | .ok after => (.ok (), after)
      | .error error => (.error (.io error), tree) := by
  rw [carryOut_bind, carryOut_askDisk]
  dsimp only [FileTree.perform]
  rw [carryOut_orIo]
  cases tree.write cwd path (.ofText text) <;> rfl

/-- Putting the templates in place: the feed configuration is copied into the directory of the
project, and then the text of the template is written over the project. -/
theorem prepareArtifacts_run :
    carryOut cwd launch tools.prepareArtifacts tree =
      match firstBelow tree cwd projectExtension searchDepth tools.outputDir with
      | none => (.error (.projectNotFound tools.outputDir), tree)
      | some project =>
        if (tree.find cwd (tools.helperDir / tools.feedConfig)).toOption.isSome then
          match tree.copy cwd (tools.helperDir / tools.feedConfig)
              (tools.projectDir project / tools.feedConfig) with
          | .error error => (.error (.io error), tree)
          | .ok middle =>
            match middle.readText cwd (tools.helperDir / tools.projectTemplate) with
            | .error _ =>
              (.error (.templateMissing (tools.helperDir / tools.projectTemplate)), middle)
            | .ok text =>
              match middle.write cwd project (.ofText text) with
              | .error error => (.error (.io error), middle)
              | .ok after => (.ok (), after)
        else (.error (.templateMissing (tools.helperDir / tools.feedConfig)), tree) := by
  rw [prepareArtifacts, carryOut_bind, project_run]
  -- the branches follow the order of the requests: search, copy, read, write
  cases firstBelow tree cwd projectExtension searchDepth tools.outputDir with
  | none => rfl
  | some project =>
    dsimp only
    rw [carryOut_bind, carryOut_askDisk]
    dsimp only [FileTree.perform]
    cases (tree.find cwd (tools.helperDir / tools.feedConfig)).toOption.isSome with
    | false => rfl
    | true =>
      rw [if_pos rfl, if_pos rfl, carryOut_copy]
      cases tree.copy cwd (tools.helperDir / tools.feedConfig)
          (tools.projectDir project / tools.feedConfig) with
      | error error => rfl
      | ok middle =>
        dsimp only
        rw [carryOut_bind, carryOut_askDisk]
        dsimp only [FileTree.perform]
        cases middle.readText cwd (tools.helperDir / tools.projectTemplate) with
        | error error => rfl
        | ok text =>
          dsimp only
          rw [carryOut_write]
          cases middle.write cwd project (.ofText text) <;> rfl

/-- Runs the build program in a directory. -/
def buildIn (tools : Tools) (dir : Path) : Act BuildOutput := do
  let result ← run tools.commands.buildProgram tools.commands.buildArgs dir
  return ⟨result.outText ++ "\n" ++ result.errText, result.status.isSuccess⟩

theorem build_run :
    carryOut cwd launch tools.build tree =
      match firstBelow tree cwd projectExtension searchDepth tools.outputDir with
      | none => (.error (.projectNotFound tools.outputDir), tree)
      | some project => carryOut cwd launch (tools.buildIn (tools.projectDir project)) tree := by
  rw [build, carryOut_bind, project_run]
  cases firstBelow tree cwd projectExtension searchDepth tools.outputDir <;> rfl

/-- The templates come in place when there is a project, the feed configuration is copied next to
it, and the text of the template is read and then written. -/
theorem prepareArtifacts_eq_ok_iff :
    carryOut cwd launch tools.prepareArtifacts tree = (.ok (), after) ↔
      ∃ project middle text,
        firstBelow tree cwd projectExtension searchDepth tools.outputDir = some project ∧
        tree.copy cwd (tools.helperDir / tools.feedConfig)
          (tools.projectDir project / tools.feedConfig) = .ok middle ∧
        middle.readText cwd (tools.helperDir / tools.projectTemplate) = .ok text ∧
        middle.write cwd project (.ofText text) = .ok after := by
  rw [prepareArtifacts_run]
  constructor
  · intro prepared
    -- every way out but the last one is a failure
    split at prepared
    · cases prepared
    · next project first =>
      split at prepared
      · split at prepared
        · cases prepared
        · next middle copied =>
          split at prepared
          · cases prepared
          · next text read =>
            split at prepared
            · cases prepared
            · next last written =>
              cases prepared
              exact ⟨project, middle, text, first, copied, read, written⟩
      · cases prepared
  · rintro ⟨project, middle, text, first, copied, read, written⟩
    have feeds : (tree.find cwd (tools.helperDir / tools.feedConfig)).toOption.isSome = true := by
      obtain ⟨content, -, feed, -⟩ := FileTree.copy_eq_ok_iff.mp copied
      rw [feed]
      rfl
    rw [first]
    dsimp only
    rw [if_pos feeds, copied]
    dsimp only
    rw [read]
    dsimp only
    rw [written]

/-- The directory of a project is the one that its path leads through. -/
theorem routeFrom_projectDir {name : String} (plain : IsPlain name) (tools : Tools) (dir : Path)
    (cwd : Route) : (tools.projectDir (dir / name)).routeFrom cwd = dir.routeFrom cwd := by
  obtain ⟨parent, above, leads⟩ := Path.routeFrom_parent_name plain dir cwd
  rw [projectDir, above, Option.getD_some, leads]

/-- The directory of a project that lies along some names. -/
theorem routeFrom_projectDir_below {above : Route} {name : String}
    (plain : ∀ part ∈ above ++ [name], IsPlain part) (tools : Tools) (dir : Path) (cwd : Route) :
    (tools.projectDir (dir.below (above ++ [name]))).routeFrom cwd =
      dir.routeFrom cwd ++ above := by
  obtain ⟨inside, last⟩ := List.forall_mem_append.mp plain
  rw [Path.below_concat, routeFrom_projectDir (last name List.mem_cons_self),
    Path.routeFrom_below inside]

/-! ## Two files that are replaced

The feed configuration may be new and the project is overwritten. A new file could come before the
project in the search, so it matters that its name has another extension. -/

/-- No directory comes or goes, and apart from two files everything is as it was. -/
structure Replaces (tree after : FileTree) (one other : Route) : Prop where
  directories : tree.SameDirectories after
  file : (after.file? one).isSome = true
  others : ∀ route, route ≠ one → route ≠ other → after.file? route = tree.file? route

/-- What two writes come to. -/
theorem replaces_of_writes {one other : Path} {middle : FileTree} {first second : FileContent}
    (begun : tree.write cwd other first = .ok middle)
    (written : middle.write cwd one second = .ok after) :
    Replaces tree after (one.routeFrom cwd) (other.routeFrom cwd) := by
  obtain ⟨firstFiles, firstDirectories⟩ := FileTree.write_changes begun
  obtain ⟨files, directories⟩ := FileTree.write_changes written
  refine ⟨fun route => (directories route).trans (firstDirectories route), ?_, ?_⟩
  · rw [files, if_pos rfl]
    rfl
  · intro route notOne notOther
    rw [files, if_neg notOne, firstFiles, if_neg notOther]

variable {dir : Path} {above : Route} {name feed : String} {inner : List (String × FileNode)}

section Replaces

variable
  (replaces : Replaces tree after (base ++ above ++ [name]) (base ++ above ++ [feed]))
  (there : (tree.file? (base ++ above ++ [name])).isSome = true)

include replaces there

/-- The files with an extension are those that there were, when the one that was there has it and
the one that may be new has not. -/
theorem Replaces.isHit_iff {extension : String} (leads : dir.routeFrom cwd = base)
    (other : Path.extensionOf? feed ≠ some extension) (names : Route) :
    IsHit after cwd extension dir names ↔ IsHit tree cwd extension dir names := by
  have same (extended : names.getLast?.bind Path.extensionOf? = some extension) :
      (after.file? (base ++ names)).isSome = (tree.file? (base ++ names)).isSome := by
    -- either this is the project itself, or a file that was not written, for the feed
    -- configuration has another extension
    by_cases isProject : base ++ names = base ++ above ++ [name]
    · rw [isProject, replaces.file, there]
    · have notFeed : base ++ names ≠ base ++ above ++ [feed] := by
        intro isFeed
        rw [List.append_assoc, List.append_right_inj] at isFeed
        rw [isFeed, List.getLast?_concat, Option.bind_some] at extended
        exact other extended
      rw [replaces.others _ isProject notFeed]
  constructor
  · rintro ⟨file, extended, fit⟩
    rw [leads, same extended, ← leads] at file
    exact ⟨file, extended, fit⟩
  · rintro ⟨file, extended, fit⟩
    rw [leads, ← same extended, ← leads] at file
    exact ⟨file, extended, fit⟩

theorem Replaces.wellNamed (wellNamed : tree.WellNamed base) (named : FileTree.IsName feed) :
    after.WellNamed base := by
  have first : ∀ other ∈ above ++ [name], FileTree.IsName other := by
    apply wellNamed
    rw [← List.append_assoc]
    exact FileTree.get?_ne_none_of_file there
  intro names found
  by_cases isFeed : names = above ++ [feed]
  · subst isFeed
    rw [List.forall_mem_append] at first ⊢
    exact ⟨first.1, List.forall_mem_singleton.mpr named⟩
  by_cases isProject : names = above ++ [name]
  · exact isProject ▸ first
  -- what is neither of the two files was there before
  apply wellNamed names
  obtain ⟨node, shows⟩ := Option.ne_none_iff_exists'.mp found
  cases node with
  | directory entries =>
    obtain ⟨old, was⟩ := (replaces.directories _).mp ⟨entries, shows⟩
    rw [was]
    exact nofun
  | file content =>
    have now := FileTree.file?_eq_some_iff.mpr shows
    have notProject : base ++ names ≠ base ++ above ++ [name] := by
      rwa [List.append_assoc, ne_eq, List.append_right_inj]
    have notFeed : base ++ names ≠ base ++ above ++ [feed] := by
      rwa [List.append_assoc, ne_eq, List.append_right_inj]
    rw [replaces.others _ notProject notFeed] at now
    exact FileTree.get?_ne_none_of_file (Option.isSome_of_eq_some now)

theorem Replaces.firstBelow_eq (found : tree.findDirectory cwd dir = .ok (base, inner))
    (wellNamed : tree.WellNamed base) (named : FileTree.IsName feed)
    (other : Path.extensionOf? feed ≠ some projectExtension)
    (first : IsFirst tree cwd projectExtension dir (above ++ [name])) :
    firstBelow after cwd projectExtension searchDepth dir = some (dir.below (above ++ [name])) := by
  obtain ⟨-, -, leads, -⟩ := FileTree.findDirectory_eq_ok_iff.mp found
  obtain ⟨now, again⟩ := replaces.directories.findDirectory found
  have finds : Finds after cwd projectExtension dir
      (firstBelow after cwd projectExtension searchDepth dir) :=
    finds_firstBelow again (replaces.wellNamed there wellNamed named)
  exact finds.eq_of_isFirst (first.congr (replaces.isHit_iff there leads other))

end Replaces

/-! ## The templates in place

All that is claimed of the tree behind the templates is collected in one structure, which the
proof fills in from the two writes. -/

/-- The templates are in place in `after`, along the names `above` below the output directory, which
the route `base` leads to. -/
structure Prepared (tools : Tools) (cwd : Route) (tree after : FileTree) (base above : Route)
    (name text : String) : Prop where
  /-- The project is the first one below the output directory. -/
  first : IsFirst tree cwd projectExtension tools.outputDir (above ++ [name])
  /-- It is found again. -/
  lookup : ∀ launch, carryOut cwd launch tools.project after =
    (.ok (tools.outputDir.below (above ++ [name])), after)
  /-- The build runs in its directory. -/
  build : ∀ launch, carryOut cwd launch tools.build after =
    carryOut cwd launch
      (tools.buildIn (tools.projectDir (tools.outputDir.below (above ++ [name])))) after
  directory : (tools.projectDir (tools.outputDir.below (above ++ [name]))).routeFrom cwd =
    base ++ above
  /-- It holds the text of the template. -/
  content : after.readText cwd (tools.outputDir.below (above ++ [name])) = .ok text
  template : after.readText cwd (tools.helperDir / tools.projectTemplate) = .ok text
  /-- That is the text that a template outside of the output directory had from the start. -/
  unchanged : ¬ base <+: (tools.helperDir / tools.projectTemplate).routeFrom cwd →
    tree.readText cwd (tools.helperDir / tools.projectTemplate) = .ok text
  /-- Only the project and the feed configuration next to it have changed. -/
  replaces : Replaces tree after (base ++ above ++ [name]) (base ++ above ++ [tools.feedConfig])

theorem prepared_of_prepareArtifacts
    (found : tree.findDirectory cwd tools.outputDir = .ok (base, inner))
    (wellNamed : tree.WellNamed base) (plain : IsPlain tools.feedConfig)
    (other : Path.extensionOf? tools.feedConfig ≠ some projectExtension)
    (prepares : carryOut cwd launch tools.prepareArtifacts tree = (.ok (), after)) :
    ∃ above name text, Prepared tools cwd tree after base above name text := by
  obtain ⟨project, middle, text, comes, copied, read, written⟩ :=
    prepareArtifacts_eq_ok_iff.mp prepares
  obtain ⟨content, fed⟩ := FileTree.exists_write_of_copy copied
  obtain ⟨-, -, leads, -⟩ := FileTree.findDirectory_eq_ok_iff.mp found
  have finds : Finds tree cwd projectExtension tools.outputDir
      (firstBelow tree cwd projectExtension searchDepth tools.outputDir) :=
    finds_firstBelow found wellNamed
  rw [comes] at finds
  cases finds with
  | @first names first =>
    obtain ⟨above, name, rfl⟩ : ∃ above name, names = above ++ [name] :=
      (List.eq_nil_or_concat' names).resolve_left first.hit.ne_nil
    have named : ∀ part ∈ above ++ [name], IsPlain part := fun part mem =>
      (wellNamed _ (leads ▸ first.hit.there) part mem).toIsPlain
    -- where the project, its directory and the feed configuration are
    have projectRoute : (tools.outputDir.below (above ++ [name])).routeFrom cwd =
        base ++ above ++ [name] := by
      rw [Path.routeFrom_below named, leads, List.append_assoc]
    have directoryRoute :
        (tools.projectDir (tools.outputDir.below (above ++ [name]))).routeFrom cwd =
          base ++ above := by
      rw [routeFrom_projectDir_below named, leads]
    have feedRoute : (tools.projectDir (tools.outputDir.below (above ++ [name])) /
        tools.feedConfig).routeFrom cwd = base ++ above ++ [tools.feedConfig] := by
      rw [plain.routeFrom, directoryRoute]
    have there : (tree.file? (base ++ above ++ [name])).isSome = true := by
      rw [List.append_assoc, ← leads]
      exact first.hit.file
    have feedName : FileTree.IsName tools.feedConfig := FileTree.isName_of_write plain fed
    have replaces := replaces_of_writes fed written
    rw [projectRoute, feedRoute] at replaces
    have again := replaces.firstBelow_eq there found wellNamed feedName other first
    refine ⟨above, name, text, ?_⟩
    exact {
      first := first
      lookup := fun launch => by rw [project_run, again]
      build := fun launch => by rw [build_run, again]
      directory := directoryRoute
      content := FileTree.readText_of_write written
      template := FileTree.readText_of_write_copy read written
      unchanged := fun outside => by
        apply FileTree.readText_before_write fed _ read
        rw [feedRoute]
        intro same
        apply outside
        rw [same, List.append_assoc]
        exact List.prefix_append base _
      replaces := replaces }

/-- **The project is the first file with the extension, and it stays so.** The search of a directory
finds a path exactly when some regular file below has the extension, at any depth as far as the
system takes its path, and then that of the file that comes before all others; it changes nothing.
When the templates have been put in place, with a feed configuration that is a file name without the
extension, the search and the build find the same project, which holds the text of the template, and
nothing has changed but the project and the feed configuration in its directory. -/
theorem project_lookup (found : tree.findDirectory cwd dir = .ok (base, inner))
    (wellNamed : tree.WellNamed base) :
    (∀ extension, ∃ result,
      FileTree.carryOut cwd (findFirst extension dir).run tree = (.ok result, tree) ∧
        (result = none ↔ ∀ names, ¬ IsHit tree cwd extension dir names) ∧
        ∀ path, result = some path ↔
          ∃ names, IsFirst tree cwd extension dir names ∧ path = dir.below names) ∧
      ∀ (tools : Tools) (launch : Launch) (after : FileTree), tools.outputDir = dir →
        IsPlain tools.feedConfig → Path.extensionOf? tools.feedConfig ≠ some projectExtension →
          carryOut cwd launch tools.prepareArtifacts tree = (.ok (), after) →
            ∃ above name text, Prepared tools cwd tree after base above name text := by
  constructor
  · intro extension
    exact findFirst_exact found wellNamed
  · rintro tools launch after rfl plain other prepares
    exact prepared_of_prepareArtifacts found wellNamed plain other prepares

/-! ## Two projects

A directory in which a later look finds two projects, to show which of them is taken. -/

/-- Everything is where the tools look from the home directory. -/
def plainTools : Tools where
  root := ⟨"."⟩
  outputDir := ⟨"out"⟩
  helperDir := ⟨"helper"⟩
  projectTemplate := "Template.csproj"
  feedConfig := "Nuget.config"
  commands := {}

/-- What the compiler put there. -/
def generated : List (String × FileNode) :=
  [("tests", .directory [("Tests.csproj", .file (.ofText "tests"))]),
    ("src", .directory [("Demo.cs", .file (.ofText "code")),
      ("Demo.csproj", .file (.ofText "old"))]),
    ("readme.md", .file (.ofText "text"))]

def generatedTree : FileTree :=
  ⟨[("home", .directory [("out", .directory generated),
    ("helper", .directory [("Nuget.config", .file (.ofText "feed")),
      ("Template.csproj", .file (.ofText "new"))])])]⟩

theorem found_generated : generatedTree.findDirectory ["home"] ⟨"out"⟩ =
    .ok (["home", "out"], generated) :=
  FileTree.findDirectory_eq_ok_iff.mpr ⟨⟨by simp, by decide⟩, by decide, by decide, rfl⟩

theorem wellNamed_generated : generatedTree.WellNamed ["home", "out"] := by
  have here : generatedTree.root.get? ["home", "out"] = some (.directory generated) := rfl
  exact FileTree.wellNamed_of_descendants here (by decide +kernel)

/-- The project of the sources comes before that of the tests. -/
theorem isFirst_generated :
    IsFirst generatedTree ["home"] projectExtension ⟨"out"⟩ ["src", "Demo.csproj"] where
  hit := by
    have path : Path.below ⟨"out"⟩ ["src", "Demo.csproj"] = ⟨"out/src/Demo.csproj"⟩ := by
      decide +kernel
    refine ⟨by decide +kernel, by decide +kernel, ?_⟩
    rw [path]
    exact ⟨by simp, by decide⟩
  least other hit := by
    have known : ∀ entry ∈ (FileNode.directory generated).descendants,
        entry.1.getLast?.bind Path.extensionOf? = some projectExtension →
          entry.1 = ["src", "Demo.csproj"] ∨ entry.1 = ["tests", "Tests.csproj"] := by
      decide +kernel
    obtain ⟨node, shows⟩ := Option.ne_none_iff_exists'.mp hit.there
    have below : (FileNode.directory generated).get? other = some node := shows
    rcases known _ (FileNode.mem_descendants hit.ne_nil below) hit.extended with same | same
    · exact .inl same
    · have same : other = ["tests", "Tests.csproj"] := same
      rw [same]
      exact .inr (.directories (by decide))

theorem project_generated :
    firstBelow generatedTree ["home"] projectExtension searchDepth ⟨"out"⟩ =
      some ⟨"out/src/Demo.csproj"⟩ := by
  have finds : Finds generatedTree ["home"] projectExtension ⟨"out"⟩
      (firstBelow generatedTree ["home"] projectExtension searchDepth ⟨"out"⟩) :=
    finds_firstBelow found_generated wellNamed_generated
  have path : Path.below ⟨"out"⟩ ["src", "Demo.csproj"] = ⟨"out/src/Demo.csproj"⟩ := by
    decide +kernel
  rw [finds.eq_of_isFirst isFirst_generated, path]

theorem prepares_generated (launch : Launch) :
    ∃ after, carryOut ["home"] launch plainTools.prepareArtifacts generatedTree =
      (.ok (), after) := by
  have feed : generatedTree.find ["home"] ⟨"helper/Nuget.config"⟩ = .ok (.file (.ofText "feed")) :=
    FileTree.find_eq_file_iff.mpr ⟨⟨by simp, by decide⟩, by decide, rfl, by decide +kernel⟩
  have template : generatedTree.find ["home"] ⟨"helper/Template.csproj"⟩ =
      .ok (.file (.ofText "new")) :=
    FileTree.find_eq_file_iff.mpr ⟨⟨by simp, by decide⟩, by decide, rfl, by decide +kernel⟩
  -- both files can be written, and the project still when the feed configuration has been
  have reaches : generatedTree.Reaches ["home"] ⟨"out/src/Nuget.config"⟩ :=
    ⟨⟨by simp, by decide⟩, by decide, by decide⟩
  have writable (content : FileContent) : ∃ middle,
      generatedTree.write ["home"] ⟨"out/src/Nuget.config"⟩ content = .ok middle :=
    ⟨_, FileTree.write_eq_ok_iff.mpr ⟨⟨reaches, by decide +kernel, by decide⟩, rfl⟩⟩
  have reachesProject : generatedTree.Reaches ["home"] ⟨"out/src/Demo.csproj"⟩ :=
    ⟨⟨by simp, by decide⟩, by decide, by decide⟩
  have writesProject : generatedTree.write ["home"] ⟨"out/src/Demo.csproj"⟩ (.ofText "new") =
      .ok _ :=
    FileTree.write_eq_ok_iff.mpr ⟨⟨reachesProject, by decide +kernel, by decide⟩, rfl⟩
  obtain ⟨emptied, empties⟩ := writable (.bytes ByteArray.empty)
  obtain ⟨middle, fed⟩ := writable (.ofText "feed")
  obtain ⟨-, directories⟩ := FileTree.write_changes fed
  obtain ⟨after, written⟩ := directories.write writesProject (.ofText "new")
  have copied : generatedTree.copy ["home"] ⟨"helper/Nuget.config"⟩ ⟨"out/src/Nuget.config"⟩ =
      .ok middle := by
    refine FileTree.copy_eq_ok_iff.mpr ⟨_, emptied, feed, empties, ?_⟩
    rw [if_neg (by decide)]
    exact fed
  have read : middle.readText ["home"] ⟨"helper/Template.csproj"⟩ = .ok "new" :=
    FileTree.readText_eq_ok_iff.mpr
      ⟨_, FileTree.find_of_write_beside template fed (by decide), FileTree.fromUTF8?_ofText _⟩
  -- where the tools look
  have source : plainTools.helperDir / plainTools.feedConfig = ⟨"helper/Nuget.config"⟩ := by
    decide +kernel
  have target : plainTools.projectDir ⟨"out/src/Demo.csproj"⟩ / plainTools.feedConfig =
      ⟨"out/src/Nuget.config"⟩ := by
    decide +kernel
  have templatePath : plainTools.helperDir / plainTools.projectTemplate =
      ⟨"helper/Template.csproj"⟩ := by
    decide +kernel
  refine ⟨after, prepareArtifacts_eq_ok_iff.mpr
    ⟨⟨"out/src/Demo.csproj"⟩, middle, "new", project_generated, ?_, ?_, written⟩⟩
  · rw [source, target]
    exact copied
  · rw [templatePath]
    exact read

/-- The templates are put in place of the project of the sources. -/
theorem project_lookup_two_projects :
    (∃ result, FileTree.carryOut ["home"] (findFirst projectExtension ⟨"out"⟩).run generatedTree =
        (.ok result, generatedTree) ∧ result = some (Path.below ⟨"out"⟩ ["src", "Demo.csproj"])) ∧
      ∃ after above name text, Prepared plainTools ["home"] generatedTree after ["home", "out"]
        above name text := by
  obtain ⟨lookup, prepared⟩ := project_lookup found_generated wellNamed_generated
  constructor
  · obtain ⟨result, search, -, first⟩ := lookup projectExtension
    exact ⟨result, search, (first _).mpr ⟨_, isFirst_generated, rfl⟩⟩
  · have refuses : Launch := fun _ tree => (.error .notFound, tree)
    obtain ⟨after, prepares⟩ := prepares_generated refuses
    exact ⟨after, prepared plainTools refuses after rfl (by decide +kernel) (by decide +kernel)
      prepares⟩

end Toolchain.Tools

end AzcRepair
