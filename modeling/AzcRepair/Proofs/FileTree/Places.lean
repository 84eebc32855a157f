import Mathlib.Data.List.Induction
import AzcRepair.Proofs.FileTree.Route

/-!
# Places in a file tree

What a file tree shows at each route, where a path leads in it, and what a change of the tree leaves
as it was.

* `FileTree.file?`, `FileTree.HasDirectory` — what is at a route.
* `FileTree.Walkable` — the directories that steps pass through are there; `walk_eq_ok_iff` and
  `resolve_eq_ok_iff` say that walking finds the place that the text of a path names, or fails.
* `write_eq_ok_iff`, `createNew_eq_ok_iff` — when a file can be written or made, and what comes of it.
* `write_changes`, `createNew_changes` — one file changes and no directory does;
  `makeDirectoriesAlong_keeps` — no file changes and no directory goes.
* `archive_changes` — what an archive is made of.
* `carryOut` — carries out on a tree what a procedure asks of the disk.
-/

namespace AzcRepair

namespace FileNode

/-! ## Nodes

A node is taken apart along a route. What is put at one route shows there, changes the directories
above it, and leaves alone everything beside it. These are the only facts about the recursive
definitions that the rest of the module uses. -/

theorem get?_append (node : FileNode) (first second : Route) :
    node.get? (first ++ second) = (node.get? first).bind fun there => there.get? second := by
  induction first generalizing node with
  | nil => rfl
  | cons name first ih =>
    rw [List.cons_append, get?, get?]
    cases node.child? name with
    | none => rfl
    | some child => exact ih child

theorem get?_file (content : FileContent) {route : Route} (below : route ≠ []) :
    (file content).get? route = none := by
  obtain ⟨name, rest, rfl⟩ := List.exists_cons_of_ne_nil below
  rfl

theorem get?_empty {route : Route} (below : route ≠ []) : (directory []).get? route = none := by
  obtain ⟨name, rest, rfl⟩ := List.exists_cons_of_ne_nil below
  rfl

theorem lookup_setEntry_of_ne {name other : String} (differs : other ≠ name) (node : FileNode)
    (entries : List (String × FileNode)) :
    (setEntry name node entries).lookup other = entries.lookup other := by
  have unlike : (other == name) = false := by simpa using differs
  induction entries with
  | nil => simp [setEntry, List.lookup_cons, unlike]
  | cons entry rest ih =>
    obtain ⟨first, there⟩ := entry
    unfold setEntry
    split
    · next same =>
      obtain rfl := beq_iff_eq.mp same
      simp [List.lookup_cons, unlike]
    · rw [List.lookup_cons, List.lookup_cons, ih]

theorem child?_put_cons (node new : FileNode) (name : String) (rest : Route) :
    (node.put (name :: rest) new).child? name =
      some (((node.child? name).getD (directory [])).put rest new) :=
  lookup_setEntry name _ _

theorem child?_put_of_ne {name other : String} (differs : other ≠ name) (node new : FileNode)
    (rest : Route) : (node.put (name :: rest) new).child? other = node.child? other :=
  lookup_setEntry_of_ne differs _ _

/-- On the way to what is put somewhere there are directories. -/
theorem get?_put_above (node new : FileNode) {route rest : Route} (above : rest ≠ []) :
    ∃ entries, (node.put (route ++ rest) new).get? route = some (directory entries) := by
  induction route generalizing node with
  | nil =>
    obtain ⟨name, rest, rfl⟩ := List.exists_cons_of_ne_nil above
    exact ⟨_, rfl⟩
  | cons name route ih =>
    rw [List.cons_append, get?, child?_put_cons, Option.bind_some]
    exact ih _

/-- What is put somewhere leaves alone what is neither above nor below it. -/
theorem get?_put_beside (node new : FileNode) {route other : Route} (below : ¬ route <+: other)
    (above : ¬ other <+: route) : (node.put route new).get? other = node.get? other := by
  induction route generalizing node other with
  | nil => exact absurd (List.nil_prefix) below
  | cons name route ih =>
    cases other with
    | nil => exact absurd (List.nil_prefix) above
    | cons first other =>
      rw [get?, get?]
      -- both routes go down by the same name, or they part here
      by_cases same : first = name
      · subst same
        rw [child?_put_cons, Option.bind_some]
        have below : ¬ route <+: other := fun h => below (List.cons_prefix_cons.mpr ⟨rfl, h⟩)
        have above : ¬ other <+: route := fun h => above (List.cons_prefix_cons.mpr ⟨rfl, h⟩)
        rw [ih _ below above]
        cases node.child? first with
        | none => exact get?_empty fun none => above (none ▸ List.nil_prefix)
        | some child => rfl
      · rw [child?_put_of_ne same]

theorem mem_descendantsOf {entries : List (String × FileNode)} {name : String} {child : FileNode}
    (there : entries.lookup name = some child) {entry : Route × FileNode}
    (mem : entry = ([name], child) ∨ ∃ below ∈ child.descendants, entry = (name :: below.1, below.2)) :
    entry ∈ descendantsOf entries := by
  induction entries with
  | nil => cases there
  | cons first rest ih =>
    obtain ⟨other, node⟩ := first
    rw [List.lookup_cons] at there
    rw [descendantsOf]
    -- the entry under this name, which is the first with it, or one of the others
    split at there
    · next same =>
      obtain rfl := beq_iff_eq.mp same
      obtain rfl := Option.some.inj there
      obtain rfl | ⟨below, deep, rfl⟩ := mem
      · exact List.mem_cons_self
      · exact List.mem_cons_of_mem _ (List.mem_append_left _ (List.mem_map.mpr ⟨below, deep, rfl⟩))
    · exact List.mem_cons_of_mem _ (List.mem_append_right _ (ih there))

theorem mem_descendants {node there : FileNode} {route : Route} (below : route ≠ [])
    (found : node.get? route = some there) : (route, there) ∈ node.descendants := by
  induction route generalizing node with
  | nil => exact absurd rfl below
  | cons name rest ih =>
    obtain ⟨child, named, deep⟩ := Option.bind_eq_some_iff.mp found
    cases node with
    | file content => cases named
    | directory entries =>
      rw [descendants]
      refine mem_descendantsOf named ?_
      cases rest with
      | nil =>
        obtain rfl := Option.some.inj deep
        exact .inl rfl
      | cons next rest => exact .inr ⟨_, ih nofun deep, rfl⟩

end FileNode

namespace FileTree

open AzcRepair.Path (advance follow)

variable {tree after : FileTree} {route parent : Route} {name : String}

/-! ## Routes

A route stands for a place whether or not something is there. Files and directories are told apart
by what the tree shows at the route, and above everything that is shown there are directories. -/

/-- The content of the file at a route. -/
def file? (tree : FileTree) (route : Route) : Option FileContent :=
  match tree.root.get? route with
  | some (.file content) => some content
  | _ => none

/-- There is a directory at the route. -/
def HasDirectory (tree : FileTree) (route : Route) : Prop :=
  ∃ entries, tree.root.get? route = some (.directory entries)

instance (tree : FileTree) (route : Route) : Decidable (tree.HasDirectory route) :=
  match found : tree.root.get? route with
  | some (.directory entries) => isTrue ⟨entries, found⟩
  | some (.file _) => isFalse fun ⟨_, there⟩ => nomatch found.symm.trans there
  | none => isFalse fun ⟨_, there⟩ => nomatch found.symm.trans there

theorem file?_eq_some_iff {content : FileContent} :
    tree.file? route = some content ↔ tree.root.get? route = some (.file content) := by
  unfold file?
  split <;> simp_all

theorem hasDirectory_root (tree : FileTree) : tree.HasDirectory [] :=
  ⟨tree.entries, rfl⟩

theorem hasDirectory_of_append {rest : Route} {node : FileNode} (below : rest ≠ [])
    (found : tree.root.get? (route ++ rest) = some node) : tree.HasDirectory route := by
  rw [FileNode.get?_append] at found
  obtain ⟨there, here, found⟩ := Option.bind_eq_some_iff.mp found
  cases there with
  | file content => cases (FileNode.get?_file content below).symm.trans found
  | directory entries => exact ⟨entries, here⟩

theorem not_hasDirectory_of_eq_none (nothing : tree.root.get? route = none) :
    ¬ tree.HasDirectory route := fun ⟨_, found⟩ => by
  cases nothing.symm.trans found

theorem root_put {new : FileNode} (named : route ≠ []) :
    (tree.put route new).root = tree.root.put route new := by
  obtain ⟨name, rest, rfl⟩ := List.exists_cons_of_ne_nil named
  rfl

/-! ## What is put into a directory

A leaf is a node with nothing below it: a file, or an empty directory. Only leaves are put into
the tree, and only where no directory stands. So nothing disappears, and all that changes is at
the route itself. -/

/-- Nothing is below the node. -/
def IsLeaf (node : FileNode) : Prop :=
  ∀ route, route ≠ [] → node.get? route = none

/-- A leaf that is put into a directory, in place of no directory, is all that changes. -/
theorem put_cases {new : FileNode} (leaf : IsLeaf new) (inside : tree.HasDirectory parent)
    (free : ¬ tree.HasDirectory (parent ++ [name])) (other : Route) :
    other = parent ++ [name] ∧ (tree.put (parent ++ [name]) new).root.get? other = some new ∨
      other ≠ parent ++ [name] ∧
        ((tree.put (parent ++ [name]) new).root.get? other = tree.root.get? other ∨
          (tree.put (parent ++ [name]) new).HasDirectory other ∧ tree.HasDirectory other) := by
  unfold HasDirectory
  rw [root_put (by simp)]
  by_cases same : other = parent ++ [name]
  · subst same
    exact .inl ⟨rfl, FileNode.get?_put _ _ _⟩
  refine .inr ⟨same, ?_⟩
  -- any other route lies below the new leaf, above it, or beside it
  by_cases below : parent ++ [name] <+: other
  · obtain ⟨rest, rfl⟩ := below
    have deep : rest ≠ [] := fun none => same (by rw [none, List.append_nil])
    left
    rw [FileNode.get?_append, FileNode.get?_put, Option.bind_some, leaf rest deep]
    refine (Option.eq_none_iff_forall_ne_some.mpr fun node found => ?_).symm
    exact free (hasDirectory_of_append deep found)
  by_cases above : other <+: parent ++ [name]
  · obtain ⟨rest, split⟩ := above
    have deep : rest ≠ [] := fun none => same (by rw [← split, none, List.append_nil])
    right
    rw [← split]
    refine ⟨FileNode.get?_put_above _ _ deep, ?_⟩
    obtain ⟨entries, here⟩ := inside
    obtain rfl | ⟨init, last, rfl⟩ := List.eq_nil_or_concat rest
    · exact absurd rfl deep
    rw [List.concat_eq_append, ← List.append_assoc] at split
    obtain ⟨shorter, -⟩ := List.append_inj' split rfl
    rw [← shorter] at here
    obtain rfl | more := eq_or_ne init []
    · exact ⟨entries, by simpa using here⟩
    · exact hasDirectory_of_append more here
  · exact .inl (FileNode.get?_put_beside _ _ below above)

theorem isLeaf_file (content : FileContent) : IsLeaf (.file content) :=
  fun _ => FileNode.get?_file content

theorem isLeaf_empty : IsLeaf (.directory []) :=
  fun _ => FileNode.get?_empty

/-- A file that is put into a directory is the only file that changes. -/
theorem file?_putFile {content : FileContent} (inside : tree.HasDirectory parent)
    (free : ¬ tree.HasDirectory (parent ++ [name])) (other : Route) :
    (tree.putFile (parent ++ [name]) content).file? other =
      if other = parent ++ [name] then some content else tree.file? other := by
  obtain ⟨same, new⟩ | ⟨differs, same | ⟨⟨_, now⟩, ⟨_, was⟩⟩⟩ :=
    put_cases (isLeaf_file content) inside free other
  · rw [if_pos same]
    exact file?_eq_some_iff.mpr new
  · rw [if_neg differs]
    unfold file? putFile
    rw [same]
  · rw [if_neg differs]
    unfold file? putFile
    rw [now, was]

/-- A file that is put into a directory changes no directory. -/
theorem hasDirectory_putFile {content : FileContent} (inside : tree.HasDirectory parent)
    (free : ¬ tree.HasDirectory (parent ++ [name])) (other : Route) :
    (tree.putFile (parent ++ [name]) content).HasDirectory other ↔ tree.HasDirectory other := by
  obtain ⟨rfl, new⟩ | ⟨-, same | both⟩ := put_cases (isLeaf_file content) inside free other
  · refine ⟨fun ⟨_, found⟩ => ?_, fun old => absurd old free⟩
    cases new.symm.trans found
  · unfold HasDirectory putFile
    rw [same]
  · exact ⟨fun _ => both.2, fun _ => both.1⟩

/-- An empty directory that is put into a directory changes no file. -/
theorem file?_putDirectory (inside : tree.HasDirectory parent)
    (free : tree.root.get? (parent ++ [name]) = none) (other : Route) :
    (tree.put (parent ++ [name]) (.directory [])).file? other = tree.file? other := by
  unfold file?
  obtain ⟨rfl, new⟩ | ⟨-, same | ⟨⟨_, now⟩, ⟨_, was⟩⟩⟩ :=
    put_cases isLeaf_empty inside (not_hasDirectory_of_eq_none free) other
  · rw [new, free]
  · rw [same]
  · rw [now, was]

/-- A directory that was there is still there when another one is put beside it. -/
theorem hasDirectory_putDirectory (inside : tree.HasDirectory parent)
    (free : ¬ tree.HasDirectory (parent ++ [name])) {other : Route}
    (there : tree.HasDirectory other) :
    (tree.put (parent ++ [name]) (.directory [])).HasDirectory other := by
  obtain ⟨rfl, -⟩ | ⟨-, same | both⟩ := put_cases isLeaf_empty inside free other
  · exact absurd there free
  · unfold HasDirectory
    rwa [same]
  · exact both.1

/-! ## Walks

The system walks a path step by step, with the trail of the directories behind it, so that two
dots can go back along it. The trail is determined by the route, and the walk by the steps of the
path: it goes through when every directory on the way is there. -/

theorem trail_concat (tree : FileTree) (route : Route) (name : String) :
    tree.trail (route ++ [name]) =
      (name, (tree.last? (tree.trail route)).bind fun node => node.child? name) ::
        tree.trail route := by
  rw [trail, List.foldl_append]
  rfl

/-- What stands at the end of a trail is what the tree shows at its route. -/
@[simp] theorem last?_trail (tree : FileTree) (route : Route) :
    tree.last? (tree.trail route) = tree.root.get? route := by
  induction route using List.reverseRecOn with
  | nil => rfl
  | append_singleton route name ih =>
    rw [trail_concat, last?, ih, FileNode.get?_append]
    congr 1
    funext node
    rw [FileNode.get?]
    cases node.child? name <;> rfl

theorem names_trail (tree : FileTree) (route : Route) :
    ((tree.trail route).map (·.1)).reverse = route := by
  induction route using List.reverseRecOn with
  | nil => rfl
  | append_singleton route name ih => rw [trail_concat, List.map_cons, List.reverse_cons, ih]

theorem tail_trail (tree : FileTree) (route : Route) :
    (tree.trail route).tail = tree.trail route.dropLast := by
  induction route using List.reverseRecOn with
  | nil => rfl
  | append_singleton route name => rw [trail_concat, List.tail_cons, List.dropLast_concat]

/-- The directories that steps pass through are there, and no name is too long. -/
def Walkable (tree : FileTree) : Route → List String → Prop
  | _, [] => True
  | route, step :: rest =>
    tree.HasDirectory route ∧ (Path.goesDown step → step.utf8ByteSize ≤ maxNameLength) ∧
      tree.Walkable (advance route step) rest

instance decidableWalkable (tree : FileTree) :
    (route : Route) → (steps : List String) → Decidable (tree.Walkable route steps)
  | _, [] => isTrue trivial
  | route, step :: rest =>
    have := decidableWalkable tree (advance route step) rest
    inferInstanceAs (Decidable (_ ∧ _ ∧ _))

/-- Walking leads to the route of the steps, as far as the directories on the way are there. -/
theorem walk_eq_ok_iff {steps : List String} {trail : Trail} :
    tree.walk (tree.trail route) steps = .ok trail ↔
      tree.Walkable route steps ∧ trail = tree.trail (follow route steps) := by
  induction steps generalizing route with
  | nil =>
    rw [walk, Except.ok.injEq]
    exact ⟨fun h => ⟨trivial, h.symm⟩, fun h => h.2.symm⟩
  | cons step rest ih =>
    rw [walk, last?_trail, Walkable, Path.follow_cons]
    unfold HasDirectory
    cases here : tree.root.get? route with
    | none => simp
    | some node =>
      cases node with
      | file content => simp
      | directory entries =>
        have onward : tree.trail (route ++ [step]) = (step, entries.lookup step) :: tree.trail route := by
          rw [trail_concat, last?_trail, here]
          rfl
        simp only [Option.some.injEq, FileNode.directory.injEq, exists_eq', true_and, tail_trail,
          ← onward]
        unfold advance Path.goesDown
        -- a dot stays, two dots go back along the trail, a name goes down unless it is too
        -- long
        split_ifs with dot up long
        · simp [dot, ih]
        · simp [up, ih]
        · simp [dot, up, Nat.not_le.mpr long]
        · simp [dot, up, Nat.le_of_not_lt long, ih]

/-- A walk in two parts, the second from where the first one leads. -/
theorem walkable_append {first second : List String} :
    tree.Walkable route (first ++ second) ↔
      tree.Walkable route first ∧ tree.Walkable (follow route first) second := by
  induction first generalizing route with
  | nil => exact ⟨fun h => ⟨trivial, h⟩, fun h => h.2⟩
  | cons step rest ih => simp only [List.cons_append, Walkable, Path.follow_cons, ih, and_assoc]

theorem hasDirectory_dropLast (there : tree.HasDirectory route) :
    tree.HasDirectory route.dropLast := by
  obtain rfl | ⟨init, last, rfl⟩ := List.eq_nil_or_concat' route
  · exact there
  · rw [List.dropLast_concat]
    exact hasDirectory_of_append (List.cons_ne_nil _ _) there.choose_spec

/-- A name at the end of a walk is that of something in a directory. -/
theorem parent_of_walkable {steps : List String} (walkable : tree.Walkable route steps)
    (named : steps.getLast?.any Path.goesDown = true) :
    ∃ parent name, follow route steps = parent ++ [name] ∧ tree.HasDirectory parent := by
  obtain rfl | ⟨init, last, rfl⟩ := List.eq_nil_or_concat' steps
  · cases named
  · rw [List.getLast?_concat, Option.any_some, Path.goesDown, Bool.and_eq_true, decide_eq_true_eq,
      decide_eq_true_eq] at named
    refine ⟨follow route init, last, ?_, (walkable_append.mp walkable).2.1⟩
    rw [Path.follow_append, Path.follow_cons, Path.follow_nil, Path.advance_name named.1 named.2]

/-- A walk that ends in no name ends in a directory. -/
theorem hasDirectory_of_unnamed {steps : List String} (walkable : tree.Walkable route steps)
    (some : steps ≠ []) (unnamed : steps.getLast?.any Path.goesDown = false) :
    tree.HasDirectory (follow route steps) := by
  obtain rfl | ⟨init, last, rfl⟩ := List.eq_nil_or_concat' steps
  · exact absurd rfl some
  · have here : tree.HasDirectory (follow route init) := (walkable_append.mp walkable).2.1
    rw [List.getLast?_concat, Option.any_some, Path.goesDown, Bool.and_eq_false_iff,
      decide_eq_false_iff_not, decide_eq_false_iff_not, not_not, not_not] at unnamed
    rw [Path.follow_append, Path.follow_cons, Path.follow_nil]
    obtain rfl | rfl := unnamed
    · exact here
    · exact hasDirectory_dropLast here

/-! ## Places

A path that the system takes, and whose directories are there, leads to the place that its text
names. From here on the operations are stated as equivalences: when they go through, and what
comes of it. None of the later lemmas looks at how a path is walked. -/

/-- The system takes the path. -/
def IsFit (path : Path) : Prop :=
  path.text.contains '\x00' = false ∧ path.text.isEmpty = false ∧
    path.text.utf8ByteSize ≤ maxPathLength

/-- The place that the text of a path names. -/
def placeOf (tree : FileTree) (cwd : Route) (path : Path) : Place where
  route := path.routeFrom cwd
  node? := tree.root.get? (path.routeFrom cwd)
  isNamed := path.steps.getLast?.any Path.goesDown
  endsInSlash := path.text.endsWith "/"

variable {cwd : Route} {path : Path}

/-- A path leads to the place that its text names, as far as the directories on the way are there. -/
theorem resolve_eq_ok_iff {place : Place} :
    tree.resolve cwd path = .ok place ↔
      IsFit path ∧ tree.Walkable (path.origin cwd) path.steps ∧ place = tree.placeOf cwd path := by
  unfold resolve IsFit
  change ite _ _ (ite _ _ (ite _ _ ((tree.walk (tree.trail (path.origin cwd)) path.steps).bind _))) = _ ↔ _
  -- the three things for which the system refuses a path, in the order in which it looks for
  -- them
  by_cases nul : path.text.contains '\x00' = true
  · rw [if_pos nul, nul]
    simp
  by_cases empty : path.text.isEmpty = true
  · rw [if_neg nul, if_pos empty, empty]
    simp
  by_cases long : maxPathLength < path.text.utf8ByteSize
  · rw [if_neg nul, if_neg empty, if_pos long]
    simp [Nat.not_le.mpr long]
  rw [if_neg nul, if_neg empty, if_neg long]
  have text : path.text.contains '\x00' = false ∧ path.text.isEmpty = false ∧
      path.text.utf8ByteSize ≤ maxPathLength :=
    ⟨Bool.eq_false_iff.mpr nul, Bool.eq_false_iff.mpr empty, Nat.le_of_not_lt long⟩
  cases walked : tree.walk (tree.trail (path.origin cwd)) path.steps with
  | error error =>
    refine ⟨nofun, fun ⟨_, walkable, _⟩ => ?_⟩
    cases walked.symm.trans (walk_eq_ok_iff.mpr ⟨walkable, rfl⟩)
  | ok trail =>
    obtain ⟨walkable, rfl⟩ := walk_eq_ok_iff.mp walked
    have same : (⟨((tree.trail (path.routeFrom cwd)).map (·.1)).reverse,
        tree.last? (tree.trail (path.routeFrom cwd)), path.steps.getLast?.any Path.goesDown,
        path.text.endsWith "/"⟩ : Place) = tree.placeOf cwd path := by
      rw [names_trail, last?_trail]
      rfl
    refine ⟨fun found => ⟨text, walkable, ?_⟩, fun ⟨_, _, found⟩ => ?_⟩
    · exact (Except.ok.inj found).symm.trans same
    · exact congrArg Except.ok (same.trans found.symm)

/-- What takes the place of a path fails when there is no such place. -/
theorem bind_resolve_eq_ok_iff {α : Type} {next : Place → Except OsError α} {value : α} :
    (tree.resolve cwd path >>= next) = .ok value ↔
      IsFit path ∧ tree.Walkable (path.origin cwd) path.steps ∧
        next (tree.placeOf cwd path) = .ok value := by
  cases found : tree.resolve cwd path with
  | error error =>
    refine ⟨nofun, fun ⟨fit, walkable, _⟩ => ?_⟩
    cases found.symm.trans (resolve_eq_ok_iff.mpr ⟨fit, walkable, rfl⟩)
  | ok place =>
    obtain ⟨fit, walkable, rfl⟩ := resolve_eq_ok_iff.mp found
    exact ⟨fun h => ⟨fit, walkable, h⟩, fun h => h.2.2⟩

/-- A file is found where the path leads to one and does not end in a slash. -/
theorem find_eq_file_iff {content : FileContent} :
    tree.find cwd path = .ok (.file content) ↔
      IsFit path ∧ tree.Walkable (path.origin cwd) path.steps ∧
        tree.file? (path.routeFrom cwd) = some content ∧ path.text.endsWith "/" = false := by
  refine bind_resolve_eq_ok_iff.trans (and_congr_right fun _ => and_congr_right fun _ => ?_)
  unfold file? placeOf
  cases tree.root.get? (path.routeFrom cwd) with
  | none => exact ⟨nofun, fun h => nomatch h.1⟩
  | some node =>
    cases node with
    | directory entries => exact ⟨nofun, fun h => nomatch h.1⟩
    | file there =>
      cases ends : path.text.endsWith "/" with
      | true => exact ⟨nofun, fun h => nomatch h.2⟩
      | false => simp [pure, Except.pure]

/-- A directory is found where the path leads to one, whether or not it ends in a slash. -/
theorem findDirectory_eq_ok_iff {entries : List (String × FileNode)} :
    tree.findDirectory cwd path = .ok (route, entries) ↔
      IsFit path ∧ tree.Walkable (path.origin cwd) path.steps ∧ path.routeFrom cwd = route ∧
        tree.root.get? route = some (.directory entries) := by
  refine bind_resolve_eq_ok_iff.trans (and_congr_right fun _ => and_congr_right fun _ => ?_)
  unfold placeOf
  cases there : tree.root.get? (path.routeFrom cwd) with
  | none => exact ⟨nofun, fun ⟨same, h⟩ => nomatch (same ▸ there).symm.trans h⟩
  | some node =>
    cases node with
    | file content => exact ⟨nofun, fun ⟨same, h⟩ => nomatch (same ▸ there).symm.trans h⟩
    | directory entries =>
      simp only [pure, Except.pure, Except.ok.injEq, Prod.mk.injEq]
      refine and_congr_right fun same => ?_
      rw [← same, there, Option.some.injEq, FileNode.directory.injEq]

/-! ## Changes

What changes the tree goes through when the place can be reached and is free. A file is written
over another one, but made only where nothing is, and neither takes the place of a directory. -/

/-- A new file or directory can be put where the path leads, in a directory and under a name. -/
structure Reaches (tree : FileTree) (cwd : Route) (path : Path) : Prop where
  fit : IsFit path
  walkable : tree.Walkable (path.origin cwd) path.steps
  named : path.steps.getLast?.any Path.goesDown = true

theorem Reaches.inDirectory (h : tree.Reaches cwd path) :
    ∃ parent name, path.routeFrom cwd = parent ++ [name] ∧ tree.HasDirectory parent :=
  parent_of_walkable h.walkable h.named

/-- What puts a file where a path leads asks for a name without a slash, and for a place that is
free. -/
theorem bind_resolve_eq_putFile_iff {next : Place → Except OsError FileTree}
    (free : Option FileNode → Prop) {content : FileContent}
    (once : ∀ place, next place = .ok after ↔
      (place.isNamed = true ∧ place.endsInSlash = false ∧ free place.node?) ∧
        after = tree.putFile place.route content) :
    (tree.resolve cwd path >>= next) = .ok after ↔
      (tree.Reaches cwd path ∧ path.text.endsWith "/" = false ∧
        free (tree.root.get? (path.routeFrom cwd))) ∧
      after = tree.putFile (path.routeFrom cwd) content := by
  rw [bind_resolve_eq_ok_iff, once]
  constructor
  · rintro ⟨fit, walkable, ⟨named, noSlash, isFree⟩, rfl⟩
    exact ⟨⟨⟨fit, walkable, named⟩, noSlash, isFree⟩, rfl⟩
  · rintro ⟨⟨reaches, noSlash, isFree⟩, rfl⟩
    exact ⟨reaches.fit, reaches.walkable, ⟨reaches.named, noSlash, isFree⟩, rfl⟩

/-- Files are written under a name, where no directory is. -/
theorem write_eq_ok_iff {content : FileContent} :
    tree.write cwd path content = .ok after ↔
      (tree.Reaches cwd path ∧ path.text.endsWith "/" = false ∧
        ¬ tree.HasDirectory (path.routeFrom cwd)) ∧
      after = tree.putFile (path.routeFrom cwd) content := by
  refine bind_resolve_eq_putFile_iff (fun node => ¬ ∃ entries, node = some (.directory entries))
    fun ⟨route, node, named, slash⟩ => ?_
  cases named with
  | false => exact ⟨nofun, fun h => nomatch h.1.1⟩
  | true =>
    cases slash with
    | true => exact ⟨nofun, fun h => nomatch h.1.2.1⟩
    | false =>
      -- nothing is there, or a file that is replaced, or a directory that is in the way
      obtain _ | content | entries := node
      · exact ⟨fun h => ⟨⟨rfl, rfl, nofun⟩, (Except.ok.inj h).symm⟩, fun h => congrArg _ h.2.symm⟩
      · exact ⟨fun h => ⟨⟨rfl, rfl, nofun⟩, (Except.ok.inj h).symm⟩, fun h => congrArg _ h.2.symm⟩
      · exact ⟨nofun, fun h => absurd ⟨entries, rfl⟩ h.1.2.2⟩

/-- A file is made under a name, where nothing is. -/
theorem createNew_eq_ok_iff :
    tree.createNew cwd path = .ok after ↔
      (tree.Reaches cwd path ∧ path.text.endsWith "/" = false ∧
        tree.root.get? (path.routeFrom cwd) = none) ∧
      after = tree.putFile (path.routeFrom cwd) (.bytes ByteArray.empty) := by
  refine bind_resolve_eq_putFile_iff (fun node => node = none) fun ⟨route, node, named, slash⟩ => ?_
  cases named with
  | false => exact ⟨nofun, fun h => nomatch h.1.1⟩
  | true =>
    cases slash with
    | true => exact ⟨nofun, fun h => nomatch h.1.2.1⟩
    | false =>
      cases node with
      | some node => exact ⟨nofun, fun h => nomatch h.1.2.2⟩
      | none =>
        exact ⟨fun h => ⟨⟨rfl, rfl, rfl⟩, (Except.ok.inj h).symm⟩, fun h => congrArg _ h.2.symm⟩

/-- A directory is made under a name, where nothing is. -/
theorem of_makeDirectory (made : tree.makeDirectory cwd path = .ok after) :
    tree.Reaches cwd path ∧ tree.root.get? (path.routeFrom cwd) = none ∧
      after = tree.put (path.routeFrom cwd) (.directory []) := by
  obtain ⟨fit, walkable, made⟩ := bind_resolve_eq_ok_iff.mp made
  unfold placeOf at made
  cases there : tree.root.get? (path.routeFrom cwd) with
  | some node =>
    rw [there] at made
    cases made
  | none =>
    rw [there] at made
    refine ⟨⟨fit, walkable, ?_⟩, rfl, (Except.ok.inj made).symm⟩
    refine Bool.not_eq_false _ ▸ fun unnamed => ?_
    -- a path that ends in no name leads to a directory, and there is one already
    have directory : tree.HasDirectory (path.routeFrom cwd) := by
      by_cases none : path.steps = []
      · have absolute : path.isAbsolute = true := by
          refine Bool.not_eq_false _ ▸ fun relative => ?_
          exact Path.steps_ne_nil relative fit.2.1 none
        rw [Path.routeFrom_of_isAbsolute absolute, none]
        exact tree.hasDirectory_root
      · exact hasDirectory_of_unnamed walkable none unnamed
    exact not_hasDirectory_of_eq_none there directory

/-! ## What changes keep

The other half of what a change does: one file, and nothing else. Directories are what the ways
through the tree depend on, so as long as they stay, every path leads where it led before, and
what could be written can still be written. -/

/-- What was a directory still is one. -/
def KeepsDirectories (tree after : FileTree) : Prop :=
  ∀ route, tree.HasDirectory route → after.HasDirectory route

theorem KeepsDirectories.trans {last : FileTree} (first : tree.KeepsDirectories after)
    (second : after.KeepsDirectories last) : tree.KeepsDirectories last :=
  fun route there => second route (first route there)

/-- A way that could be walked still can, since its directories are there. -/
theorem KeepsDirectories.walkable {steps : List String} (kept : tree.KeepsDirectories after)
    (walkable : tree.Walkable route steps) : after.Walkable route steps := by
  induction steps generalizing route with
  | nil => trivial
  | cons step rest ih => exact ⟨kept _ walkable.1, walkable.2.1, ih walkable.2.2⟩

theorem KeepsDirectories.reaches (kept : tree.KeepsDirectories after)
    (h : tree.Reaches cwd path) : after.Reaches cwd path :=
  ⟨h.fit, kept.walkable h.walkable, h.named⟩

/-- What is a directory was one, and the other way round. -/
def SameDirectories (tree after : FileTree) : Prop :=
  ∀ route, after.HasDirectory route ↔ tree.HasDirectory route

theorem SameDirectories.kept (same : tree.SameDirectories after) : tree.KeepsDirectories after :=
  fun route => (same route).mpr

/-- A directory that was found is found again at the same route. -/
theorem SameDirectories.findDirectory (same : tree.SameDirectories after)
    {entries : List (String × FileNode)}
    (there : tree.findDirectory cwd path = .ok (route, entries)) :
    ∃ now, after.findDirectory cwd path = .ok (route, now) := by
  obtain ⟨fit, walkable, leads, here⟩ := findDirectory_eq_ok_iff.mp there
  obtain ⟨now, found⟩ := (same route).mpr ⟨entries, here⟩
  exact ⟨now, findDirectory_eq_ok_iff.mpr ⟨fit, same.kept.walkable walkable, leads, found⟩⟩

/-- Whether a file can be written depends on the directories alone. -/
theorem SameDirectories.write (same : tree.SameDirectories after) {content : FileContent}
    {last : FileTree} (written : tree.write cwd path content = .ok last) (new : FileContent) :
    ∃ last, after.write cwd path new = .ok last := by
  obtain ⟨⟨reaches, noSlash, free⟩, -⟩ := write_eq_ok_iff.mp written
  refine ⟨_, write_eq_ok_iff.mpr ⟨⟨same.kept.reaches reaches, noSlash, ?_⟩, rfl⟩⟩
  exact fun there => free ((same _).mp there)

/-- A file that is put where a path leads is the only file that changes, and no directory does. -/
theorem Reaches.putFile_changes (reaches : tree.Reaches cwd path)
    (free : ¬ tree.HasDirectory (path.routeFrom cwd)) (content : FileContent) :
    (∀ other, (tree.putFile (path.routeFrom cwd) content).file? other =
      if other = path.routeFrom cwd then some content else tree.file? other) ∧
    tree.SameDirectories (tree.putFile (path.routeFrom cwd) content) := by
  obtain ⟨parent, name, same, inside⟩ := reaches.inDirectory
  rw [same] at free ⊢
  exact ⟨file?_putFile inside free, hasDirectory_putFile inside free⟩

/-- A write changes the file that it writes, and nothing else. -/
theorem write_changes {content : FileContent} (written : tree.write cwd path content = .ok after) :
    (∀ other, after.file? other =
      if other = path.routeFrom cwd then some content else tree.file? other) ∧
    tree.SameDirectories after := by
  obtain ⟨⟨reaches, -, free⟩, rfl⟩ := write_eq_ok_iff.mp written
  exact reaches.putFile_changes free content

/-- A new file is the only file that changes, and it is empty. -/
theorem createNew_changes (made : tree.createNew cwd path = .ok after) :
    (∀ other, after.file? other =
      if other = path.routeFrom cwd then some (.bytes ByteArray.empty) else tree.file? other) ∧
    tree.SameDirectories after := by
  obtain ⟨⟨reaches, -, nothing⟩, rfl⟩ := createNew_eq_ok_iff.mp made
  exact reaches.putFile_changes (not_hasDirectory_of_eq_none nothing) _

/-- No file changes when a directory is made. -/
theorem makeDirectory_keeps (made : tree.makeDirectory cwd path = .ok after) :
    after.file? = tree.file? ∧ tree.KeepsDirectories after := by
  obtain ⟨reaches, nothing, rfl⟩ := of_makeDirectory made
  obtain ⟨parent, name, same, inside⟩ := reaches.inDirectory
  rw [same] at nothing ⊢
  exact ⟨funext (file?_putDirectory inside nothing),
    fun _ => hasDirectory_putDirectory inside (not_hasDirectory_of_eq_none nothing)⟩

/-- A directory that is there already is as good as one that is made. -/
theorem eq_of_settled {there : Bool} {error : OsError}
    (h : (if there then .ok tree else .error error) = Except.ok after) : after = tree := by
  split at h
  · exact (Except.ok.inj h).symm
  · cases h

theorem makeDirectoriesAlong_keeps {paths : List Path}
    (made : makeDirectoriesAlong cwd tree paths = .ok after) :
    after.file? = tree.file? ∧ tree.KeepsDirectories after := by
  -- the induction is on the paths, from the whole one up; each is tried again once those above
  -- it are
  induction paths generalizing tree after with
  | nil => cases made
  | cons path above ih =>
    unfold makeDirectoriesAlong at made
    split at made
    · obtain rfl := Except.ok.inj made
      exact ⟨rfl, fun _ => id⟩
    dsimp only at made
    split at made
    · next once => exact makeDirectory_keeps (once.trans made)
    · split at made
      · cases made
      · next middle up =>
        obtain ⟨files, directories⟩ := ih up
        split at made
        · next once =>
          obtain ⟨same, kept⟩ := makeDirectory_keeps (once.trans made)
          exact ⟨same.trans files, directories.trans kept⟩
        · rw [eq_of_settled made]
          exact ⟨files, directories⟩
    · rw [eq_of_settled made]
      exact ⟨rfl, fun _ => id⟩

/-- A directory that is there is left as it is. -/
theorem makeDirectories_of_findDirectory {entries : List (String × FileNode)}
    (there : tree.findDirectory cwd path = .ok (route, entries)) :
    tree.makeDirectories cwd path = .ok tree := by
  obtain ⟨fit, walkable, rfl, here⟩ := findDirectory_eq_ok_iff.mp there
  have place : tree.resolve cwd path = .ok (tree.placeOf cwd path) :=
    resolve_eq_ok_iff.mpr ⟨fit, walkable, rfl⟩
  have occupied : tree.makeDirectory cwd path = .error .alreadyExists := by
    simp [makeDirectory, place, placeOf, here, bind, Except.bind, throw, throwThe,
      MonadExceptOf.throw]
  have directory : tree.isDirectory cwd path = true := by
    simp [isDirectory, find, place, placeOf, here, bind, Except.bind, pure, Except.pure]
  obtain ⟨above, shape⟩ : ∃ above, path.ancestors = path :: above := by
    unfold Path.ancestors
    cases path.text.length <;> exact ⟨_, rfl⟩
  rw [makeDirectories, shape, makeDirectoriesAlong, fit.2.1, occupied]
  simp [directory]

/-! ## Archives

An archive is made in two writes, first its header and then its content. The content is that of
the directory in between. So if the archive itself stands in that directory, it holds its own
header, and what the lemmas say is true of this case as well. -/

/-- An archive holds every file below the directory, under its route from there. -/
theorem mem_archiveEntries {top : String} {directory : FileNode} {content : FileContent}
    (below : route ≠ []) (found : directory.get? route = some (.file content)) :
    ("/".intercalate (top :: route), content.data) ∈ archiveEntries top directory :=
  List.mem_cons_of_mem _ (List.mem_map.mpr ⟨_, FileNode.mem_descendants below found, rfl⟩)

/-- A file that can be written can be written with another content. -/
theorem write_again {content : FileContent} (written : tree.write cwd path content = .ok after)
    (new : FileContent) : ∃ last, tree.write cwd path new = .ok last :=
  SameDirectories.write (fun _ => Iff.rfl) written new

/-- What was written is found where it was written. -/
theorem find_of_write {content : FileContent} (written : tree.write cwd path content = .ok after) :
    after.find cwd path = .ok (.file content) := by
  obtain ⟨⟨reaches, noSlash, -⟩, -⟩ := write_eq_ok_iff.mp written
  obtain ⟨files, directories⟩ := write_changes written
  refine find_eq_file_iff.mpr ⟨reaches.fit, ?_, ?_, noSlash⟩
  · exact directories.kept.walkable reaches.walkable
  · rw [files, if_pos rfl]

theorem find_of_write_beside {other : Path} {content new : FileContent}
    (found : tree.find cwd other = .ok (.file content))
    (written : tree.write cwd path new = .ok after)
    (apart : other.routeFrom cwd ≠ path.routeFrom cwd) :
    after.find cwd other = .ok (.file content) := by
  obtain ⟨fit, walkable, there, noSlash⟩ := find_eq_file_iff.mp found
  obtain ⟨files, directories⟩ := write_changes written
  refine find_eq_file_iff.mpr ⟨fit, ?_, ?_, noSlash⟩
  · exact directories.kept.walkable walkable
  · rw [files, if_neg apart, there]

/-- An archive of a directory is the only file that changes, and it holds what the directory holds
when its header has been written. -/
theorem archive_changes {directory : Path} (filled : tree.archive cwd path directory = (.ok (), after)) :
    ∃ begun entries, tree.write cwd path (.bytes archiveHeader) = .ok begun ∧
      begun.root.get? (directory.routeFrom cwd) = some (.directory entries) ∧
      tree.write cwd path (.archive (archiveEntries "src" (.directory entries))) = .ok after := by
  unfold archive at filled
  cases source : tree.findDirectory cwd directory with
  | error error =>
    rw [source] at filled
    cases filled
  | ok found =>
    obtain ⟨route, old⟩ := found
    obtain ⟨fit, walkable, rfl, there⟩ := findDirectory_eq_ok_iff.mp source
    rw [source] at filled
    dsimp only at filled
    cases header : tree.write cwd path (.bytes archiveHeader) with
    | error error =>
      rw [header] at filled
      cases filled
    | ok begun =>
      rw [header] at filled
      -- the header changed no directory, so this one is still there, with the entries of now
      obtain ⟨entries, now⟩ := ((write_changes header).2 _).mpr ⟨old, there⟩
      obtain ⟨last, again⟩ :=
        write_again header (.archive (archiveEntries "src" (.directory entries)))
      refine ⟨begun, entries, rfl, now, ?_⟩
      dsimp only at filled
      rw [now, Option.getD_some, again] at filled
      rw [again]
      exact congrArg Except.ok (Prod.mk.inj filled).2

/-- A file that has just been made can be filled with an archive of a directory that is there. -/
theorem exists_archive {directory : Path} {entries : List (String × FileNode)}
    (made : tree.createNew cwd path = .ok after)
    (source : after.findDirectory cwd directory = .ok (route, entries)) :
    ∃ filled, after.archive cwd path directory = (.ok (), filled) := by
  obtain ⟨⟨reaches, noSlash, nothing⟩, -⟩ := createNew_eq_ok_iff.mp made
  obtain ⟨-, directories⟩ := createNew_changes made
  have free : ¬ after.HasDirectory (path.routeFrom cwd) := fun there =>
    not_hasDirectory_of_eq_none nothing ((directories _).mp there)
  have header : after.write cwd path (.bytes archiveHeader) = .ok _ :=
    write_eq_ok_iff.mpr ⟨⟨directories.kept.reaches reaches, noSlash, free⟩, rfl⟩
  unfold archive
  rw [source]
  dsimp only
  rw [header]
  exact ⟨_, rfl⟩

/-! ## Procedures

A procedure that asks for work on the disk is carried out on a tree, and with it the facts about
the operations become facts about procedures. -/

variable {α β : Type}

/-- Carries out on a tree what a procedure asks of the disk. -/
def carryOut (cwd : Route) (work : Procedure Disk.Call Disk.Answer α) : StateM FileTree α :=
  work.handle fun call tree => tree.perform cwd call

/-- Two parts are carried out one after the other, the second on the tree that the first one
leaves. -/
theorem carryOut_bind (work : Procedure Disk.Call Disk.Answer α)
    (next : α → Procedure Disk.Call Disk.Answer β) :
    carryOut cwd (work >>= next) tree =
      carryOut cwd (next (carryOut cwd work tree).1) (carryOut cwd work tree).2 := by
  induction work generalizing tree with
  | done value => rfl
  | call c rest ih =>
    rw [Procedure.call_bind]
    exact ih _

end FileTree

end AzcRepair
