import Mathlib.Data.List.Sort
import AzcRepair.Proofs.FileTree.Below
import AzcRepair.Toolchain.Project

/-!
# What the search for a project finds

The search for a file with an extension asks for one path after the other. On a tree of files it
finds the first of all the files that it could find.

* `Precedes` — the order of the search.
* `IsHit`, `IsFirst` — a file that the search could find, and the first one.
* `firstBelow` — the search as a function of the tree; `findWithin_run` says that it is what the
  search does.
* `firstBelow_exact` — by induction on the levels that may be entered.
* `findFirst_exact` — what the search finds, and when it finds nothing.
-/

namespace AzcRepair.Toolchain

open FileTree (carryOut carryOut_bind IsFit IsName WellNamed)

/-! ## The order of the search

The files of a directory are asked for before any of its subdirectories is entered, so a file lies
before all that is deeper in the same directory. Below that, names are compared. -/

/-- The files of a directory come before what is in its subdirectories. Files go by their names, and
so do subdirectories with all that is in them. -/
inductive Precedes : Route → Route → Prop where
  | files {one other : String} (before : one < other) : Precedes [one] [other]
  | deeper {one other next : String} {rest : Route} : Precedes [one] (other :: next :: rest)
  | directories {one other first second : String} {rest more : Route} (before : one < other) :
    Precedes (one :: first :: rest) (other :: second :: more)
  | within {name first second : String} {rest more : Route}
    (inner : Precedes (first :: rest) (second :: more)) :
    Precedes (name :: first :: rest) (name :: second :: more)

theorem Precedes.asymm {one other : Route} (before : Precedes one other) :
    ¬ Precedes other one := by
  induction before with
  | files before =>
    intro after
    cases after with
    | files after => exact String.lt_asymm before after
  | deeper => exact nofun
  | directories before =>
    intro after
    cases after with
    | directories after => exact String.lt_asymm before after
    | within => exact String.lt_irrefl _ before
  | within inner ih =>
    intro after
    cases after with
    | directories after => exact String.lt_irrefl _ after
    | within after => exact ih after

/-- Along the names below a directory there is a regular file with the extension, and the system
takes its path. -/
structure IsHit (tree : FileTree) (cwd : Route) (extension : String) (dir : Path) (names : Route) :
    Prop where
  file : (tree.file? (dir.routeFrom cwd ++ names)).isSome = true
  extended : names.getLast?.bind Path.extensionOf? = some extension
  fit : IsFit (dir.below names)

/-- The file comes before all others with the extension. -/
structure IsFirst (tree : FileTree) (cwd : Route) (extension : String) (dir : Path)
    (names : Route) : Prop where
  hit : IsHit tree cwd extension dir names
  least : ∀ other, IsHit tree cwd extension dir other → other = names ∨ Precedes names other

variable {tree : FileTree} {cwd base : Route} {extension : String} {dir path : Path} {name : String}
  {names : Route} {inner : List (String × FileNode)}

theorem IsFirst.unique {other : Route} (one : IsFirst tree cwd extension dir names)
    (first : IsFirst tree cwd extension dir other) : other = names := by
  -- of two files one comes before the other, and both cannot come first
  rcases one.least other first.hit with same | before
  · exact same
  · rcases first.least names one.hit with same | after
    · exact same.symm
    · exact absurd after before.asymm

/-- Which file comes first depends on which files there are. -/
theorem IsFirst.congr {after : FileTree}
    (same : ∀ names, IsHit after cwd extension dir names ↔ IsHit tree cwd extension dir names)
    (first : IsFirst tree cwd extension dir names) : IsFirst after cwd extension dir names where
  hit := (same names).mpr first.hit
  least other otherHit := first.least other ((same other).mp otherHit)

/-! ## Names in order

The entries of a directory are sorted before they are asked for. What the order of the tree is
does not matter, then. -/

/-- Names in the order in which they are asked for. -/
def byName (names : List String) : List String :=
  names.insertionSort (· ≤ ·)

theorem total_le : Std.Total fun one other : String => one ≤ other :=
  ⟨String.le_total⟩

theorem trans_le : IsTrans String (· ≤ ·) :=
  ⟨fun _ _ _ => String.le_trans⟩

theorem antisymm_le : Std.Antisymm fun one other : String => one ≤ other :=
  ⟨fun _ _ => String.le_antisymm⟩

theorem entries_eq (dir : Path) (names : List String) :
    entries dir names = (byName names).map (dir / ·) := by
  have := total_le
  have := trans_le
  have := antisymm_le
  have sorted : (names.mergeSort fun one other => decide (one ≤ other)) = byName names :=
    List.mergeSort_eq_insertionSort (· ≤ ·) names
  rw [entries, sorted]

theorem mem_byName {names : List String} : name ∈ byName names ↔ name ∈ names :=
  List.mem_insertionSort (· ≤ ·)

theorem byName_ordered (names : List String) : (byName names).Pairwise (· ≤ ·) := by
  have := total_le
  have := trans_le
  exact List.pairwise_insertionSort (· ≤ ·) names

/-- What is neither asked for before a name nor that name comes behind it. -/
theorem mem_before_or_le {names before after : List String} {other : String}
    (parts : byName names = before ++ name :: after) (mem : other ∈ names) :
    other ∈ before ∨ other = name ∨ name < other := by
  have among : other ∈ before ++ name :: after := parts ▸ mem_byName.mpr mem
  have ordered := byName_ordered names
  rw [parts, List.pairwise_append, List.pairwise_cons] at ordered
  obtain ⟨-, ⟨behind, -⟩, -⟩ := ordered
  rcases List.mem_append.mp among with early | late
  · exact .inl early
  · rcases List.mem_cons.mp late with same | later
    · exact .inr (.inl same)
    · by_cases same : other = name
      · exact .inr (.inl same)
      · have less : name < other := by
          by_contra more
          exact same (String.le_antisymm (String.not_lt.mp more) (behind other later))
        exact .inr (.inr less)

/-! ## The search on a tree

The search asks the disk for one entry after the other. On a tree it comes to `firstBelow`, which
asks for nothing; from here on only that is looked at. -/

/-- There is a regular file with the extension at the path. -/
def hits (tree : FileTree) (cwd : Route) (extension : String) (path : Path) : Bool :=
  tree.isFile cwd path && path.fileName?.bind Path.extensionOf? == some extension

/-- The first file with the extension, when so many more levels may be entered. -/
def firstBelow (tree : FileTree) (cwd : Route) (extension : String) : Nat → Path → Option Path
  | 0, _ => none
  | depth + 1, dir =>
    match tree.findDirectory cwd dir with
    | .error _ => none
    | .ok (_, inner) =>
      let paths := (byName (inner.map (·.1))).map (dir / ·)
      (paths.find? (hits tree cwd extension)).or
        (paths.findSome? (firstBelow tree cwd extension depth))

theorem firstFile_run (paths : List Path) :
    carryOut cwd (firstFile extension paths).run tree =
      (.ok (paths.find? (hits tree cwd extension)), tree) := by
  induction paths with
  | nil => rfl
  | cons path rest ih =>
    have once : carryOut cwd (firstFile extension (path :: rest)).run tree =
        carryOut cwd (if hits tree cwd extension path then pure (some path)
          else firstFile extension rest : Lookup (Option Path)).run tree := rfl
    rw [once, List.find?_cons]
    cases hits tree cwd extension path with
    | true => rfl
    | false => exact ih

theorem firstFound_run {search : Path → Lookup (Option Path)} {found : Path → Option Path}
    (paths : List Path)
    (searches : ∀ path, carryOut cwd (search path).run tree = (.ok (found path), tree)) :
    carryOut cwd (firstFound search paths).run tree = (.ok (paths.findSome? found), tree) := by
  induction paths with
  | nil => rfl
  | cons path rest ih =>
    rw [firstFound, ExceptT.run_bind, carryOut_bind, searches, List.findSome?_cons]
    cases found path with
    | none => exact ih
    | some path => rfl

/-- The search refuses nothing, changes nothing, and finds what the tree shows. -/
theorem findWithin_run (depth : Nat) (dir : Path) :
    carryOut cwd (findWithin extension depth dir).run tree =
      (.ok (firstBelow tree cwd extension depth dir), tree) := by
  -- no level may be entered, or the directory is asked for and what is in it in turn
  induction depth generalizing dir with
  | zero => rfl
  | succ depth ih =>
    have looks : carryOut cwd (ExceptT.lift (Disk.ask (.isDirectory dir)) : Lookup Bool).run tree =
        (.ok (tree.isDirectory cwd dir), tree) := rfl
    have lists : carryOut cwd (ExceptT.mk (Disk.ask (.list dir)) : Lookup (List String)).run tree =
        ((tree.findDirectory cwd dir).map fun found => found.2.map (·.1), tree) := rfl
    rw [findWithin, firstBelow, ExceptT.run_bind, carryOut_bind, looks]
    cases found : tree.findDirectory cwd dir with
    | error error =>
      -- the search asks whether there is a directory before it asks what is in it
      have missing : tree.isDirectory cwd dir = false := by
        rw [Bool.eq_false_iff]
        intro there
        obtain ⟨_, _, opened⟩ := FileTree.isDirectory_eq_true_iff.mp there
        cases found.symm.trans opened
      rw [missing]
      rfl
    | ok opened =>
      obtain ⟨route, inner⟩ := opened
      have there : tree.isDirectory cwd dir = true :=
        FileTree.isDirectory_eq_true_iff.mpr ⟨route, inner, found⟩
      rw [there]
      dsimp only
      rw [if_neg (by decide), ExceptT.run_bind, carryOut_bind, lists, found]
      dsimp only [Except.map]
      rw [entries_eq, ExceptT.run_bind, carryOut_bind, firstFile_run]
      dsimp only
      cases ((byName (inner.map (·.1))).map (dir / ·)).find? (hits tree cwd extension) with
      | some path => rfl
      | none => exact firstFound_run _ ih

/-! ## Hits

A hit below a directory is the directory's own file, or a hit below one of its subdirectories.
Names that are empty or lead upwards would spoil this, so the tree has to be well named. -/

theorem IsHit.ne_nil (hit : IsHit tree cwd extension dir names) : names ≠ [] := by
  rintro rfl
  cases hit.extended

theorem IsHit.there (hit : IsHit tree cwd extension dir names) :
    tree.root.get? (dir.routeFrom cwd ++ names) ≠ none :=
  FileTree.get?_ne_none_of_file hit.file

/-- A hit below a name is one below its path. -/
theorem isHit_cons_iff (named : IsName name) (next : String) (rest : Route) :
    IsHit tree cwd extension dir (name :: next :: rest) ↔
      IsHit tree cwd extension (dir / name) (next :: rest) := by
  have route : dir.routeFrom cwd ++ name :: next :: rest =
      (dir / name).routeFrom cwd ++ next :: rest := by
    rw [named.routeFrom, List.append_assoc, List.singleton_append]
  constructor
  · rintro ⟨file, extended, fit⟩
    exact ⟨route ▸ file, by rwa [List.getLast?_cons_cons] at extended, fit⟩
  · rintro ⟨file, extended, fit⟩
    exact ⟨route ▸ file, by rwa [List.getLast?_cons_cons], fit⟩

section Found

variable (found : tree.findDirectory cwd dir = .ok (base, inner))

include found

theorem hits_name_iff (named : IsName name) :
    hits tree cwd extension (dir / name) = true ↔ IsHit tree cwd extension dir [name] := by
  obtain ⟨-, -, leads, -⟩ := FileTree.findDirectory_eq_ok_iff.mp found
  rw [hits, Bool.and_eq_true, FileTree.isFile_name_iff found named,
    Path.fileName?_name named.toIsPlain, beq_iff_eq, ← leads]
  constructor
  · rintro ⟨⟨file, fit⟩, extended⟩
    exact ⟨file, extended, fit⟩
  · rintro ⟨file, extended, fit⟩
    exact ⟨⟨file, fit⟩, extended⟩

/-- A hit lies under one of the names in the directory. -/
theorem IsHit.mem_names {rest : Route} (hit : IsHit tree cwd extension dir (name :: rest)) :
    name ∈ inner.map (·.1) := by
  obtain ⟨-, -, leads, -⟩ := FileTree.findDirectory_eq_ok_iff.mp found
  rw [FileTree.mem_names_iff found]
  intro nothing
  apply hit.there
  rw [leads, ← List.singleton_append, ← List.append_assoc, FileNode.get?_append, nothing]
  rfl

variable (wellNamed : tree.WellNamed base)

include wellNamed

theorem isName_of_mem (mem : name ∈ inner.map (·.1)) : IsName name :=
  wellNamed [name] ((FileTree.mem_names_iff found).mp mem) name List.mem_cons_self

/-- A hit that lies deeper lies in a directory that is found. -/
theorem IsHit.findDirectory {next : String} {rest : Route}
    (hit : IsHit tree cwd extension dir (name :: next :: rest)) :
    ∃ below, tree.findDirectory cwd (dir / name) = .ok (base ++ [name], below) := by
  obtain ⟨-, -, leads, -⟩ := FileTree.findDirectory_eq_ok_iff.mp found
  have there := hit.there
  rw [leads] at there
  have named := wellNamed _ there
  obtain ⟨node, shows⟩ := Option.ne_none_iff_exists'.mp there
  have deep : tree.root.get? ((base ++ [name]) ++ next :: rest) = some node := by
    rw [← shows, List.append_assoc, List.singleton_append]
  obtain ⟨below, here⟩ := FileTree.hasDirectory_of_append (List.cons_ne_nil next rest) deep
  obtain ⟨first, others⟩ := List.forall_mem_cons.mp named
  have fit : IsFit (dir / name) :=
    Path.isFit_of_below (fun other mem => (others other mem).toIsPlain)
      (Path.text_name_ne first.toIsPlain dir) hit.fit
  exact ⟨below, (FileTree.findDirectory_name_iff found first).mpr ⟨fit, rfl, here⟩⟩

end Found

/-! ## What is found

The induction is on the levels that may still be entered. The limit on the length of a path is
smaller than the depth of the search, so no hit is out of reach. -/

/-- What a search below a directory may come to: nothing where there are no hits, and else the path
of the first one. -/
inductive Finds (tree : FileTree) (cwd : Route) (extension : String) (dir : Path) :
    Option Path → Prop where
  | nothing (nowhere : ∀ names, ¬ IsHit tree cwd extension dir names) :
    Finds tree cwd extension dir none
  | first {names : Route} (first : IsFirst tree cwd extension dir names) :
    Finds tree cwd extension dir (some (dir.below names))

theorem Finds.eq_of_isFirst {result : Option Path} (finds : Finds tree cwd extension dir result)
    (first : IsFirst tree cwd extension dir names) : result = some (dir.below names) := by
  cases finds with
  | nothing nowhere => exact absurd first.hit (nowhere names)
  | first other => rw [first.unique other]

theorem firstBelow_of_missing (depth : Nat)
    (missing : ∀ route inner, tree.findDirectory cwd dir ≠ .ok (route, inner)) :
    firstBelow tree cwd extension depth dir = none := by
  cases depth with
  | zero => rfl
  | succ depth =>
    rw [firstBelow]
    cases found : tree.findDirectory cwd dir with
    | error error => rfl
    | ok opened => exact absurd found (missing opened.1 opened.2)

section Found

variable (found : tree.findDirectory cwd dir = .ok (base, inner)) (wellNamed : tree.WellNamed base)

include found wellNamed

/-- The first file of the directory itself comes before all others. -/
theorem isFirst_of_own
    (own : (byName (inner.map (·.1))).find? (hits tree cwd extension ∘ (dir / ·)) = some name) :
    IsFirst tree cwd extension dir [name] := by
  obtain ⟨hit, before, after, parts, earlier⟩ := List.find?_eq_some_iff_append.mp own
  have named (other : String) (mem : other ∈ byName (inner.map (·.1))) : IsName other :=
    isName_of_mem found wellNamed (mem_byName.mp mem)
  have mem : name ∈ byName (inner.map (·.1)) := List.mem_of_find?_eq_some own
  refine ⟨(hits_name_iff found (named name mem)).mp hit, fun other otherHit => ?_⟩
  match other with
  | [] => exact absurd rfl otherHit.ne_nil
  | [other] =>
    rcases mem_before_or_le parts (otherHit.mem_names found) with early | rfl | later
    · have refuted := earlier other early
      have otherNamed := named other (parts ▸ List.mem_append_left _ early)
      rw [Function.comp_apply, (hits_name_iff found otherNamed).mpr otherHit] at refuted
      cases refuted
    · exact .inl rfl
    · exact .inr (.files later)
  -- what lies deeper comes behind every file of the directory itself
  | other :: next :: rest => exact .inr .deeper

theorem not_isHit_of_own
    (own : (byName (inner.map (·.1))).find? (hits tree cwd extension ∘ (dir / ·)) = none)
    (name : String) : ¬ IsHit tree cwd extension dir [name] := by
  intro nameHit
  have mem := nameHit.mem_names found
  have hit := (hits_name_iff found (isName_of_mem found wellNamed mem)).mpr nameHit
  exact List.find?_eq_none.mp own name (mem_byName.mpr mem) hit

/-- Where the directory itself has no such file, the first one of the first subdirectory that has
one comes before all others. -/
theorem isFirst_of_deeper {before after : List String} {rest : Route}
    (parts : byName (inner.map (·.1)) = before ++ name :: after)
    (first : IsFirst tree cwd extension (dir / name) rest)
    (own : ∀ other, ¬ IsHit tree cwd extension dir [other])
    (earlier : ∀ other ∈ before, ∀ rest, ¬ IsHit tree cwd extension (dir / other) rest) :
    IsFirst tree cwd extension dir (name :: rest) := by
  have mem : name ∈ inner.map (·.1) := mem_byName.mp (parts ▸ List.mem_append_cons_self)
  have named := isName_of_mem found wellNamed mem
  obtain ⟨next, more, rfl⟩ := List.exists_cons_of_ne_nil first.hit.ne_nil
  refine ⟨(isHit_cons_iff named next more).mpr first.hit, fun other otherHit => ?_⟩
  match other with
  | [] => exact absurd rfl otherHit.ne_nil
  | [other] => exact absurd otherHit (own other)
  | other :: second :: others =>
    have among := otherHit.mem_names found
    have otherNamed := isName_of_mem found wellNamed among
    have inside := (isHit_cons_iff otherNamed second others).mp otherHit
    rcases mem_before_or_le parts among with early | rfl | later
    · exact absurd inside (earlier other early _)
    · rcases first.least _ inside with same | after
      · exact .inl (by rw [same])
      · exact .inr (.within after)
    · exact .inr (.directories later)

/-- Where the directory itself has no such file, what its subdirectories come to is what it comes
to. -/
theorem finds_deeper {search : Path → Option Path}
    (own : ∀ other, ¬ IsHit tree cwd extension dir [other])
    (within : ∀ name ∈ inner.map (·.1),
      Finds tree cwd extension (dir / name) (search (dir / name))) :
    Finds tree cwd extension dir ((byName (inner.map (·.1))).findSome? (search ∘ (dir / ·))) := by
  -- a subdirectory that the search comes back from without a file has none
  have empty (name : String) (mem : name ∈ inner.map (·.1)) (none : search (dir / name) = none)
      (rest : Route) : ¬ IsHit tree cwd extension (dir / name) rest := by
    have inside := within name mem
    rw [none] at inside
    cases inside with
    | nothing nowhere => exact nowhere rest
  -- no subdirectory has a hit, or the first that has one is found with the ones before it passed
  -- over
  cases deeper : (byName (inner.map (·.1))).findSome? (search ∘ (dir / ·)) with
  | none =>
    apply Finds.nothing
    intro names hit
    match names with
    | [] => exact hit.ne_nil rfl
    | [name] => exact own name hit
    | name :: next :: rest =>
      have mem := hit.mem_names found
      have none := List.findSome?_eq_none_iff.mp deeper name (mem_byName.mpr mem)
      have named := isName_of_mem found wellNamed mem
      exact empty name mem none _ ((isHit_cons_iff named next rest).mp hit)
  | some path =>
    obtain ⟨before, name, after, parts, comes, earlier⟩ := List.findSome?_eq_some_iff.mp deeper
    have mem : name ∈ inner.map (·.1) := mem_byName.mp (parts ▸ List.mem_append_cons_self)
    have inside := within name mem
    rw [Function.comp_apply] at comes
    rw [comes] at inside
    cases inside with
    | @first rest first =>
      refine .first (isFirst_of_deeper found wellNamed parts first own fun other early => ?_)
      have among := mem_byName.mp (parts ▸ List.mem_append_left (name :: after) early)
      exact empty other among (earlier other early)

end Found

/-- The search finds the first hit. The induction is on the levels that may be entered, which are
more than the system takes paths for. -/
theorem firstBelow_exact {depth : Nat} (found : tree.findDirectory cwd dir = .ok (base, inner))
    (wellNamed : tree.WellNamed base)
    (room : FileTree.maxPathLength < dir.text.utf8ByteSize + depth) :
    Finds tree cwd extension dir (firstBelow tree cwd extension depth dir) := by
  induction depth generalizing dir base inner with
  | zero =>
    -- no level is left: the path of the directory would be longer than the system takes
    obtain ⟨⟨-, -, short⟩, -⟩ := FileTree.findDirectory_eq_ok_iff.mp found
    omega
  | succ depth ih =>
    have within (name : String) (mem : name ∈ inner.map (·.1)) :
        Finds tree cwd extension (dir / name)
          (firstBelow tree cwd extension depth (dir / name)) := by
      have named := isName_of_mem found wellNamed mem
      by_cases opens : ∃ route below, tree.findDirectory cwd (dir / name) = .ok (route, below)
      · obtain ⟨route, below, opened⟩ := opens
        obtain ⟨-, rfl, -⟩ := (FileTree.findDirectory_name_iff found named).mp opened
        have longer := Path.size_name named.toIsPlain (FileTree.text_ne_of_found found)
        exact ih opened (wellNamed.within name) (by omega)
      · rw [firstBelow_of_missing depth fun route below opened => opens ⟨route, below, opened⟩]
        refine .nothing fun rest hit => ?_
        obtain ⟨next, more, rfl⟩ := List.exists_cons_of_ne_nil hit.ne_nil
        have deep := (isHit_cons_iff named next more).mpr hit
        obtain ⟨below, opened⟩ := deep.findDirectory found wellNamed
        exact opens ⟨_, below, opened⟩
    rw [firstBelow, found]
    dsimp only
    rw [List.find?_map, List.findSome?_map]
    -- the cases are whether the directory itself has such a file
    cases own : (byName (inner.map (·.1))).find? (hits tree cwd extension ∘ (dir / ·)) with
    | some name => exact .first (isFirst_of_own found wellNamed own)
    | none => exact finds_deeper found wellNamed (not_isHit_of_own found wellNamed own) within

/-- The search may enter more levels than there are paths for. -/
theorem finds_firstBelow (found : tree.findDirectory cwd dir = .ok (base, inner))
    (wellNamed : tree.WellNamed base) :
    Finds tree cwd extension dir (firstBelow tree cwd extension searchDepth dir) := by
  have room : FileTree.maxPathLength < dir.text.utf8ByteSize + searchDepth := by
    unfold FileTree.maxPathLength searchDepth
    omega
  exact firstBelow_exact found wellNamed room

/-- **The search finds the first file with the extension, if there is one.** It goes through on
every tree, changes nothing, and finds nothing exactly when no regular file below the directory has
the extension, as far as the system takes the paths. Otherwise it finds the path of the one that
comes before all others. -/
theorem findFirst_exact (found : tree.findDirectory cwd dir = .ok (base, inner))
    (wellNamed : tree.WellNamed base) :
    ∃ result, carryOut cwd (findFirst extension dir).run tree = (.ok result, tree) ∧
      (result = none ↔ ∀ names, ¬ IsHit tree cwd extension dir names) ∧
      ∀ path, result = some path ↔
        ∃ names, IsFirst tree cwd extension dir names ∧ path = dir.below names := by
  have finds : Finds tree cwd extension dir (firstBelow tree cwd extension searchDepth dir) :=
    finds_firstBelow found wellNamed
  refine ⟨_, findWithin_run searchDepth dir, ?_⟩
  generalize firstBelow tree cwd extension searchDepth dir = result at finds
  cases finds with
  | nothing nowhere =>
    refine ⟨iff_of_true rfl nowhere, fun path => iff_of_false nofun ?_⟩
    rintro ⟨names, first, -⟩
    exact nowhere names first.hit
  | @first names first =>
    refine ⟨iff_of_false nofun fun nowhere => nowhere names first.hit, fun path => ?_⟩
    constructor
    · intro same
      exact ⟨names, first, (Option.some.inj same).symm⟩
    · rintro ⟨other, one, rfl⟩
      exact (Finds.first first).eq_of_isFirst one

end AzcRepair.Toolchain
