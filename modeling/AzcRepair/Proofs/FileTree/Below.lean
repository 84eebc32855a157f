import AzcRepair.Proofs.FileTree.Places

/-!
# Names below a directory

What is in a directory has a name, and is reached by the path of the directory with that name behind
it.

* `Path.IsPlain` — a text that stands for something in a directory; `FileTree.IsName` when the
  system takes it as a name.
* `Path.text_name` — the path of a name; `Path.routeFrom_parent_name` says that the path above it
  leads to the directory.
* `Path.below` — the path along some names.
* `FileTree.WellNamed` — everything below a route has a name.
* `FileTree.isFile_name_iff`, `FileTree.findDirectory_name_iff` — what is found under a name.
-/

namespace AzcRepair

namespace Path

/-! ## Paths of names

A name is put behind the path of a directory with or without a slash, as the text of the directory
ends in one or not. What matters of the new path is its steps, its length and its last name, and
all three can be read off those of the directory. -/

/-- The text is a file name: a single step that leads down. -/
structure IsPlain (name : String) : Prop where
  some : name ≠ ""
  dot : name ≠ "."
  up : name ≠ ".."
  slash : '/' ∉ name.toList

instance (name : String) : Decidable (IsPlain name) :=
  decidable_of_iff (name ≠ "" ∧ name ≠ "." ∧ name ≠ ".." ∧ '/' ∉ name.toList)
    ⟨fun ⟨filled, dot, up, slash⟩ => ⟨filled, dot, up, slash⟩,
      fun h => ⟨h.some, h.dot, h.up, h.slash⟩⟩

variable {name : String} {dir path : Path} {cwd : Route}

theorem IsPlain.not_isIdle (plain : IsPlain name) : isIdle name = false := by
  simp [isIdle, plain.some, plain.dot]

theorem IsPlain.goesDown (plain : IsPlain name) : goesDown name = true := by
  simp [Path.goesDown, plain.dot, plain.up]

theorem IsPlain.routeFrom (plain : IsPlain name) (dir : Path) (cwd : Route) :
    (dir / name).routeFrom cwd = dir.routeFrom cwd ++ [name] :=
  routeFrom_name plain.slash plain.some plain.dot plain.up dir cwd

theorem IsPlain.steps (plain : IsPlain name) (dir : Path) :
    (dir / name).steps = dir.steps ++ [name] := by
  have joined : (dir / name).steps = dir.steps ++ Path.steps ⟨name⟩ :=
    steps_join (isAbsolute_name plain.slash)
  rw [joined, steps_name plain.slash plain.some]

theorem IsPlain.origin (plain : IsPlain name) (dir : Path) (cwd : Route) :
    (dir / name).origin cwd = dir.origin cwd := by
  have same : (dir / name).isAbsolute = dir.isAbsolute :=
    isAbsolute_join (isAbsolute_name plain.slash)
  rw [Path.origin, Path.origin, same]

/-- Behind the text of a directory comes a slash, unless there is one, and then the name. -/
theorem text_name (plain : IsPlain name) (some : dir.text ≠ "") :
    ∃ slash, (dir / name).text = dir.text ++ slash ++ name := by
  have relative : isAbsolute ⟨name⟩ = false := isAbsolute_name plain.slash
  have filled : dir.text.isEmpty = false := String.isEmpty_eq_false_iff.mpr some
  show ∃ slash, (dir.join ⟨name⟩).text = _
  rw [join, relative, filled]
  by_cases ended : (dir.text.toList.getLast? == .some '/') = true
  · exact ⟨"", by simp [ended]⟩
  · exact ⟨"/", by simp [ended]⟩

/-- The path of a name is not empty, since it has a step. -/
theorem text_name_ne (plain : IsPlain name) (dir : Path) : (dir / name).text ≠ "" := by
  intro none
  have steps := plain.steps dir
  have path : dir / name = ⟨""⟩ := congrArg Path.mk none
  rw [path] at steps
  exact List.append_ne_nil_of_right_ne_nil dir.steps (List.cons_ne_nil name []) steps.symm

theorem not_endsWith_name (plain : IsPlain name) (some : dir.text ≠ "") :
    (dir / name).text.endsWith "/" = false := by
  obtain ⟨slash, text⟩ := text_name plain some
  rw [String.endsWith_eq_endsWith_toSlice, String.Slice.endsWith_string_eq_false_iff,
    String.copy_toSlice, text, String.toList_append]
  rintro ⟨front, same⟩
  have last := congrArg List.getLast? same
  -- the last character is that of the name, which holds no slash
  have ended : name.toList.getLast? = .some '/' := by
    have nonempty : name.toList ≠ [] := fun none => plain.some (String.toList_eq_nil_iff.mp none)
    rw [List.getLast?_append_of_ne_nil _ nonempty] at last
    rw [← last]
    simp
  exact plain.slash (List.mem_of_getLast? ended)

theorem size_name (plain : IsPlain name) (some : dir.text ≠ "") :
    dir.text.utf8ByteSize < (dir / name).text.utf8ByteSize := by
  obtain ⟨slash, text⟩ := text_name plain some
  have positive : 0 < name.utf8ByteSize :=
    Nat.pos_of_ne_zero fun none => plain.some (String.utf8ByteSize_eq_zero_iff.mp none)
  rw [text, String.utf8ByteSize_append, String.utf8ByteSize_append]
  omega

/-- Where the system takes the path of a name it takes that of the directory. -/
theorem isFit_of_name (plain : IsPlain name) (some : dir.text ≠ "")
    (fit : FileTree.IsFit (dir / name)) : FileTree.IsFit dir := by
  obtain ⟨nul, -, short⟩ := fit
  obtain ⟨slash, text⟩ := text_name plain some
  refine ⟨?_, String.isEmpty_eq_false_iff.mpr some, ?_⟩
  · rw [String.contains_char_eq, decide_eq_false_iff_not] at nul ⊢
    intro mem
    apply nul
    rw [text, String.toList_append, String.toList_append]
    exact List.mem_append_left _ (List.mem_append_left _ mem)
  · have longer := size_name plain some
    omega

/-- The last name of the path is the name that was put there. -/
theorem fileName?_name (plain : IsPlain name) (dir : Path) :
    (dir / name).fileName? = .some name := by
  have names : (dir / name).names.getLast? = .some name := by
    have steps : (dir / name).names = (dir / name).steps.filter (· ≠ ".") := by
      rw [Path.names, Path.steps, List.filter_filter]
      congr 1
      funext piece
      by_cases none : piece = "" <;> by_cases dot : piece = "." <;> simp [isIdle, none, dot]
    rw [steps, plain.steps, List.filter_append, List.filter_cons_of_pos (by simpa using plain.dot)]
    exact List.getLast?_concat
  rw [fileName?, names]
  split
  · next up => exact absurd (Option.some.inj up) plain.up
  · rfl

/-! ## The path above a name

The parent of a path is found in its text: pieces that do not lead on are cut off at the end, and
then the last name. So the parent is not in general the path that the name was put behind, but it
leads to the same directory. The proof follows the pieces of the text. -/

/-- Pieces that do not lead on are walked along without leaving the place. -/
theorem follow_idle {pieces : List String} (idle : ∀ piece ∈ pieces, isIdle piece = true)
    (route : Route) : follow route (pieces.filter (· ≠ "")) = route := by
  induction pieces with
  | nil => rfl
  | cons piece rest ih =>
    obtain ⟨first, others⟩ := List.forall_mem_cons.mp idle
    by_cases none : piece = ""
    · rw [List.filter_cons_of_neg (by simp [none])]
      exact ih others
    · have dot : piece = "." := by simpa [isIdle, none] using first
      rw [List.filter_cons_of_pos (by simp [none]), follow_cons, dot]
      exact ih others

/-- The pieces of the path of a name: those of the directory, as far as they are walked along, and
the name. -/
theorem pieces_name (plain : IsPlain name) (dir : Path) :
    ∃ above, (dir / name).pieces = above ++ [name] ∧ above.filter (· ≠ "") = dir.steps := by
  have whole : name.toList.splitOn '/' = [name.toList] := List.splitOn_eq_singleton plain.slash
  have behind (front : List Char) : (⟨String.ofList (front ++ '/' :: name.toList)⟩ : Path).pieces =
      (⟨String.ofList front⟩ : Path).pieces ++ [name] := by
    simp [pieces, List.splitOn_append_cons_self, whole]
  have text : (dir / name).text = (dir.join ⟨name⟩).text := rfl
  obtain ⟨dir⟩ := dir
  rw [join, isAbsolute_name plain.slash, Bool.false_or] at text
  -- nothing stands before the name, or a slash ends it already, or one is put in between
  split at text
  · next empty =>
    obtain rfl := String.isEmpty_iff.mp empty
    refine ⟨[], ?_, rfl⟩
    rw [pieces, text, whole]
    simp
  split at text
  · next ended =>
    obtain ⟨front, slash⟩ := List.getLast?_eq_some_iff.mp (beq_iff_eq.mp ended)
    have same : dir = String.ofList (front ++ ['/']) := by rw [← slash, String.ofList_toList]
    have shape : Path.mk dir / name = ⟨String.ofList (front ++ '/' :: name.toList)⟩ := by
      rw [Path.mk.injEq, ← String.toList_inj, text]
      simp [same]
    refine ⟨_, by rw [shape, behind], ?_⟩
    rw [same, steps_endSlash]
    rfl
  · have shape : Path.mk dir / name = ⟨String.ofList (dir.toList ++ '/' :: name.toList)⟩ := by
      rw [Path.mk.injEq, ← String.toList_inj, text]
      simp
    refine ⟨_, by rw [shape, behind], ?_⟩
    rw [String.ofList_toList]
    rfl

/-- A path is absolute when its first piece is empty and another one follows. -/
theorem isAbsolute_iff :
    path.isAbsolute = true ↔ ∃ next rest, path.pieces = "" :: next :: rest := by
  obtain ⟨text⟩ := path
  unfold isAbsolute pieces
  cases shape : text.toList with
  | nil => simp
  | cons c rest =>
    obtain ⟨piece, others, split⟩ := List.exists_cons_of_ne_nil (List.splitOn_ne_nil '/' rest)
    by_cases slash : c = '/'
    · simp [slash, List.splitOn_cons_eq_if_modifyHead, split]
    · simp [slash, List.splitOn_cons_eq_if_modifyHead, split, beq_iff_eq]

/-- Pieces that are joined by slashes are the pieces of the whole. -/
theorem pieces_intercalate {kept : List String} (some : kept ≠ [])
    (flat : ∀ piece ∈ kept, '/' ∉ piece.toList) :
    (⟨"/".intercalate kept⟩ : Path).pieces = kept := by
  have slash : "/".toList = ['/'] := rfl
  rw [pieces, String.toList_intercalate, slash, List.splitOn_intercalate]
  · simp
  · exact List.forall_mem_map.mpr flat
  · simpa using some

theorem slash_notMem_splitOn {text piece : List Char} (mem : piece ∈ text.splitOn '/') :
    '/' ∉ piece := by
  induction text generalizing piece with
  | nil =>
    rw [List.splitOn_nil, List.mem_singleton] at mem
    simp [mem]
  | cons c rest ih =>
    rw [List.splitOn_cons_eq_if_modifyHead] at mem
    by_cases slash : c = '/'
    · rw [if_pos (by simp [slash])] at mem
      rcases List.mem_cons.mp mem with rfl | later
      · exact List.not_mem_nil
      · exact ih later
    · obtain ⟨first, others, split⟩ := List.exists_cons_of_ne_nil (List.splitOn_ne_nil '/' rest)
      rw [split] at ih
      rw [if_neg (by simp [slash]), split, List.modifyHead_cons] at mem
      rcases List.mem_cons.mp mem with rfl | later
      · have inside := ih List.mem_cons_self
        simp [Ne.symm slash, inside]
      · exact ih (List.mem_cons_of_mem first later)

theorem slash_notMem_piece {piece : String} (mem : piece ∈ path.pieces) : '/' ∉ piece.toList := by
  obtain ⟨text, part, rfl⟩ := List.mem_map.mp mem
  rw [String.toList_ofList]
  exact slash_notMem_splitOn part

/-- Pieces at the end that do not lead on can be left out. -/
theorem follow_leading (pieces : List String) (route : Route) :
    follow route ((pieces.reverse.dropWhile isIdle).reverse.filter (· ≠ "")) =
      follow route (pieces.filter (· ≠ "")) := by
  have idle : ∀ piece ∈ (pieces.reverse.takeWhile isIdle).reverse, isIdle piece = true :=
    fun piece mem => List.all_eq_true.mp List.all_takeWhile piece (List.mem_reverse.mp mem)
  have cut : pieces =
      (pieces.reverse.dropWhile isIdle).reverse ++ (pieces.reverse.takeWhile isIdle).reverse := by
    rw [← List.reverse_append, List.takeWhile_append_dropWhile, List.reverse_reverse]
  conv_rhs => rw [cut, List.filter_append, follow_append, follow_idle idle]

/-- Whether a path is absolute shows in its pieces up to one that leads on. -/
theorem isAbsolute_of_leading {short : Path} {front rest : List String} {last : String}
    (leads : isIdle last = false) (parts : short.pieces = front ++ [last])
    (longer : path.pieces = front ++ [last] ++ rest) : short.isAbsolute = path.isAbsolute := by
  rw [Bool.eq_iff_iff, isAbsolute_iff, isAbsolute_iff, parts, longer]
  cases front with
  | nil =>
    have some : last ≠ "" := by
      rintro rfl
      cases leads
    simp [some]
  | cons first front =>
    obtain ⟨next, others, shape⟩ := List.exists_cons_of_ne_nil (List.concat_ne_nil last front)
    simp [shape]

/-- The pieces of a path up to one that leads on, joined again, lead where they lead in the path. -/
theorem routeFrom_leading {front rest : List String} {last : String} (leads : isIdle last = false)
    (parts : path.pieces = front ++ [last] ++ rest) (cwd : Route) :
    (⟨"/".intercalate (front ++ [last])⟩ : Path).routeFrom cwd =
      follow (path.origin cwd) ((front ++ [last]).filter (· ≠ "")) := by
  have flat : ∀ piece ∈ front ++ [last], '/' ∉ piece.toList := by
    intro piece mem
    have inside : piece ∈ path.pieces := by
      rw [parts]
      exact List.mem_append_left rest mem
    exact slash_notMem_piece inside
  have pieces := pieces_intercalate (List.concat_ne_nil last front) flat
  have absolute := isAbsolute_of_leading leads pieces parts
  rw [Path.routeFrom, Path.origin, Path.origin, absolute, Path.steps, pieces]

/-- The path above that of a name leads to the directory. -/
theorem routeFrom_parent_name (plain : IsPlain name) (dir : Path) (cwd : Route) :
    ∃ parent, (dir / name).parent? = some parent ∧ parent.routeFrom cwd = dir.routeFrom cwd := by
  obtain ⟨above, parts, steps⟩ := pieces_name plain dir
  have behind : (dir / name).pieces.reverse.dropWhile isIdle = name :: above.reverse := by
    rw [parts, List.reverse_append]
    exact List.dropWhile_cons_of_neg (by simp [plain.not_isIdle])
  have leads : dir.routeFrom cwd =
      follow (dir.origin cwd) ((above.reverse.dropWhile isIdle).reverse.filter (· ≠ "")) := by
    rw [follow_leading, steps]
    rfl
  rw [parent?, behind, leads]
  dsimp only
  -- the cases are whether a piece of the directory leads on
  cases onward : above.reverse.dropWhile isIdle with
  -- no piece of the directory leads on, so the parent is the root or the place where one is
  | nil =>
    refine ⟨_, rfl, ?_⟩
    rw [← plain.origin dir cwd, Path.origin]
    by_cases root : (dir / name).isAbsolute = true
    · rw [if_pos root, if_pos root]
      rfl
    · rw [if_neg root, if_neg root]
      split
      · exact routeFrom_dot cwd
      · rfl
  | cons last back =>
    have leadsOn : isIdle last = false := by
      have first := List.head?_dropWhile_not isIdle above.reverse
      rw [onward] at first
      exact first
    have part : last :: back <:+ above.reverse := onward ▸ List.dropWhile_suffix isIdle
    obtain ⟨idle, cut⟩ := part
    have cut : above = back.reverse ++ [last] ++ idle.reverse := by
      rw [← List.reverse_reverse above, ← cut]
      simp
    have longer : (dir / name).pieces = back.reverse ++ [last] ++ (idle.reverse ++ [name]) := by
      rw [parts, cut, List.append_assoc _ idle.reverse]
    refine ⟨_, rfl, ?_⟩
    rw [List.reverse_cons, routeFrom_leading leadsOn longer, plain.origin]

/-! ## Along several names

The path along a route of names, which is how things in a tree are reached from one directory.
Every name adds itself to the route, so the route of the path is that of the directory with the
names behind it. -/

/-- The path along names below a directory. -/
def below (dir : Path) (names : Route) : Path :=
  names.foldl (· / ·) dir

@[simp] theorem below_nil (dir : Path) : dir.below [] = dir := rfl

@[simp] theorem below_cons (dir : Path) (name : String) (rest : Route) :
    dir.below (name :: rest) = (dir / name).below rest := rfl

theorem below_concat (dir : Path) (names : Route) (name : String) :
    dir.below (names ++ [name]) = dir.below names / name :=
  List.foldl_append

theorem routeFrom_below {names : Route} (plain : ∀ name ∈ names, IsPlain name) (dir : Path)
    (cwd : Route) : (dir.below names).routeFrom cwd = dir.routeFrom cwd ++ names := by
  induction names generalizing dir with
  | nil => rw [below_nil, List.append_nil]
  | cons name rest ih =>
    obtain ⟨first, others⟩ := List.forall_mem_cons.mp plain
    rw [below_cons, ih others, first.routeFrom, List.append_assoc, List.singleton_append]

/-- Where the system takes the path along names it takes that of the directory. -/
theorem isFit_of_below {names : Route} (plain : ∀ name ∈ names, IsPlain name) (some : dir.text ≠ "")
    (fit : FileTree.IsFit (dir.below names)) : FileTree.IsFit dir := by
  induction names generalizing dir with
  | nil => exact fit
  | cons name rest ih =>
    obtain ⟨first, others⟩ := List.forall_mem_cons.mp plain
    exact isFit_of_name first some (ih others (text_name_ne first dir) fit)

end Path

namespace FileTree

open AzcRepair.Path (IsPlain)

/-! ## What is found under a name

A directory that was found can be gone into by a name: the way is there, and what stands under the
name is what the tree holds at the longer route. The one thing that can still be in the way is the
length of the path, which is why `IsFit` stays as a condition. -/

/-- The system takes the text as the name of something in a directory. -/
structure IsName (name : String) : Prop extends IsPlain name where
  short : name.utf8ByteSize ≤ maxNameLength

instance (name : String) : Decidable (IsName name) :=
  decidable_of_iff (IsPlain name ∧ name.utf8ByteSize ≤ maxNameLength)
    ⟨fun ⟨plain, short⟩ => ⟨plain, short⟩, fun h => ⟨h.toIsPlain, h.short⟩⟩

/-- Everything below the route has a name that the system takes. -/
def WellNamed (tree : FileTree) (base : Route) : Prop :=
  ∀ names, tree.root.get? (base ++ names) ≠ none → ∀ name ∈ names, IsName name

variable {tree : FileTree} {cwd base : Route} {dir path : Path} {name : String}
  {entries : List (String × FileNode)}

theorem get?_ne_none_of_file {route : Route} (file : (tree.file? route).isSome = true) :
    tree.root.get? route ≠ none := by
  obtain ⟨content, file⟩ := Option.isSome_iff_exists.mp file
  rw [file?_eq_some_iff.mp file]
  exact nofun

theorem wellNamed_of_descendants {node : FileNode} (here : tree.root.get? base = some node)
    (named : ∀ entry ∈ node.descendants, ∀ name ∈ entry.1, IsName name) : tree.WellNamed base := by
  intro names there
  rw [FileNode.get?_append, here, Option.bind_some] at there
  by_cases top : names = []
  · subst top
    exact nofun
  · obtain ⟨below, shows⟩ := Option.ne_none_iff_exists'.mp there
    exact named (names, below) (FileNode.mem_descendants top shows)

/-- What is below something with a name has names as well. -/
theorem WellNamed.within (wellNamed : tree.WellNamed base) (name : String) :
    tree.WellNamed (base ++ [name]) := by
  intro names there other mem
  rw [List.append_assoc, List.singleton_append] at there
  exact wellNamed (name :: names) there other (List.mem_cons_of_mem name mem)

theorem isFile_eq_true_iff :
    tree.isFile cwd path = true ↔ ∃ content, tree.find cwd path = .ok (.file content) := by
  unfold isFile
  split
  · next content found => exact ⟨fun _ => ⟨content, found⟩, fun _ => rfl⟩
  · next other => exact ⟨nofun, fun ⟨content, found⟩ => absurd found (other content)⟩

/-- There is a directory where one is found, with whatever entries. -/
theorem isDirectory_eq_true_iff :
    tree.isDirectory cwd path = true ↔
      ∃ route entries, tree.findDirectory cwd path = .ok (route, entries) := by
  unfold isDirectory find findDirectory
  cases tree.resolve cwd path with
  | error error => exact ⟨nofun, nofun⟩
  | ok place =>
    obtain ⟨route, node, named, slash⟩ := place
    obtain _ | content | entries := node
    · exact ⟨nofun, nofun⟩
    · cases slash <;> exact ⟨nofun, nofun⟩
    · exact ⟨fun _ => ⟨route, entries, rfl⟩, fun _ => rfl⟩

/-- What is in a directory can be walked to by its name. -/
theorem walkable_name (found : tree.findDirectory cwd dir = .ok (base, entries))
    (named : IsName name) : tree.Walkable ((dir / name).origin cwd) (dir / name).steps := by
  obtain ⟨-, walkable, leads, here⟩ := findDirectory_eq_ok_iff.mp found
  rw [named.origin, named.steps, walkable_append]
  refine ⟨walkable, ?_⟩
  have place : Path.follow (dir.origin cwd) dir.steps = base := leads
  rw [place]
  exact ⟨⟨entries, here⟩, fun _ => named.short, trivial⟩

/-- The path of a name in a directory that was found leads one step below it. -/
theorem routeFrom_of_found (found : tree.findDirectory cwd dir = .ok (base, entries))
    (named : IsName name) : (dir / name).routeFrom cwd = base ++ [name] := by
  obtain ⟨-, -, leads, -⟩ := findDirectory_eq_ok_iff.mp found
  rw [named.routeFrom, leads]

/-- A directory that is found has a path with a text. -/
theorem text_ne_of_found (found : tree.findDirectory cwd dir = .ok (base, entries)) :
    dir.text ≠ "" := by
  obtain ⟨⟨-, some, -⟩, -⟩ := findDirectory_eq_ok_iff.mp found
  exact String.isEmpty_eq_false_iff.mp some

/-- There is a file under a name when there is one at the route and the system takes the path. -/
theorem isFile_name_iff (found : tree.findDirectory cwd dir = .ok (base, entries))
    (named : IsName name) :
    tree.isFile cwd (dir / name) = true ↔
      (tree.file? (base ++ [name])).isSome = true ∧ IsFit (dir / name) := by
  have walkable := walkable_name found named
  have noSlash := Path.not_endsWith_name named.toIsPlain (text_ne_of_found found)
  simp only [isFile_eq_true_iff, find_eq_file_iff, routeFrom_of_found found named,
    Option.isSome_iff_exists]
  constructor
  · rintro ⟨content, fit, -, there, -⟩
    exact ⟨⟨content, there⟩, fit⟩
  · rintro ⟨⟨content, there⟩, fit⟩
    exact ⟨content, fit, walkable, there, noSlash⟩

/-- A directory is found under a name when there is one at the route and the system takes the
path. -/
theorem findDirectory_name_iff (found : tree.findDirectory cwd dir = .ok (base, entries))
    (named : IsName name) {route : Route} {inner : List (String × FileNode)} :
    tree.findDirectory cwd (dir / name) = .ok (route, inner) ↔
      IsFit (dir / name) ∧ base ++ [name] = route ∧
        tree.root.get? route = some (.directory inner) := by
  have walkable := walkable_name found named
  rw [findDirectory_eq_ok_iff, routeFrom_of_found found named]
  exact ⟨fun ⟨fit, _, there⟩ => ⟨fit, there⟩, fun ⟨fit, there⟩ => ⟨fit, walkable, there⟩⟩

/-- The names in a directory are those under which there is something. -/
theorem mem_names_iff (found : tree.findDirectory cwd dir = .ok (base, entries)) :
    name ∈ entries.map (·.1) ↔ tree.root.get? (base ++ [name]) ≠ none := by
  obtain ⟨-, -, -, here⟩ := findDirectory_eq_ok_iff.mp found
  have under : tree.root.get? (base ++ [name]) = entries.lookup name := by
    rw [FileNode.get?_append, here]
    show ((entries.lookup name).bind fun child => some child) = entries.lookup name
    exact Option.bind_fun_some _
  rw [under, ne_eq, List.lookup_eq_none_iff, List.mem_map]
  simp only [bne_iff_ne, not_forall, not_not, exists_prop, @eq_comm _ name]

end FileTree

end AzcRepair
