import Mathlib.Data.List.Basic
import Mathlib.Tactic.SplitIfs
import AzcRepair.FileTree
import AzcRepair.Settings

/-!
# Where paths lead

Where a path leads can be read off its text when there are no links: a dot stays, two dots go up as
far as there is something above, and a name goes down.

* `Path.routeFrom` — where a path leads, seen from a directory.
* `Path.routeFrom_join` — a joined path leads where its right side leads, seen from where its left
  side leads; `Path.resolve_routeFrom` is the same for the paths of a workspace.
* `Path.follow_net` — in the end, steps go up some levels and then down along some names; the
  difference of the two is read off the steps.
* `Path.follow_again_iff` — when taking steps twice comes to taking them once.
* `Path.descent?` — where steps lead that never go above the place where they start.
-/

namespace AzcRepair.Path

/-! ## Steps

Without links a path is a list of steps, and where it leads is a fold over them. Nothing in this
module looks at a tree: whether the directories on the way are there is another question. -/

/-- Where a single step leads. -/
def advance (route : Route) (step : String) : Route :=
  if step = "." then route else if step = ".." then route.dropLast else route ++ [step]

def follow (route : Route) (steps : List String) : Route :=
  steps.foldl advance route

@[simp] theorem follow_nil (route : Route) : follow route [] = route := rfl

@[simp] theorem follow_cons (route : Route) (step : String) (rest : List String) :
    follow route (step :: rest) = follow (advance route step) rest := rfl

@[simp] theorem follow_append (route : Route) (first second : List String) :
    follow route (first ++ second) = follow (follow route first) second :=
  List.foldl_append

@[simp] theorem advance_up (route : Route) : advance route ".." = route.dropLast := rfl

theorem advance_name {step : String} (dot : step ≠ ".") (up : step ≠ "..") (route : Route) :
    advance route step = route ++ [step] := by
  rw [advance, if_neg dot, if_neg up]

/-- Where the steps of a path start, seen from a directory. -/
def origin (cwd : Route) (path : Path) : Route :=
  if path.isAbsolute then [] else cwd

/-- Where a path leads, seen from a directory. -/
def routeFrom (cwd : Route) (path : Path) : Route :=
  follow (path.origin cwd) path.steps

theorem routeFrom_of_isAbsolute {path : Path} (h : path.isAbsolute = true) (cwd : Route) :
    path.routeFrom cwd = follow [] path.steps := by
  rw [routeFrom, origin, if_pos h]

theorem routeFrom_of_not_isAbsolute {path : Path} (h : path.isAbsolute = false) (cwd : Route) :
    path.routeFrom cwd = follow cwd path.steps := by
  rw [routeFrom, origin, h]
  rfl

theorem routeFrom_dot (cwd : Route) : Path.routeFrom cwd ⟨"."⟩ = cwd := by
  have steps : steps ⟨"."⟩ = ["."] := by decide
  rw [routeFrom_of_not_isAbsolute (by decide), steps]
  rfl

/-! ## Joined paths

A path is joined to a directory as a text, with a slash between the two unless there is one. Its
steps are those of both, and so where it leads can be said in terms of where the directory leads.
An absolute path is the exception, since it takes no notice of the directory. -/

theorem steps_mk (text : List Char) :
    steps ⟨String.ofList text⟩ = ((text.splitOn '/').map String.ofList).filter (· ≠ "") := by
  simp [steps, pieces]

theorem steps_slash (first second : List Char) :
    steps ⟨String.ofList (first ++ '/' :: second)⟩ =
      steps ⟨String.ofList first⟩ ++ steps ⟨String.ofList second⟩ := by
  simp only [steps_mk, List.splitOn_append_cons_self, List.map_append, List.filter_append]

theorem steps_endSlash (text : List Char) :
    steps ⟨String.ofList (text ++ ['/'])⟩ = steps ⟨String.ofList text⟩ := by
  rw [steps_slash]
  exact List.append_nil _

theorem steps_join {base path : Path} (relative : path.isAbsolute = false) :
    (base.join path).steps = base.steps ++ path.steps := by
  obtain ⟨base⟩ := base
  obtain ⟨path⟩ := path
  unfold join
  rw [relative, Bool.false_or]
  -- an empty base leaves the path as it is; otherwise the base may end in a slash already
  split
  · next empty =>
    obtain rfl := String.isEmpty_iff.mp empty
    rfl
  split
  · next ended =>
    obtain ⟨front, slash⟩ := List.getLast?_eq_some_iff.mp (beq_iff_eq.mp ended)
    have text : base = String.ofList (front ++ ['/']) := by rw [← slash, String.ofList_toList]
    have joined : base ++ path = String.ofList (front ++ '/' :: path.toList) := by
      rw [text, ← String.toList_inj]
      simp
    rw [joined, text, steps_slash, steps_endSlash, String.ofList_toList]
  · have joined : base ++ "/" ++ path = String.ofList (base.toList ++ '/' :: path.toList) := by
      rw [← String.toList_inj]
      simp
    rw [joined, steps_slash, String.ofList_toList, String.ofList_toList]

theorem isAbsolute_join {base path : Path} (relative : path.isAbsolute = false) :
    (base.join path).isAbsolute = base.isAbsolute := by
  obtain ⟨base⟩ := base
  obtain ⟨path⟩ := path
  unfold join
  rw [relative, Bool.false_or]
  -- the first character of the joined text is that of the base, unless the base is empty
  split
  · next empty =>
    obtain rfl := String.isEmpty_iff.mp empty
    rw [relative]
    rfl
  · next some =>
    have first : base.toList ≠ [] := fun none => some (by simp [String.toList_eq_nil_iff.mp none])
    obtain ⟨c, rest, shape⟩ := List.exists_cons_of_ne_nil first
    split <;> simp [isAbsolute, shape]

theorem steps_ne_nil {path : Path} (relative : path.isAbsolute = false)
    (text : path.text.isEmpty = false) : path.steps ≠ [] := by
  obtain ⟨path⟩ := path
  obtain ⟨c, rest, shape⟩ : ∃ c rest, path.toList = c :: rest :=
    List.exists_cons_of_ne_nil fun none => by simp [String.toList_eq_nil_iff.mp none] at text
  have slash : c ≠ '/' := by simpa [isAbsolute, shape] using relative
  obtain ⟨piece, others, pieces⟩ := List.exists_cons_of_ne_nil (List.splitOn_ne_nil '/' rest)
  have first : path.toList.splitOn '/' = (c :: piece) :: others := by
    rw [shape, List.splitOn_cons_eq_if_modifyHead, if_neg (by simpa using slash), pieces]
    rfl
  rw [← String.ofList_toList (s := path), steps_mk, first]
  simp

/-- A joined path leads where its right side leads, seen from where its left side leads. -/
theorem routeFrom_join (base path : Path) (cwd : Route) :
    (base.join path).routeFrom cwd = path.routeFrom (base.routeFrom cwd) := by
  by_cases absolute : path.isAbsolute = true
  · rw [join_of_isAbsolute absolute, routeFrom_of_isAbsolute absolute,
      routeFrom_of_isAbsolute absolute]
  · have relative : path.isAbsolute = false := by simpa using absolute
    rw [routeFrom, origin, isAbsolute_join relative, steps_join relative, follow_append,
      routeFrom_of_not_isAbsolute relative]
    rfl

theorem steps_name {name : String} (slash : '/' ∉ name.toList) (some : name ≠ "") :
    steps ⟨name⟩ = [name] := by
  have whole : name.toList.splitOn '/' = [name.toList] := List.splitOn_eq_singleton slash
  rw [← String.ofList_toList (s := name), steps_mk, String.ofList_toList, whole]
  simp [some]

/-- A name does not begin at the root, since it holds no slash. -/
theorem isAbsolute_name {name : String} (slash : '/' ∉ name.toList) :
    isAbsolute ⟨name⟩ = false := by
  cases shape : name.toList with
  | nil => simp [isAbsolute, shape]
  | cons c rest =>
    have first : c ≠ '/' := fun same => slash (by simp [shape, same])
    simpa [isAbsolute, shape] using first

theorem routeFrom_name {name : String} (slash : '/' ∉ name.toList) (some : name ≠ "")
    (dot : name ≠ ".") (up : name ≠ "..") (base : Path) (cwd : Route) :
    (base / name).routeFrom cwd = base.routeFrom cwd ++ [name] := by
  change (base.join ⟨name⟩).routeFrom cwd = _
  rw [routeFrom_join, routeFrom_of_not_isAbsolute (isAbsolute_name slash), steps_name slash some]
  exact advance_name dot up _

/-- A path of the workspace is followed from the root. -/
theorem resolve_routeFrom (layout : Settings.Layout) (path : Path) (cwd : Route) :
    (layout.resolve path).routeFrom cwd = path.routeFrom (layout.root.routeFrom cwd) := by
  unfold Settings.Layout.resolve
  split
  · next absolute => rw [routeFrom_of_isAbsolute absolute, routeFrom_of_isAbsolute absolute]
  · exact routeFrom_join _ _ _

/-! ## What steps come to

A sequence of steps does the same from everywhere: it goes up some levels and then down along some
names. The two numbers differ by as much as the steps that go up differ from those that go down.
At the top two dots stay where they are, and the equation takes care of it, since `take` cuts no
further than to the beginning. -/

/-- A step that goes up. -/
def goesUp (step : String) : Bool :=
  step = ".."

/-- A step that goes down. -/
def goesDown (step : String) : Bool :=
  step ≠ "." && step ≠ ".."

/-- How often the steps of a path go up. -/
def climbs (path : Path) : Nat :=
  path.steps.countP goesUp

/-- How often the steps of a path go down. -/
def descents (path : Path) : Nat :=
  path.steps.countP goesDown

/-- Steps come to going up some levels and then down along some names, wherever they start. -/
theorem follow_net (steps : List String) :
    ∃ (up : Nat) (down : Route),
      (∀ route, follow route steps = route.take (route.length - up) ++ down) ∧
        down.length + steps.countP goesUp = up + steps.countP goesDown := by
  induction steps with
  | nil => exact ⟨0, [], by simp, rfl⟩
  | cons step rest ih =>
    obtain ⟨up, down, leads, net⟩ := ih
    -- by the first step: it stays, goes up, or adds a name that a way up may take away again
    by_cases dot : step = "."
    · subst dot
      exact ⟨up, down, leads, net⟩
    by_cases parent : step = ".."
    · subst parent
      refine ⟨up + 1, down, fun route => ?_, ?_⟩
      · rw [follow_cons, advance_up, leads, List.length_dropLast, List.dropLast_eq_take,
          List.take_take]
        congr 2
        omega
      · rw [List.countP_cons_of_pos (by decide), List.countP_cons_of_neg (by decide)]
        omega
    · have goes : goesDown step = true := by simp [goesDown, dot, parent]
      have stays : ¬ goesUp step = true := by simp [goesUp, parent]
      rw [List.countP_cons_of_neg stays, List.countP_cons_of_pos goes]
      -- the last way up meets the name, and both are lost
      cases up with
      | zero =>
        refine ⟨0, step :: down, fun route => ?_, ?_⟩
        · rw [follow_cons, advance_name dot parent, leads, Nat.sub_zero, List.take_length,
            Nat.sub_zero, List.take_length, List.append_assoc, List.singleton_append]
        · rw [List.length_cons]
          omega
      | succ up =>
        refine ⟨up, down, fun route => ?_, by omega⟩
        rw [follow_cons, advance_name dot parent, leads, List.length_append, List.length_singleton,
          Nat.add_sub_add_right, List.take_append_of_le_length (Nat.sub_le _ _)]

/-- Steps that are taken twice lead where they lead once, whatever follows them, exactly when they go
up as often as down. -/
theorem follow_again_iff {steps rest : List String} :
    (∀ route, follow (follow (follow route steps) steps) rest = follow (follow route steps) rest) ↔
      steps.countP goesUp = steps.countP goesDown := by
  obtain ⟨up, down, leads, net⟩ := follow_net steps
  obtain ⟨up', down', leads', -⟩ := follow_net rest
  constructor
  · intro again
    -- a place so deep that no step goes above it
    have lengths := congrArg List.length (again (List.replicate (2 * up + up') ""))
    simp only [leads', leads, List.length_append, List.length_take, List.length_replicate] at lengths
    omega
  · intro level route
    have same : down.length = up := by omega
    have once : follow (follow route steps) steps = follow route steps := by
      simp only [leads, List.length_append, List.length_take, same]
      by_cases deep : up ≤ route.length
      · rw [List.take_append_of_le_length (by simp), List.take_take]
        congr 2
        omega
      · have top : route.length - up = 0 := by omega
        simp [top]
    rw [once]

/-! ## Paths that stay below

A path that never goes above its start leads to a place below it that does not depend on where it
starts. One that leaves it does not come back, unless it names the directory again. -/

/-- A single step below some place, which is not left upwards. -/
def descend (route : Route) (step : String) : Option Route :=
  if step = "." then some route
  else if step = ".." then (if route = [] then none else some route.dropLast)
  else some (route ++ [step])

/-- Where a path leads below the place that it is seen from, unless it is absolute or goes above that
place on its way. -/
def descent? (path : Path) : Option Route :=
  if path.isAbsolute then none else path.steps.foldlM descend []

/-- A step that stays below some place leads to the same place below, whatever is above. -/
theorem advance_of_descend {route below : Route} {step : String}
    (h : descend route step = some below) (base : Route) :
    advance (base ++ route) step = base ++ below := by
  unfold descend at h
  unfold advance
  split_ifs at h ⊢ with dot up top
  · rw [Option.some.inj h]
  · rw [← Option.some.inj h, List.dropLast_append_of_ne_nil top]
  · rw [← Option.some.inj h, List.append_assoc]

/-- Steps that stay below lead to the same place below whatever is above. -/
theorem follow_of_descend {steps : List String} {route below : Route}
    (h : steps.foldlM descend route = some below) (base : Route) :
    follow (base ++ route) steps = base ++ below := by
  induction steps generalizing route with
  | nil => rw [Option.some.inj h, follow_nil]
  | cons step rest ih =>
    obtain ⟨next, once, onward⟩ := Option.bind_eq_some_iff.mp h
    rw [follow_cons, advance_of_descend once, ih onward]

theorem routeFrom_of_descent {path : Path} {below : Route} (h : path.descent? = some below)
    (cwd : Route) : path.routeFrom cwd = cwd ++ below := by
  unfold descent? at h
  split at h
  · cases h
  · next relative =>
    rw [routeFrom_of_not_isAbsolute (by simpa using relative)]
    simpa using follow_of_descend h cwd

/-- Steps do not come into a directory that they do not name. -/
theorem head?_follow_ne {steps : List String} {route : Route} {name : String} (new : name ∉ steps)
    (outside : route.head? ≠ some name) : (follow route steps).head? ≠ some name := by
  induction steps generalizing route with
  | nil => exact outside
  | cons step rest ih =>
    obtain ⟨differs, new⟩ := not_or.mp (List.mem_cons.not.mp new)
    refine ih new ?_
    unfold advance
    split_ifs
    · exact outside
    · cases route with
      | nil => exact nofun
      | cons top below => cases below <;> simp_all
    · cases route with
      | nil => simpa using Ne.symm differs
      | cons top below => simpa using outside

/-- Steps that go above a directory do not come back into it, unless they name it. -/
theorem head?_follow_ne_of_descend {steps : List String} {route : Route} {name : String}
    (new : name ∉ steps) (leaves : steps.foldlM descend route = none) :
    (follow (name :: route) steps).head? ≠ some name := by
  induction steps generalizing route with
  | nil => cases leaves
  | cons step rest ih =>
    have later : name ∉ rest := fun mem => new (List.mem_cons_of_mem _ mem)
    rw [List.foldlM_cons] at leaves
    rw [follow_cons]
    -- this step leaves the directory, or a later one does
    cases once : descend route step with
    | none =>
      unfold descend at once
      split_ifs at once with dot up top
      subst up top
      exact head?_follow_ne later nofun
    | some next =>
      rw [once] at leaves
      have stays : advance (name :: route) step = name :: next := advance_of_descend once [name]
      rw [stays]
      exact ih later leaves

end AzcRepair.Path
