import AzcRepair.Proofs.Json.Members
import AzcRepair.Settings.Layer
import Mathlib.Data.List.Basic
import Mathlib.Data.List.TakeWhile

/-!
# Layers laid over one another

What a stack of layers says about the values inside of it. A layer that writes a section as an
object leaves the lower layers in force, and any other value hides them.

* `member?_overlay` — a member of two objects that are joined.
* `laid` — the value of a stack of layers, the highest one first.
* `inForce` — the layers of a stack that are not hidden.
* `child?_laid` — what a stack says about a field is a stack of what the layers in force say.
* `reach?_laid` — the same along a path, by induction on the steps.
* `said_of_mapped` — where no section is hidden, the highest layer that mentions a value counts.
* `Thinned.said_eq` — layers that neither say nor hide anything may be left out.
-/

namespace AzcRepair.Settings

open Json (Distinct last? last?_cons last?_eq_none_iff member? names)

variable {base top value : Json} {below members : List (String × Json)} {name key : String}

/-! ## Members of joined objects

Joining goes through the members of the upper object and puts each in its place below. Objects
that name a member twice would make the result depend on the order, so all of this is said of
`Distinct` values. -/

theorem last?_put (once : (names below).Nodup) :
    last? key (put name value below) = if name = key then some value else last? key below := by
  induction below with
  | nil => simp [put, last?_cons]
  | cons m rest ih =>
    obtain ⟨other, once⟩ := List.nodup_cons.mp once
    rw [put]
    -- either this is the place of the name, and no later member has it, or the place is further
    -- on
    by_cases here : m.1 = name
    · have gone : last? name rest = none := last?_eq_none_iff.mpr (here ▸ other)
      rw [if_pos here, last?_cons, last?_cons]
      by_cases same : name = key
      · rw [← same, gone]
        simp
      · simp [same, here]
    · rw [if_neg here, last?_cons, last?_cons, ih once]
      by_cases same : name = key <;> simp [same]

theorem mem_put {m : String × Json} (mem : m ∈ put name value below) :
    m = (name, value) ∨ m ∈ below := by
  induction below with
  | nil => exact .inl (List.mem_singleton.mp mem)
  | cons first rest ih =>
    rw [put] at mem
    split at mem
    · exact (List.mem_cons.mp mem).imp_right (List.mem_cons_of_mem _)
    · rcases List.mem_cons.mp mem with rfl | mem
      · exact .inr List.mem_cons_self
      · exact (ih mem).imp_right (List.mem_cons_of_mem _)

theorem names_put : names (put name value below) =
    if name ∈ names below then names below else names below ++ [name] := by
  induction below with
  | nil => simp [put, names]
  | cons m rest ih =>
    unfold names at ih ⊢
    rw [put]
    by_cases here : m.1 = name
    · simp [here]
    · simp only [if_neg here, List.map_cons, ih, List.mem_cons, Ne.symm here, false_or]
      split <;> rfl

theorem nodup_names_put (once : (names below).Nodup) : (names (put name value below)).Nodup := by
  rw [names_put]
  split
  · exact once
  · next new =>
    refine List.nodup_append.mpr ⟨once, by simp, fun other mem added single => ?_⟩
    rintro rfl
    exact new (List.mem_singleton.mp single ▸ mem)

/-- A value laid over what may lie below it. -/
def onto : Option Json → Json → Json
  | some base, value => overlay base value
  | none, value => value

theorem overlayMembers_cons (rest : List (String × Json)) :
    overlayMembers below ((name, value) :: rest) =
      overlayMembers (put name (onto (last? name below) value) below) rest := by
  rw [overlayMembers]
  cases last? name below <;> rfl

theorem last?_overlayMembers (onceBelow : (names below).Nodup) (once : (names members).Nodup) :
    last? key (overlayMembers below members) =
      match last? key members with
      | some value => some (onto (last? key below) value)
      | none => last? key below := by
  -- the induction is on the members that are still to be laid
  induction members generalizing below with
  | nil => rw [overlayMembers]; rfl
  | cons m rest ih =>
    obtain ⟨name, value⟩ := m
    obtain ⟨other, once⟩ := List.nodup_cons.mp once
    rw [overlayMembers_cons, ih (nodup_names_put onceBelow) once, last?_put onceBelow, last?_cons]
    by_cases same : name = key
    · subst same
      rw [last?_eq_none_iff.mpr other]
      simp
    · simp [same]

theorem overlay_of_isObject_eq_false (other : top.isObject = false) : overlay base top = top := by
  cases top with
  | object members => cases other
  | null | bool | integer | decimal | string | array | unreadable => simp [overlay]

theorem overlay_object (below members : List (String × Json)) :
    overlay (.object below) (.object members) = .object (overlayMembers below members) := by
  rw [overlay]

theorem overlay_hides (other : base.isObject = false) (members : List (String × Json)) :
    overlay base (.object members) = .object members := by
  cases base with
  | object below => cases other
  | null | bool | integer | decimal | string | array | unreadable => simp [overlay]

/-- An object stays an object when others are laid over it. -/
theorem isObject_overlay (object : top.isObject = true) : (overlay base top).isObject = true := by
  cases top with
  | object members =>
    cases base <;> simp [overlay, Json.isObject]
  | null | bool | integer | decimal | string | array | unreadable => cases object

/-- A member of joined objects: that of the upper one, over that of the lower one. -/
theorem member?_overlay (objectBase : base.isObject = true) (objectTop : top.isObject = true)
    (distinctBase : Distinct base) (distinctTop : Distinct top) :
    member? key (overlay base top) =
      match member? key top with
      | some value => some (onto (member? key base) value)
      | none => member? key base := by
  cases distinctBase with
  | object onceBelow eachBelow =>
    cases distinctTop with
    | object once each =>
      rw [overlay_object]
      exact last?_overlayMembers onceBelow once
    | array | null | bool | integer | decimal | string | unreadable => cases objectTop
  | array | null | bool | integer | decimal | string | unreadable => cases objectBase

theorem distinct_overlayMembers (distinctBelow : Distinct (.object below))
    (each : ∀ m ∈ members, Distinct m.2 ∧ ∀ base, Distinct base → Distinct (overlay base m.2)) :
    Distinct (.object (overlayMembers below members)) := by
  induction members generalizing below with
  | nil => rw [overlayMembers]; exact distinctBelow
  | cons m rest ih =>
    obtain ⟨name, value⟩ := m
    obtain ⟨⟨distinct, laid⟩, each⟩ := List.forall_mem_cons.mp each
    rw [overlayMembers_cons]
    refine ih ?_ each
    have front : Distinct (onto (last? name below) value) := by
      cases found : last? name below with
      | none => exact distinct
      | some base => exact laid base (distinctBelow.member found)
    cases distinctBelow with
    | object once eachBelow =>
      refine .object (nodup_names_put once) fun m mem => ?_
      rcases mem_put mem with rfl | mem
      · exact front
      · exact eachBelow m mem

theorem distinct_overlay (distinctTop : Distinct top) (distinctBase : Distinct base) :
    Distinct (overlay base top) := by
  -- the induction is on the upper value, since joining recurses on its members
  induction distinctTop generalizing base with
  | @object members once each ih =>
    cases object : base.isObject with
    | false =>
      rw [overlay_hides object]
      exact .object once each
    | true =>
      cases base with
      | object below =>
        rw [overlay_object]
        exact distinct_overlayMembers distinctBase fun m mem =>
          ⟨each m mem, fun base distinct => ih m mem distinct⟩
      | null | bool | integer | decimal | string | array | unreadable => cases object
  | array each => rw [overlay_of_isObject_eq_false rfl]; exact .array each
  | null => rw [overlay_of_isObject_eq_false rfl]; exact .null
  | bool value => rw [overlay_of_isObject_eq_false rfl]; exact .bool value
  | integer value => rw [overlay_of_isObject_eq_false rfl]; exact .integer value
  | decimal m e => rw [overlay_of_isObject_eq_false rfl]; exact .decimal m e
  | string text => rw [overlay_of_isObject_eq_false rfl]; exact .string text
  | unreadable => rw [overlay_of_isObject_eq_false rfl]; exact .unreadable

/-! ## Stacks of layers

Layers are joined two at a time, from the lowest to the highest. A stack says the same from the
top: what is hidden by a value that is not an object is then easy to name. -/

/-- The value of a stack of layers, the highest one first. -/
def laid : List Json → Option Json
  | [] => none
  | top :: lower => some (onto (laid lower) top)

/-- The layers that are not hidden: the highest one, and under an object the objects next to it. -/
def inForce : List Json → List Json
  | [] => []
  | top :: lower => top :: if top.isObject then lower.takeWhile (·.isObject) else []

theorem inForce_of_isObject (object : top.isObject = true) (lower : List Json) :
    inForce (top :: lower) = top :: lower.takeWhile (·.isObject) := by
  rw [inForce, object]
  rfl

theorem isObject_of_mem_inForce (object : top.isObject = true) {lower : List Json} :
    ∀ layer ∈ inForce (top :: lower), layer.isObject = true := by
  rw [inForce_of_isObject object]
  exact List.forall_mem_cons.mpr ⟨object, List.all_eq_true.mp List.all_takeWhile⟩

theorem mem_inForce {layers : List Json} {layer : Json} (mem : layer ∈ inForce layers) :
    layer ∈ layers := by
  cases layers with
  | nil => cases mem
  | cons top lower =>
    rw [inForce] at mem
    rcases List.mem_cons.mp mem with rfl | mem
    · exact List.mem_cons_self
    · split at mem
      · exact List.mem_cons_of_mem _ (List.takeWhile_subset _ mem)
      · cases mem

theorem laid_append_singleton (layers : List Json) (base : Json) :
    laid (layers ++ [base]) = some (layers.foldr (fun top lower => overlay lower top) base) := by
  induction layers with
  | nil => rfl
  | cons top lower ih =>
    rw [List.cons_append, laid, ih]
    rfl

/-- Laying layers over one another from the lowest to the highest one gives their stack. -/
theorem laid_foldl (layers : List Json) (base : Json) :
    laid (layers.reverse ++ [base]) = some (layers.foldl overlay base) := by
  rw [laid_append_singleton, List.foldl_eq_foldr_reverse]

theorem laid_of_isObject_eq_false (other : top.isObject = false) (lower : List Json) :
    laid (top :: lower) = some top := by
  rw [laid]
  cases laid lower with
  | none => rfl
  | some base => exact congrArg some (overlay_of_isObject_eq_false other)

/-- Under an object only the objects next to it count. -/
theorem laid_takeWhile (object : top.isObject = true) (lower : List Json) :
    laid (top :: lower.takeWhile (·.isObject)) = laid (top :: lower) := by
  induction lower generalizing top with
  | nil => rfl
  | cons next lower ih =>
    -- an object below is in force with what is under it; any other value ends the stack
    cases objectNext : next.isObject with
    | true =>
      show laid (top :: (next :: lower).takeWhile _) = some (onto (laid (next :: lower)) top)
      rw [List.takeWhile_cons_of_pos objectNext, laid, ih objectNext]
    | false =>
      show laid (top :: (next :: lower).takeWhile _) = some (onto (laid (next :: lower)) top)
      rw [List.takeWhile_cons_of_neg (by simp [objectNext]), laid_of_isObject_eq_false objectNext]
      cases top with
      | object members => exact congrArg some (overlay_hides objectNext members).symm
      | null | bool | integer | decimal | string | array | unreadable => cases object

theorem laid_inForce (layers : List Json) : laid (inForce layers) = laid layers := by
  cases layers with
  | nil => rfl
  | cons top lower =>
    rw [inForce]
    cases object : top.isObject with
    | true => exact laid_takeWhile object lower
    | false =>
      rw [laid_of_isObject_eq_false object lower]
      exact laid_of_isObject_eq_false object []

/-! ## Fields of a stack

A section is read from an object by name and from an array by position. Arrays are not joined, so
below an array nothing is in force. -/

/-- What a section says about one of its fields: by its name in an object, and by its place in an
array. -/
def child? (fields : List String) (key : String) : Json → Option Json
  | .object members => last? key members
  | .array items => (fields.zip items).lookup key
  | _ => none

theorem child?_object {fields : List String} (object : value.isObject = true) :
    child? fields key value = member? key value := by
  cases value with
  | object members => rfl
  | null | bool | integer | decimal | string | array | unreadable => cases object

theorem isObject_laid {layers : List Json} (objects : ∀ layer ∈ layers, layer.isObject = true)
    (found : laid layers = some value) : value.isObject = true := by
  cases layers with
  | nil => cases found
  | cons top lower =>
    have object : top.isObject = true := objects top List.mem_cons_self
    obtain rfl := Option.some.inj found
    cases laid lower with
    | none => exact object
    | some base => exact isObject_overlay object

theorem distinct_laid {layers : List Json} (distinct : ∀ layer ∈ layers, Distinct layer)
    (found : laid layers = some value) : Distinct value := by
  induction layers generalizing value with
  | nil => cases found
  | cons top lower ih =>
    obtain ⟨distinctTop, distinct⟩ := List.forall_mem_cons.mp distinct
    obtain rfl := Option.some.inj found
    cases below : laid lower with
    | none => exact distinctTop
    | some base => exact distinct_overlay distinctTop (ih distinct below)

/-- What a stack of objects says about a member is the stack of what they say about it. -/
theorem member?_laid {layers : List Json} (objects : ∀ layer ∈ layers, layer.isObject = true)
    (distinct : ∀ layer ∈ layers, Distinct layer) :
    (laid layers).bind (member? key) = laid (layers.filterMap (member? key)) := by
  induction layers with
  | nil => rfl
  | cons top lower ih =>
    obtain ⟨objectTop, objects⟩ := List.forall_mem_cons.mp objects
    obtain ⟨distinctTop, distinct⟩ := List.forall_mem_cons.mp distinct
    have rest := ih objects distinct
    -- without lower layers the top one speaks alone, else it speaks over them
    cases below : laid lower with
    | none =>
      rw [below] at rest
      rw [laid, below, Option.bind_some, onto]
      cases found : member? key top with
      | none => rw [List.filterMap_cons_none found, ← rest]; rfl
      | some value => rw [List.filterMap_cons_some found, laid, ← rest]; rfl
    | some base =>
      rw [below, Option.bind_some] at rest
      rw [laid, below, Option.bind_some, onto,
        member?_overlay (isObject_laid objects below) objectTop (distinct_laid distinct below)
          distinctTop]
      cases found : member? key top with
      | none => rw [List.filterMap_cons_none found, ← rest]
      | some value => rw [List.filterMap_cons_some found, laid, ← rest]

theorem child?_laid {layers : List Json} (distinct : ∀ layer ∈ layers, Distinct layer)
    (fields : List String) (key : String) :
    (laid layers).bind (child? fields key) =
      laid ((inForce layers).filterMap (child? fields key)) := by
  cases layers with
  | nil => rfl
  | cons top lower =>
    -- a top layer that is no object hides the rest; an object is joined with the objects below it
    cases object : top.isObject with
    | false =>
      rw [laid_of_isObject_eq_false object, inForce, object, Option.bind_some]
      cases found : child? fields key top <;> simp [found, laid, onto]
    | true =>
      have objects : ∀ layer ∈ inForce (top :: lower), layer.isObject = true :=
        isObject_of_mem_inForce object
      have distinct : ∀ layer ∈ inForce (top :: lower), Distinct layer :=
        fun layer mem => distinct layer (mem_inForce mem)
      have child (layer : Json) (mem : layer ∈ inForce (top :: lower)) :
          child? fields key layer = member? key layer := child?_object (objects layer mem)
      rw [List.filterMap_congr child, ← member?_laid objects distinct, ← laid_inForce]
      cases found : laid (inForce (top :: lower)) with
      | none => rfl
      | some value => exact child?_object (isObject_laid objects found)

theorem Distinct.child {fields : List String} (distinct : Distinct value) {field : Json}
    (found : child? fields key value = some field) : Distinct field := by
  cases distinct with
  | object once each => exact each _ (Json.mem_of_last?_eq_some found)
  | array each =>
    obtain ⟨before, after, parts, -⟩ := List.lookup_eq_some_iff.mp found
    have mem : (key, field) ∈ fields.zip _ :=
      parts ▸ List.mem_append_right _ List.mem_cons_self
    exact each _ (List.of_mem_zip mem).2
  | null | bool | integer | decimal | string | unreadable => cases found

/-! ## Paths through a stack

A setting stands at the end of a path, and at every section on the way some layers may drop out.
`said` keeps the layers that are left, so the value at the end is that of a stack again. -/

/-- A step from a section, with its fields in their order, to one of them. -/
structure Step where
  fields : List String
  key : String
  deriving DecidableEq, Repr

/-- The value that a path leads to. -/
def reach? : List Step → Json → Option Json
  | [], value => some value
  | step :: path, value => (child? step.fields step.key value).bind (reach? path)

/-- What the layers of a stack say at a path, the highest one first, as far as it is in force. -/
def said : List Step → List Json → List Json
  | [], layers => inForce layers
  | step :: path, layers => said path ((inForce layers).filterMap (child? step.fields step.key))

theorem distinct_fields {layers : List Json} (distinct : ∀ layer ∈ layers, Distinct layer)
    (step : Step) :
    ∀ field ∈ (inForce layers).filterMap (child? step.fields step.key), Distinct field := by
  intro field mem
  obtain ⟨layer, mem, found⟩ := List.mem_filterMap.mp mem
  exact Distinct.child (distinct layer (mem_inForce mem)) found

/-- What a path finds in the value of a stack is the value of what the layers say there. -/
theorem reach?_laid {layers : List Json} (distinct : ∀ layer ∈ layers, Distinct layer)
    (path : List Step) : (laid layers).bind (reach? path) = laid (said path layers) := by
  -- the induction is on the steps; the layers are those that speak about the section reached
  induction path generalizing layers with
  | nil =>
    rw [said, laid_inForce]
    exact Option.bind_fun_some _
  | cons step path ih =>
    rw [said, ← ih (distinct_fields distinct step), ← child?_laid distinct, Option.bind_assoc]
    rfl

/-- Every section on the path is written as an object, as far as it is written. -/
def isMapped : List Step → Json → Bool
  | [], _ => true
  | step :: path, value => value.isObject && (member? step.key value).all (isMapped path)

theorem isMapped_cons {step : Step} {path : List Step} (mapped : isMapped (step :: path) value) :
    value.isObject = true ∧ ∀ field, member? step.key value = some field → isMapped path field := by
  obtain ⟨object, below⟩ := Bool.and_eq_true_iff.mp mapped
  refine ⟨object, fun field found => ?_⟩
  rw [found] at below
  exact below

/-- Where no section is hidden, the highest layer that mentions a value is the one that counts. -/
theorem said_of_mapped {path : List Step} {layers : List Json}
    (mapped : ∀ layer ∈ layers, isMapped path layer) :
    (said path layers).head? = layers.findSome? (Json.at? (path.map (·.key))) := by
  -- the induction is on the steps, as in `said`
  induction path generalizing layers with
  | nil => cases layers <;> rfl
  | cons step path ih =>
    have objects (layer : Json) (mem : layer ∈ layers) : layer.isObject = true :=
      (isMapped_cons (mapped layer mem)).1
    have all : inForce layers = layers := by
      cases layers with
      | nil => rfl
      | cons top lower =>
        obtain ⟨object, rest⟩ := List.forall_mem_cons.mp objects
        rw [inForce_of_isObject object, List.takeWhile_eq_self_iff.mpr rest]
    have fields (layer : Json) (mem : layer ∈ layers) :
        child? step.fields step.key layer = member? step.key layer :=
      child?_object (objects layer mem)
    have below : ∀ field ∈ layers.filterMap (member? step.key), isMapped path field := by
      intro field mem
      obtain ⟨layer, mem, found⟩ := List.mem_filterMap.mp mem
      exact (isMapped_cons (mapped layer mem)).2 field found
    rw [said, all, List.filterMap_congr fields, ih below, ← List.head?_filterMap,
      List.filterMap_filterMap, List.head?_filterMap]
    rfl

/-! ## Layers that are silent

Files that write nothing of a setting may lie between those that do. They are left out here, as
long as they leave every section on the way an object. -/

/-- A layer that says nothing at a path of keys, and hides nothing either. -/
def Silent : List String → Json → Prop
  | [], _ => False
  | key :: keys, value => value.isObject = true ∧
      ∀ field, member? key value = some field → Silent keys field

/-- A stack from which silent layers are left out. -/
inductive Thinned (keys : List String) : List Json → List Json → Prop
  | nil : Thinned keys [] []
  | keep {layers fewer : List Json} (layer : Json) (rest : Thinned keys layers fewer) :
    Thinned keys (layer :: layers) (layer :: fewer)
  | drop {layers fewer : List Json} {layer : Json} (silent : Silent keys layer)
    (rest : Thinned keys layers fewer) : Thinned keys (layer :: layers) fewer

/-- Steps along keys alone, which lead through objects only. -/
def along (keys : List String) : List Step :=
  keys.map (⟨[], ·⟩)

theorem child?_nil : child? [] key value = member? key value := by
  cases value <;> rfl

theorem reach?_along (keys : List String) : reach? (along keys) value = Json.at? keys value := by
  induction keys generalizing value with
  | nil => rfl
  | cons key keys ih =>
    show (child? [] key value).bind (reach? (along keys)) = (member? key value).bind (Json.at? keys)
    rw [child?_nil]
    congr 1
    funext field
    exact ih

/-- Of a stack only the objects on top speak about members. -/
theorem filterMap_inForce (layers : List Json) :
    (inForce layers).filterMap (child? [] key) =
      (layers.takeWhile (·.isObject)).filterMap (member? key) := by
  have same : child? [] key = member? key := funext fun value => child?_nil
  rw [same]
  cases layers with
  | nil => rfl
  | cons top lower =>
    cases object : top.isObject with
    | true => rw [inForce_of_isObject object, List.takeWhile_cons_of_pos object]
    | false =>
      have none : member? key top = none := by
        cases top with
        | object members => cases object
        | null | bool | integer | decimal | string | array | unreadable => rfl
      rw [inForce, object, List.takeWhile_cons_of_neg (by simp [object]), if_neg nofun,
        List.filterMap_cons_none none]

theorem Thinned.fields {keys : List String} {layers fewer : List Json}
    (thinned : Thinned (key :: keys) layers fewer) :
    Thinned keys ((layers.takeWhile (·.isObject)).filterMap (member? key))
      ((fewer.takeWhile (·.isObject)).filterMap (member? key)) := by
  -- a layer that is kept speaks in both stacks, and a silent one that is an object hides nothing
  induction thinned with
  | nil => exact .nil
  | keep layer rest ih =>
    cases object : layer.isObject with
    | true =>
      rw [List.takeWhile_cons_of_pos object, List.takeWhile_cons_of_pos object]
      cases found : member? key layer with
      | none => rw [List.filterMap_cons_none found, List.filterMap_cons_none found]; exact ih
      | some field =>
        rw [List.filterMap_cons_some found, List.filterMap_cons_some found]
        exact .keep field ih
    | false =>
      rw [List.takeWhile_cons_of_neg (by simp [object]),
        List.takeWhile_cons_of_neg (by simp [object])]
      exact .nil
  | @drop layers fewer layer silent rest ih =>
    obtain ⟨object, silent⟩ := silent
    rw [List.takeWhile_cons_of_pos object]
    cases found : member? key layer with
    | none => rw [List.filterMap_cons_none found]; exact ih
    | some field => rw [List.filterMap_cons_some found]; exact .drop (silent field found) ih

theorem Thinned.said_eq {keys : List String} {layers fewer : List Json}
    (thinned : Thinned keys layers fewer) : said (along keys) layers = said (along keys) fewer := by
  induction keys generalizing layers fewer with
  | nil =>
    have same : layers = fewer := by
      induction thinned with
      | nil => rfl
      | keep layer rest ih => rw [ih]
      | drop silent rest ih => exact silent.elim
    rw [same]
  | cons key keys ih =>
    show said (along keys) ((inForce layers).filterMap (child? [] key)) =
      said (along keys) ((inForce fewer).filterMap (child? [] key))
    rw [filterMap_inForce, filterMap_inForce]
    exact ih thinned.fields

end AzcRepair.Settings
