import AzcRepair.Proofs.Settings.Layers
import AzcRepair.Settings.Load

/-!
# Where layers come from

Every layer is an object that names nothing twice, whether it is read from a file or made of the
variables of an environment.

* `distinct_mappingOfText` — the mapping of a settings text.
* `Environment.distinct_layer` — the layer of an environment.
* `Environment.laid_assigned` — that layer is a stack of its own, the last variable on top.
* `Environment.at?_layer_of_alone` — a setting that one variable alone names has its value.
-/

namespace AzcRepair

open Json (Distinct)

namespace Yaml

variable {α β : Type} {p : α → Prop} {q : β → Prop}

/-- Whatever is found while following references is as promised. -/
def Finds (p : α → Prop) (act : Following α) : Prop :=
  ∀ left value rest, act left = .ok (value, rest) → p value

theorem finds_pure {value : α} (holds : p value) : Finds p (pure value : Following α) := by
  rintro left _ _ ⟨⟩
  exact holds

theorem finds_throw (problem : Problem) : Finds p (throw problem : Following α) := by
  rintro left _ _ ⟨⟩

theorem Finds.bind {act : Following β} {next : β → Following α} (first : Finds q act)
    (rest : ∀ value, q value → Finds p (next value)) : Finds p (act >>= next) := by
  intro left value after found
  have run : (act >>= next) left = (act left >>= fun r => next r.1 r.2) := rfl
  rw [run] at found
  -- a failure finds nothing, and what the first part finds is handed on
  cases started : act left with
  | error problem =>
    rw [started] at found
    cases found
  | ok result =>
    rw [started] at found
    exact rest result.1 (first left result.1 result.2 started) _ _ _ found

/-- What is found is as promised also when nobody asks what is left. -/
theorem Finds.result {act : Following α} {left : Nat} {value : α} (finds : Finds p act)
    (found : act.run' left = .ok value) : p value := by
  have run : act.run' left = (act left).map Prod.fst := rfl
  rw [run] at found
  cases reached : act left with
  | error problem =>
    rw [reached] at found
    cases found
  | ok result =>
    rw [reached] at found
    obtain rfl := Except.ok.inj found
    exact finds left result.1 result.2 reached

theorem finds_any (act : Following α) : Finds (fun _ => True) act :=
  fun _ _ _ _ => trivial

theorem finds_mapM {f : β → Following α} {items : List β} (each : ∀ item, Finds p (f item)) :
    Finds (fun values => ∀ value ∈ values, p value) (items.mapM f) := by
  induction items with
  | nil => exact finds_pure (List.forall_mem_nil _)
  | cons item items ih =>
    rw [List.mapM_cons]
    refine (each item).bind fun value here => ih.bind fun values rest => ?_
    exact finds_pure (List.forall_mem_cons.mpr ⟨here, rest⟩)

/-! ## Values of texts

A plain word of a text is a number, a truth value, null or itself, and none of these holds an
object. Objects come from mappings alone, whose repeated names are dropped. -/

theorem distinct_ofWhole? {n : Int} {value : Json} (read : ofWhole? n = some value) :
    Distinct value := by
  unfold ofWhole? at read
  split at read
  · obtain rfl := Option.some.inj read
    exact .integer n
  · obtain ⟨-, read⟩ := Option.ite_none_right_eq_some.mp read
    obtain rfl := Option.some.inj read
    exact .decimal n 0

theorem distinct_intOfText? {text : String} {value : Json}
    (read : intOfText? text = some value) : Distinct value := by
  obtain ⟨n, -, whole⟩ := Option.bind_eq_some_iff.mp read
  exact distinct_ofWhole? whole

theorem distinct_floatOfText? {text : String} {value : Json}
    (read : floatOfText? text = some value) : Distinct value := by
  unfold floatOfText? at read
  split at read
  · obtain rfl := Option.some.inj read
    exact .unreadable
  · obtain ⟨number, -, rfl⟩ := Option.map_eq_some_iff.mp read
    exact .decimal _ _

theorem distinct_ofPlain (text : String) : Distinct (ofPlain text) := by
  unfold ofPlain
  split
  · exact .null
  split
  · exact .bool _
  · next read => exact distinct_intOfText? read
  split
  · exact .string text
  cases read : floatOfText? text with
  | none => exact .string text
  | some number => exact distinct_floatOfText? read

theorem distinct_putUnder {value : Json} (distinct : Distinct value) (tag : Option Octets) :
    Distinct (putUnder tag value) := by
  unfold putUnder
  split
  · exact distinct.nest _
  · exact distinct

theorem distinct_ofUntagged (text : String) (isPlain : Bool) :
    Distinct (ofUntagged text isPlain) := by
  unfold ofUntagged
  split
  · exact distinct_ofPlain text
  · exact .string text

theorem distinct_ofCommon? {kind text : String} {value : Json}
    (read : ofCommon? kind text = some value) : Distinct value := by
  unfold ofCommon? at read
  split at read
  · obtain ⟨truth, -, rfl⟩ := Option.map_eq_some_iff.mp read
    exact .bool truth
  · exact distinct_intOfText? read
  · exact distinct_floatOfText? read
  · obtain ⟨-, read⟩ := Option.ite_none_right_eq_some.mp read
    obtain rfl := Option.some.inj read
    exact .null
  · obtain rfl := Option.some.inj read
    exact .string text

theorem distinct_ofScalar {tag : Option Octets} {text : String} {isPlain : Bool} {value : Json}
    (read : ofScalar tag text isPlain = .ok value) : Distinct value := by
  have untagged := distinct_ofUntagged text isPlain
  unfold ofScalar at read
  split at read
  · obtain rfl := Except.ok.inj read
    exact untagged
  · next tag =>
    split at read
    · obtain rfl := Except.ok.inj read
      exact distinct_putUnder untagged tag
    · dsimp only at read
      split at read
      · next found =>
        obtain rfl := Except.ok.inj read
        exact distinct_ofCommon? found
      · cases read

namespace Document

variable {document : Document}

theorem finds_mappingValue {value : Node → Following Json} {entries : List (Node × Node)}
    (each : ∀ node, Finds Distinct (value node)) :
    Finds (fun found => found.isObject = true ∧ Distinct found)
      (document.mappingValue value entries) := by
  have entry (entry : Node × Node) : Finds (fun m : String × Json => Distinct m.2)
      (do return (← document.keyText entry.1, ← value entry.2)) :=
    (finds_any _).bind fun key _ => (each entry.2).bind fun found distinct => finds_pure distinct
  refine (finds_mapM entry).bind fun members distinct => finds_pure ⟨rfl, ?_⟩
  exact Json.distinct_lastOfEach distinct

theorem finds_scalar (tag : Option Octets) (text : String) (isPlain : Bool) :
    Finds Distinct (ofScalar tag text isPlain : Following Json) := by
  intro left value rest found
  cases read : ofScalar tag text isPlain with
  | error problem =>
    rw [read] at found
    cases found
  | ok scalar =>
    rw [read] at found
    cases found
    exact distinct_ofScalar read

theorem finds_value (depth : Nat) (node : Node) : Finds Distinct (document.value depth node) := by
  -- the induction is on how deep collections may still lie
  induction depth generalizing node with
  | zero =>
    refine (finds_any _).bind fun node _ => ?_
    cases node with
    | scalar tag text isPlain => exact finds_scalar tag text isPlain
    | sequence | mapping | reference => exact finds_throw _
  | succ depth ih =>
    refine (finds_any _).bind fun node _ => ?_
    cases node with
    | scalar tag text isPlain => exact finds_scalar tag text isPlain
    | sequence tag items =>
      refine (finds_mapM ih).bind fun values distinct => finds_pure ?_
      exact distinct_putUnder (.array distinct) tag
    | mapping tag entries =>
      refine (finds_mappingValue ih).bind fun value found => finds_pure ?_
      exact distinct_putUnder found.2 tag
    | reference => exact finds_throw _

theorem distinct_mapping {value : Json} (read : document.mapping = .ok value) :
    value.isObject = true ∧ Distinct value := by
  unfold mapping at read
  split at read
  · next tag entries _ =>
    have finds : Finds (fun found => found.isObject = true ∧ Distinct found)
        (document.mappingValue (document.value (deepest - 1)) entries) :=
      finds_mappingValue (finds_value (deepest - 1))
    exact finds.result read
  · obtain rfl := Except.ok.inj read
    exact ⟨rfl, .object List.nodup_nil (List.forall_mem_nil _)⟩
  · cases read

end Document

theorem distinct_mappingOfText {text : String} {value : Json}
    (read : mappingOfText text = .ok value) : value.isObject = true ∧ Distinct value := by
  unfold mappingOfText at read
  cases document : Document.ofText text with
  | error problem =>
    rw [document] at read
    cases read
  | ok document =>
    rw [document] at read
    exact Document.distinct_mapping read

end Yaml

namespace Settings.Environment

/-! ## Values of variables

The same holds of variables, whose texts have a grammar of their own. The three readers call each
other, so they are dealt with together. -/

theorem distinct_ofWord (text : List Char) : Distinct (ofWord text) := by
  unfold ofWord
  dsimp only
  split
  · exact .decimal _ _
  · exact .integer _
  · exact .string _

mutual

theorem distinct_value? : ∀ (fuel : Nat) {text rest : List Char} {value : Json},
    value? fuel text = some (value, rest) → Distinct value
  | 0, _, _, _, read => nomatch read
  | fuel + 1, text, rest, value, read => by
    unfold value? at read
    dsimp only at read
    split at read
    · obtain ⟨rfl, -⟩ := Prod.mk.inj (Option.some.inj read)
      exact .bool true
    · obtain ⟨rfl, -⟩ := Prod.mk.inj (Option.some.inj read)
      exact .bool false
    · obtain ⟨⟨members, behind⟩, entries, made⟩ := Option.bind_eq_some_iff.mp read
      obtain ⟨rfl, -⟩ := Prod.mk.inj (Option.some.inj made)
      exact Json.distinct_lastOfEach (distinct_entries? fuel entries)
    · obtain ⟨⟨items, behind⟩, listed, made⟩ := Option.bind_eq_some_iff.mp read
      obtain ⟨rfl, -⟩ := Prod.mk.inj (Option.some.inj made)
      exact .array (distinct_items? fuel listed)
    · obtain ⟨⟨quoted, behind⟩, -, made⟩ := Option.bind_eq_some_iff.mp read
      obtain ⟨rfl, -⟩ := Prod.mk.inj (Option.some.inj made)
      exact .string quoted
    · obtain ⟨rfl, -⟩ := Prod.mk.inj (Option.some.inj read)
      exact .string _
    · cases read
    · obtain ⟨rfl, -⟩ := Prod.mk.inj (Option.some.inj read)
      exact distinct_ofWord _

theorem distinct_items? : ∀ (fuel : Nat) {text rest : List Char} {items : List Json},
    items? fuel text = some (items, rest) → ∀ item ∈ items, Distinct item
  | 0, _, _, _, read => nomatch read
  | fuel + 1, text, rest, items, read => by
    unfold items? at read
    split at read
    · cases read
    · cases read
      exact List.forall_mem_nil _
    · next fuel' step _ =>
      cases step
      obtain ⟨⟨item, after⟩, first, others⟩ := Option.bind_eq_some_iff.mp read
      have here := distinct_value? fuel first
      dsimp only at others
      split at others
      · obtain ⟨⟨more, behind⟩, listed, made⟩ := Option.bind_eq_some_iff.mp others
        obtain ⟨rfl, -⟩ := Prod.mk.inj (Option.some.inj made)
        exact List.forall_mem_cons.mpr ⟨here, distinct_items? fuel listed⟩
      · obtain ⟨rfl, -⟩ := Prod.mk.inj (Option.some.inj others)
        exact List.forall_mem_singleton.mpr here
      · cases others

theorem distinct_entries? : ∀ (fuel : Nat) {text rest : List Char} {members : List (String × Json)},
    entries? fuel text = some (members, rest) → ∀ m ∈ members, Distinct m.2
  | 0, _, _, _, read => nomatch read
  | fuel + 1, text, rest, members, read => by
    unfold entries? at read
    split at read
    · cases read
    · cases read
      exact List.forall_mem_nil _
    · next fuel' step _ =>
      cases step
      obtain ⟨⟨key, after⟩, -, afterKey⟩ := Option.bind_eq_some_iff.mp read
      dsimp only at afterKey
      split at afterKey
      · obtain ⟨⟨value, behind⟩, first, others⟩ := Option.bind_eq_some_iff.mp afterKey
        have here := distinct_value? fuel first
        dsimp only at others
        split at others
        · obtain ⟨⟨more, _⟩, entries, made⟩ := Option.bind_eq_some_iff.mp others
          obtain ⟨rfl, -⟩ := Prod.mk.inj (Option.some.inj made)
          exact List.forall_mem_cons.mpr ⟨here, distinct_entries? fuel entries⟩
        · obtain ⟨rfl, -⟩ := Prod.mk.inj (Option.some.inj others)
          exact List.forall_mem_singleton.mpr here
        · cases others
      · cases afterKey

end

theorem distinct_ofText (text : String) : Distinct (ofText text) := by
  unfold ofText
  split
  · next read => exact distinct_value? _ read
  · exact .string text

/-- What a variable sets. -/
def set? (entry : String × String) : Option Json :=
  (keys? entry.1).map fun keys => Json.nest keys (ofText entry.2)

/-- What the variables of an environment set, the last one first, over an empty object. -/
def assigned (environment : List (String × String)) : List Json :=
  environment.reverse.filterMap set? ++ [.object []]

/-- The layer of an environment is a stack of what its variables set. -/
theorem laid_assigned (environment : List (String × String)) :
    laid (assigned environment) = some (layer environment) := by
  rw [assigned, List.filterMap_reverse]
  exact laid_foldl _ _

theorem distinct_assigned (environment : List (String × String)) :
    ∀ value ∈ assigned environment, Distinct value := by
  intro value mem
  rcases List.mem_append.mp mem with mem | mem
  · obtain ⟨entry, -, set⟩ := List.mem_filterMap.mp mem
    obtain ⟨keys, -, rfl⟩ := Option.map_eq_some_iff.mp set
    exact (distinct_ofText entry.2).nest keys
  · rw [List.mem_singleton.mp mem]
    exact .object List.nodup_nil (List.forall_mem_nil _)

theorem distinct_layer (environment : List (String × String)) : Distinct (layer environment) :=
  distinct_laid (distinct_assigned environment) (laid_assigned environment)

/-! ## Variables that lead to a setting

A variable may name a setting, a section above it or something inside of it; all other variables
are silent there. So of an environment only the variables that lead to a setting count. -/

/-- The keys of the variable lead to this place, through it, or to something above it. -/
def leadsTo (place : List String) (entry : String × String) : Bool :=
  match keys? entry.1 with
  | some keys => keys.isPrefixOf place || place.isPrefixOf keys
  | none => false

theorem silent_nest {place keys : List String} (above : ¬ keys <+: place) (below : ¬ place <+: keys)
    (value : Json) : Silent place (Json.nest keys value) := by
  induction place generalizing keys with
  | nil => exact absurd (List.nil_prefix) below
  | cons key place ih =>
    -- the two paths part at some key, since neither leads through the other
    cases keys with
    | nil => exact absurd (List.nil_prefix) above
    | cons first keys =>
      refine ⟨rfl, fun field found => ?_⟩
      have single : (if first = key then some (Json.nest keys value) else none) = some field := by
        rw [← found]
        show _ = Json.last? key [(first, Json.nest keys value)]
        rw [Json.last?_cons]
        rfl
      obtain ⟨rfl, same⟩ := Option.ite_none_right_eq_some.mp single
      obtain rfl := Option.some.inj same
      refine ih (fun prefixes => above ?_) (fun prefixes => below ?_)
      · exact List.cons_prefix_cons.mpr ⟨rfl, prefixes⟩
      · exact List.cons_prefix_cons.mpr ⟨rfl, prefixes⟩

/-- What a variable sets that does not lead to a place is silent there. -/
theorem silent_set {place : List String} {entry : String × String} {value : Json}
    (aside : leadsTo place entry = false) (set : set? entry = some value) : Silent place value := by
  obtain ⟨keys, spelled, rfl⟩ := Option.map_eq_some_iff.mp set
  rw [leadsTo, spelled] at aside
  obtain ⟨above, below⟩ := Bool.or_eq_false_iff.mp aside
  have notAbove : ¬ keys <+: place := by
    rw [← List.isPrefixOf_iff_prefix, above]
    exact Bool.false_ne_true
  have notBelow : ¬ place <+: keys := by
    rw [← List.isPrefixOf_iff_prefix, below]
    exact Bool.false_ne_true
  exact silent_nest notAbove notBelow _

theorem thinned_set (place : List String) (environment : List (String × String)) :
    Thinned place (environment.filterMap set? ++ [.object []])
      ((environment.filter (leadsTo place)).filterMap set? ++ [.object []]) := by
  induction environment with
  | nil => exact .keep _ .nil
  | cons entry environment ih =>
    cases set : set? entry with
    | none =>
      have spelled : keys? entry.1 = none := Option.map_eq_none_iff.mp set
      have aside : leadsTo place entry = false := by rw [leadsTo, spelled]
      rw [List.filterMap_cons_none set, List.filter_cons_of_neg (by simp [aside])]
      exact ih
    | some value =>
      rw [List.filterMap_cons_some set]
      -- a variable that leads there is kept, and every other one is silent
      cases leads : leadsTo place entry with
      | true =>
        rw [List.filter_cons_of_pos leads, List.filterMap_cons_some set]
        exact .keep _ ih
      | false =>
        rw [List.filter_cons_of_neg (by simp [leads])]
        exact .drop (silent_set leads set) ih

theorem at?_layer (place : List String) (environment : List (String × String)) :
    Json.at? place (layer environment) = laid (said (along place) (assigned environment)) := by
  rw [← reach?_laid (distinct_assigned environment), laid_assigned, Option.bind_some, reach?_along]

/-- What an environment says at a place is what the variables that lead there say. -/
theorem at?_layer_filter (place : List String) (environment : List (String × String)) :
    Json.at? place (layer environment) =
      Json.at? place (layer (environment.filter (leadsTo place))) := by
  rw [at?_layer, at?_layer, assigned, assigned, ← List.filter_reverse,
    (thinned_set place environment.reverse).said_eq]

theorem at?_nest (keys : List String) (value : Json) :
    Json.at? keys (Json.nest keys value) = some value := by
  induction keys with
  | nil => rfl
  | cons key keys ih =>
    show (Json.last? key [(key, Json.nest keys value)]).bind (Json.at? keys) = some value
    rw [Json.last?_cons, if_pos rfl]
    exact ih

/-- A setting to which no variable leads is not mentioned. -/
theorem at?_layer_of_none {place : List String} (nonempty : place ≠ [])
    {environment : List (String × String)} (none : environment.filter (leadsTo place) = []) :
    Json.at? place (layer environment) = Option.none := by
  rw [at?_layer_filter, none]
  cases place with
  | nil => exact absurd rfl nonempty
  | cons key place => rfl

/-- A setting that one variable alone names has the value of that variable. -/
theorem at?_layer_of_alone {place : List String} (nonempty : place ≠ []) {name text : String}
    {environment : List (String × String)}
    (alone : environment.filter (leadsTo place) = [(name, text)])
    (named : keys? name = some place) :
    Json.at? place (layer environment) = some (ofText text) := by
  rw [at?_layer_filter, alone]
  cases place with
  | nil => exact absurd rfl nonempty
  | cons key place =>
    have single : layer [(name, text)] = Json.nest (key :: place) (ofText text) := by
      simp [layer, named, Json.nest, overlay, overlayMembers, put]
    rw [single, at?_nest]

end Settings.Environment

end AzcRepair
