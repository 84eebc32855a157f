import AzcRepair.Proofs.Json.Decode
import AzcRepair.Proofs.Settings.Layers

/-!
# What is read stands in what was written

Sections are prepared, read as records and written again. What stands at a path of what is written is
what the value that was read says there, and the default where it says nothing.

* `values_of_record?` — the fields of a record that is read, by name or by place.
* `Stands` — what stands for a setting, by what is said of it.
* `Faithful` — a field is read from nothing but what is written for it.
* `stands_record` — a section stands when its fields do, each as it was before it was prepared.
* `stands_leaf`, `stands_method`, `Sound.below` — the kinds of fields: plain values, the method of
  authentication, and sections of their own.
-/

namespace AzcRepair

open Json (Field last? last?_cons member? names)

namespace Json.Field

/-- The value of a field that is written. -/
def value? : Field → Option Json
  | given value => some value
  | absent | cut => none

variable {α : Type} {decode : Json → Option α} {field : Field} {x default : α}

theorem eq_default_of_unwritten (unwritten : field.value? = none)
    (read : field.orDefault default decode = some x) : x = default := by
  cases field with
  | given value => cases unwritten
  | absent | cut => exact (Option.some.inj read).symm

theorem decode_of_written {value : Json} (written : field.value? = some value)
    (read : field.orDefault default decode = some x) : decode value = some x := by
  cases field with
  | given value =>
    obtain rfl := Option.some.inj written
    exact read
  | absent | cut => cases written

end Json.Field

namespace Settings

variable {value : Json} {name key : String}

/-! ## Records

A record is read by the names of its fields from an object and by their places from an array. Both
are brought to `child?`, which looks up one field, so what follows need not tell them apart. -/

theorem last?_map_field (field : String → Json → Json) (members : List (String × Json)) :
    last? key (members.map fun m => (m.1, field m.1 m.2)) =
      (last? key members).map (field key) := by
  induction members with
  | nil => rfl
  | cons m rest ih =>
    rw [List.map_cons, last?_cons, last?_cons, ih]
    by_cases same : m.1 = key
    · cases last? key rest <;> simp [same]
    · cases last? key rest <;> simp [same]

theorem lookup_zip_field (field : String → Json → Json) (fields : List String)
    (items : List Json) :
    (fields.zip (List.zipWith field fields items)).lookup key =
      ((fields.zip items).lookup key).map (field key) := by
  induction fields generalizing items with
  | nil => rfl
  | cons first fields ih =>
    cases items with
    | nil => rfl
    | cons item items =>
      rw [List.zipWith_cons_cons, List.zip_cons_cons, List.zip_cons_cons, List.lookup_cons,
        List.lookup_cons]
      by_cases same : key = first
      · simp [same]
      · have other : (key == first) = false := beq_eq_false_iff_ne.mpr same
        rw [other]
        exact ih items

/-- Preparing a record prepares what it says of each field. -/
theorem child?_prepareRecord (fields : List String) (field : String → Json → Json) :
    child? fields key (prepareRecord fields field value) =
      (child? fields key value).map (field key) := by
  -- by name, by place, or not at all
  cases value with
  | object members => exact last?_map_field field members
  | array items => exact lookup_zip_field field fields items
  | null | bool | integer | decimal | string | unreadable => rfl

theorem last?_eq_getLast? (members : List (String × Json)) :
    last? key members = ((members.filter (·.1 == key)).getLast?).map (·.2) := by
  rw [last?, ← List.head?_filter, List.filter_reverse, List.head?_reverse]

theorem value?_of_namedField? {members : List (String × Json)} {field : Field}
    (named : Json.namedField? members [key] = some field) :
    field.value? = last? key members := by
  rw [Json.namedField?_single] at named
  rw [last?_eq_getLast?]
  split at named
  · next empty =>
    obtain rfl := Option.some.inj named
    rw [empty]
    rfl
  · next m single =>
    obtain rfl := Option.some.inj named
    rw [single]
    rfl
  · cases named

theorem values_of_named {members : List (String × Json)} {fields : List String}
    {read : List Field}
    (named : (fields.map ([·])).mapM (Json.namedField? members) = some read) :
    read.map Field.value? = fields.map fun key => last? key members := by
  induction fields generalizing read with
  | nil =>
    obtain rfl := Option.some.inj named
    rfl
  | cons key fields ih =>
    rw [List.map_cons, List.mapM_cons] at named
    obtain ⟨first, here, rest⟩ := Option.bind_eq_some_iff.mp named
    obtain ⟨others, later, made⟩ := Option.bind_eq_some_iff.mp rest
    obtain rfl := Option.some.inj made
    rw [List.map_cons, List.map_cons, value?_of_namedField? here, ih later]

theorem values_of_listed {items : List Json} {fields : List String} {read : List Field}
    (once : fields.Nodup) (listed : Json.listedFields? (fields.map ([·])) items = some read) :
    read.map Field.value? = fields.map fun key => (fields.zip items).lookup key := by
  induction fields generalizing items read with
  | nil =>
    -- an array that ends early leaves the fields behind it unsaid
    cases items with
    | nil =>
      obtain rfl := Option.some.inj listed
      rfl
    | cons item items => cases listed
  | cons first fields ih =>
    obtain ⟨other, once⟩ := List.nodup_cons.mp once
    cases items with
    | nil =>
      obtain ⟨rest, later, rfl⟩ := Option.map_eq_some_iff.mp listed
      have values := ih once later
      simp only [List.zip_nil_right, List.lookup_nil] at values ⊢
      rw [List.map_cons, List.map_cons, values]
      rfl
    | cons item items =>
      obtain ⟨rest, later, rfl⟩ := Option.map_eq_some_iff.mp listed
      rw [List.map_cons, List.map_cons, ih once later, List.zip_cons_cons]
      congr 1
      · simp [Field.value?]
      · refine List.map_congr_left fun key mem => ?_
        have ne : (key == first) = false := beq_eq_false_iff_ne.mpr fun same => other (same ▸ mem)
        rw [List.lookup_cons, ne]

/-- A record that is read has of each field what it says of it. -/
theorem values_of_record? {fields : List String} {read : List Field} (once : fields.Nodup)
    (record : value.record? fields = some read) :
    read.map Field.value? = fields.map fun key => child? fields key value := by
  cases value with
  | object members => exact values_of_named record
  | array items => exact values_of_listed once record
  | null | bool | integer | decimal | string | unreadable => cases record

/-! ## Fields

Reading a field loses nothing of what was written: the value that was read can be written again,
and it is what was there. Only the method of authentication is read otherwise, by the least key of
an object. -/

/-- The value that stands for a setting, by what a layer says of it. -/
inductive Stands (default : Option Json) : Option Json → Option Json → Prop
  /-- It is not mentioned. -/
  | unmentioned : Stands default none default
  /-- It is taken back. -/
  | takenBack : Stands default (some .null) none
  /-- It has a value. -/
  | given {value : Json} (isNull : value ≠ .null) (isObject : value.isObject = false) :
    Stands default (some value) (some value)
  /-- It is named by an object, whose least key counts. -/
  | named {members : List (String × Json)} {least : String} (mem : least ∈ names members)
    (first : ∀ key ∈ names members, least ≤ key) :
    Stands default (some (.object members)) (some (.string least))

/-- What a field can be read from is what is written for it, and neither null nor an object. -/
structure Faithful {α : Type} (decode : Json → Option α) (encode : α → Json) : Prop where
  written : ∀ {value : Json} {x : α}, decode value = some x → value = encode x
  isNull : ∀ x, encode x ≠ .null
  isObject : ∀ x, (encode x).isObject = false

theorem faithful_string : Faithful Json.string? Json.string where
  written {value x} read := by
    cases value <;> cases read
    rfl
  isNull x := nofun
  isObject x := rfl

theorem faithful_path : Faithful path? fun path => .string path.text where
  written {value x} read := by
    obtain ⟨text, here, rfl⟩ := Option.map_eq_some_iff.mp read
    exact faithful_string.written here
  isNull x := nofun
  isObject x := rfl

theorem faithful_bool : Faithful Json.bool? Json.bool where
  written {value x} read := by
    cases value <;> cases read
    rfl
  isNull x := nofun
  isObject x := rfl

theorem faithful_word32 : Faithful Json.word32? Json.ofWord32 where
  written {value x} read := by
    unfold Json.word32? at read
    split at read
    · obtain ⟨small, read⟩ := Option.ite_none_right_eq_some.mp read
      obtain rfl := Option.some.inj read
      rw [Json.ofWord32, UInt32.toNat_ofNat_of_lt' small]
      rfl
    · cases read
  isNull x := nofun
  isObject x := rfl

theorem faithful_word64 : Faithful Json.word64? Json.ofWord64 where
  written {value x} read := by
    unfold Json.word64? at read
    split at read
    · obtain ⟨small, read⟩ := Option.ite_none_right_eq_some.mp read
      obtain rfl := Option.some.inj read
      rw [Json.ofWord64, UInt64.toNat_ofNat_of_lt' small]
      rfl
    · cases read
  isNull x := nofun
  isObject x := rfl

theorem eq_map_of_mapM_string {items : List Json} {texts : List String}
    (read : items.mapM Json.string? = some texts) : items = texts.map .string := by
  induction items generalizing texts with
  | nil =>
    obtain rfl := Option.some.inj read
    rfl
  | cons item items ih =>
    rw [List.mapM_cons] at read
    obtain ⟨text, here, rest⟩ := Option.bind_eq_some_iff.mp read
    obtain ⟨others, later, made⟩ := Option.bind_eq_some_iff.mp rest
    obtain rfl := Option.some.inj made
    rw [List.map_cons, faithful_string.written here, ← ih later]

theorem faithful_texts :
    Faithful (Json.list? Json.string?) fun texts => .array (texts.map .string) where
  written {value x} read := by
    cases value with
    | array items => exact congrArg Json.array (eq_map_of_mapM_string read)
    | object | null | bool | integer | decimal | string | unreadable => cases read
  isNull x := nofun
  isObject x := rfl

variable {α : Type} {decode : Json → Option α} {encode : α → Json} {field : Field} {x default : α}

theorem Faithful.stands (faithful : Faithful decode encode)
    (read : field.orDefault default decode = some x) :
    Stands (some (encode default)) field.value? (some (encode x)) := by
  -- a field that is not written has its default
  cases written : field.value? with
  | none =>
    rw [Field.eq_default_of_unwritten written read]
    exact .unmentioned
  | some value =>
    rw [faithful.written (Field.decode_of_written written read)]
    exact .given (faithful.isNull x) (faithful.isObject x)

theorem Faithful.stands_optional {x : Option α} (faithful : Faithful decode encode)
    (read : field.optional decode = some x) :
    Stands none field.value? (x.map encode) := by
  unfold Field.optional at read
  split at read
  · obtain rfl := Option.some.inj read
    exact .takenBack
  · obtain ⟨y, here, rfl⟩ := Option.map_eq_some_iff.mp read
    obtain rfl := faithful.written here
    exact .given (faithful.isNull y) (faithful.isObject y)
  · obtain rfl := Option.some.inj read
    exact .unmentioned
  · cases read

/-! ## Sections

Every section is prepared, read as a record, filled up with defaults and written again, so one
lemma covers them all. What differs from section to section is which of its fields are sections
themselves. -/

/-- The keys along a path. -/
def keys (path : List Step) : List String :=
  path.map (·.key)

/-- The paths into a section with these fields, by those below each field. -/
def pathsInto (fields : List String) (below : String → List (List Step)) : List (List Step) :=
  fields.flatMap fun key => (below key).map (⟨fields, key⟩ :: ·)

/-- The end of a path. -/
def here : List (List Step) :=
  [[]]

/-- What a section says of a field stands at every path below that field. -/
def StandsBelow (below : String → List (List Step)) (default written : Json) (key : String)
    (field : Option Json) : Prop :=
  ∀ path ∈ below key, Stands ((member? key default).bind (Json.at? (keys path)))
    (field.bind (reach? path)) ((member? key written).bind (Json.at? (keys path)))

/-- It holds of what a field was before it was prepared. -/
def Before (prepare : String → Json → Json) (holds : String → Option Json → Prop) (key : String)
    (field : Field) : Prop :=
  ∀ before : Option Json, field.value? = before.map (prepare key) → holds key before

/-- It holds of what each field of a record was before it was prepared. -/
def Each (prepare : String → Json → Json) (holds : String → Option Json → Prop) :
    List String → List Field → Prop
  | key :: keys, field :: fields => Before prepare holds key field ∧ Each prepare holds keys fields
  | _, _ => True

theorem each_iff {prepare : String → Json → Json} {holds : String → Option Json → Prop}
    {before : String → Option Json} {fields : List String} {read : List Field}
    (values : read.map Field.value? = fields.map fun key => (before key).map (prepare key))
    (each : Each prepare holds fields read) : ∀ key ∈ fields, holds key (before key) := by
  induction fields generalizing read with
  | nil => exact List.forall_mem_nil _
  | cons key fields ih =>
    cases read with
    | nil => cases values
    | cons field read =>
      obtain ⟨first, rest⟩ := List.cons.inj values
      exact List.forall_mem_cons.mpr ⟨each.1 _ first, ih rest each.2⟩

/-- A record is read so that what it says stands, when this is so of its fields. -/
theorem stands_record {fields : List String} {prepare : String → Json → Json}
    {below : String → List (List Step)} {default written : Json} {read : List Field}
    (once : fields.Nodup) (record : (prepareRecord fields prepare value).record? fields = some read)
    (each : Each prepare (StandsBelow below default written) fields read) :
    ∀ path ∈ pathsInto fields below, Stands (Json.at? (keys path) default) (reach? path value)
      (Json.at? (keys path) written) := by
  have values := values_of_record? once record
  simp only [child?_prepareRecord] at values
  intro path mem
  obtain ⟨key, isField, rest⟩ := List.mem_flatMap.mp mem
  obtain ⟨path, inside, rfl⟩ := List.mem_map.mp rest
  exact each_iff values each key isField path inside

theorem stands_leaf {below : String → List (List Step)} {prepare : String → Json → Json}
    {default written : Json} (leaf : below key = here) (plain : prepare key = fun value => value)
    (stands : Stands (member? key default) field.value? (member? key written)) :
    Before prepare (StandsBelow below default written) key field := by
  intro before same
  unfold StandsBelow
  rw [plain, Option.map_id'] at same
  rw [leaf, here, List.forall_mem_singleton, ← same]
  show Stands ((member? key default).bind some) (field.value?.bind some)
    ((member? key written).bind some)
  rw [Option.bind_fun_some, Option.bind_fun_some, Option.bind_fun_some]
  exact stands

/-- The search for the least key, from what was found before. -/
theorem foldl_least {members : List (String × Json)} {found : Option (String × Json)}
    {least : String × Json} (search : members.foldl (fun least m =>
      if least.all fun l => m.1 < l.1 then some m else least) found = some least) :
    (least ∈ members ∨ found = some least) ∧ (∀ m ∈ members, least.1 ≤ m.1) ∧
      ∀ m, found = some m → least.1 ≤ m.1 := by
  -- the search carries the least key of the members that it has passed
  induction members generalizing found with
  | nil =>
    refine ⟨.inr search, List.forall_mem_nil _, fun m before => ?_⟩
    obtain rfl := Option.some.inj (before.symm.trans search)
    exact String.le_refl _
  | cons m rest ih =>
    rw [List.foldl_cons] at search
    obtain ⟨isFound, first, upon⟩ := ih search
    split at upon
    · next less =>
      have here : least.1 ≤ m.1 := upon m rfl
      rw [if_pos less] at isFound
      refine ⟨.inl ?_, List.forall_mem_cons.mpr ⟨here, first⟩, ?_⟩
      · rcases isFound with mem | same
        · exact List.mem_cons_of_mem _ mem
        · exact Option.some.inj same ▸ List.mem_cons_self
      · rintro other rfl
        have below : m.1 < other.1 := of_decide_eq_true less
        exact fun above => here (String.lt_trans below above)
    · next more =>
      rw [if_neg more] at isFound
      obtain ⟨other, rfl⟩ : ∃ other, found = some other := by
        cases found with
        | none => exact absurd rfl more
        | some other => exact ⟨other, rfl⟩
      have here : other.1 ≤ m.1 := fun below => more (decide_eq_true below)
      have before : least.1 ≤ other.1 := upon other rfl
      refine ⟨isFound.imp_left (List.mem_cons_of_mem _), ?_, upon⟩
      exact List.forall_mem_cons.mpr ⟨String.le_trans before here, first⟩

/-- The key that an object is read by is the least of its keys. -/
theorem least_of_prepareMethod {members : List (String × Json)} {least : String} {content : Json}
    (prepared : prepareMethod (.object members) = .object [(least, content)]) :
    least ∈ names members ∧ ∀ key ∈ names members, least ≤ key := by
  unfold prepareMethod at prepared
  dsimp only at prepared
  cases search : members.foldl (fun (least : Option (String × Json)) m =>
      if least.all fun l => m.1 < l.1 then some m else least) none with
  | none =>
    rw [search] at prepared
    cases prepared
  | some found =>
    rw [search] at prepared
    cases prepared
    obtain ⟨isFound, first, -⟩ := foldl_least search
    have mem := isFound.resolve_right nofun
    exact ⟨List.mem_map_of_mem mem, List.forall_mem_map.mpr first⟩

theorem AuthMethod.name_of_ofName? {name : String} {method : AuthMethod}
    (read : AuthMethod.ofName? name = some method) : method.name = name := by
  have named := List.find?_some read
  exact beq_iff_eq.mp named

theorem stands_prepareMethod {default : Option Json} {method : AuthMethod}
    (read : AuthMethod.ofJson? (prepareMethod value) = some method) :
    Stands default (some value) (some (.string method.name)) := by
  -- an object is read by one of its keys, a text as it is
  cases value with
  | object members =>
    unfold AuthMethod.ofJson? at read
    split at read
    · next prepared => cases prepared
    · next least prepared =>
      obtain ⟨mem, first⟩ := least_of_prepareMethod prepared
      rw [AuthMethod.name_of_ofName? read]
      exact .named mem first
    · cases read
  | string name =>
    rw [AuthMethod.name_of_ofName? read]
    exact .given nofun rfl
  | null | bool | integer | decimal | array | unreadable => cases read

theorem stands_method {below : String → List (List Step)} {prepare : String → Json → Json}
    {default written : Json} {absent method : AuthMethod} (leaf : below key = here)
    (prepared : prepare key = prepareMethod)
    (inDefault : member? key default = some (.string absent.name))
    (inWritten : member? key written = some (.string method.name))
    (read : field.orDefault absent AuthMethod.ofJson? = some method) :
    Before prepare (StandsBelow below default written) key field := by
  intro before same
  unfold StandsBelow
  rw [prepared] at same
  rw [leaf, here, List.forall_mem_singleton, inDefault, inWritten]
  show Stands (some (.string absent.name)) (before.bind some) (some (.string method.name))
  rw [Option.bind_fun_some]
  -- a method is not written, or it is what was prepared
  cases before with
  | none =>
    rw [Field.eq_default_of_unwritten same read]
    exact .unmentioned
  | some before => exact stands_prepareMethod (Field.decode_of_written same read)

/-- What is read as a section after it was prepared, and written again, stands at the paths. -/
def Sound {σ : Type} (prepare : Json → Json) (ofJson? : Json → Option σ) (toJson : σ → Json)
    (default : σ) (paths : List (List Step)) : Prop :=
  ∀ value result, ofJson? (prepare value) = some result → ∀ path ∈ paths,
    Stands (Json.at? (keys path) (toJson default)) (reach? path value)
      (Json.at? (keys path) (toJson result))

theorem Sound.below {σ : Type} {prepareField : Json → Json} {ofJson? : Json → Option σ}
    {toJson : σ → Json} {absent result : σ} {paths : List (List Step)}
    {below : String → List (List Step)} {prepare : String → Json → Json} {default written : Json}
    (sound : Sound prepareField ofJson? toJson absent paths) (inside : below key = paths)
    (prepared : prepare key = prepareField) (inDefault : member? key default = some (toJson absent))
    (inWritten : member? key written = some (toJson result))
    (read : field.orDefault absent ofJson? = some result) :
    Before prepare (StandsBelow below default written) key field := by
  intro before same path mem
  rw [inside] at mem
  rw [prepared] at same
  rw [inDefault, inWritten, Option.bind_some, Option.bind_some]
  cases before with
  | none =>
    rw [Field.eq_default_of_unwritten same read]
    exact .unmentioned
  | some before => exact sound before result (Field.decode_of_written same read) path mem

end Settings

end AzcRepair
