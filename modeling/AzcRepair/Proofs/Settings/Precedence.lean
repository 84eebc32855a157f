import AzcRepair.Proofs.Procedure.Layers
import AzcRepair.Proofs.Settings.Sections
import AzcRepair.Proofs.Settings.Sources

/-!
# Which layer decides a setting

Settings are loaded from the environment, a local file, a shared file and the defaults, the highest
layer first. What decides a setting is the highest layer in force that mentions it.

* `Decides` — the value of a setting, by what the layers in force say of it.
* `decides_of_load` — what is loaded is decided in this way, at the path to every setting.
* `load_of_shared_alone` — without the other layers, a project is loaded as its shared file alone.
-/

namespace AzcRepair.Settings

open Json (Distinct last?_eq_none_iff member? names)

variable {value : Json} {layers : List Json}

/-! ## What decides a setting

A layer may leave a setting out, take it back with a null, give it a value, or write an object in
its place, which only settings with names of variants allow. The four cases of `Decides` are
these, read at the highest layer in force. -/

/-- The keys of objects. -/
def keysOf (layers : List Json) : List String :=
  layers.flatMap fun
    | .object members => names members
    | _ => []

/-- The value of a setting, by what the layers in force say of it, the highest one first. -/
inductive Decides (default : Option Json) : List Json → Option Json → Prop
  /-- No layer mentions it. -/
  | unmentioned : Decides default [] default
  /-- The highest layer takes it back. -/
  | takenBack {lower : List Json} : Decides default (.null :: lower) none
  /-- The highest layer has a value for it. -/
  | given {value : Json} {lower : List Json} (isNull : value ≠ .null)
    (isObject : value.isObject = false) : Decides default (value :: lower) (some value)
  /-- The layers have objects for it, and the least of their keys is a name. -/
  | named {members : List (String × Json)} {lower : List Json} {least : String}
    (mem : least ∈ keysOf (.object members :: lower))
    (first : ∀ key ∈ keysOf (.object members :: lower), least ≤ key) :
    Decides default (.object members :: lower) (some (.string least))

theorem mem_keysOf_iff {key : String} (objects : ∀ layer ∈ layers, layer.isObject = true) :
    key ∈ keysOf layers ↔ layers.filterMap (member? key) ≠ [] := by
  induction layers with
  | nil => simp [keysOf]
  | cons top lower ih =>
    obtain ⟨object, below⟩ := List.forall_mem_cons.mp objects
    cases top with
    | object members =>
      have here : key ∈ keysOf (.object members :: lower) ↔
          key ∈ names members ∨ key ∈ keysOf lower := List.mem_append
      rw [here, ih below]
      -- the top layer has the key or not; the layers below it are the hypothesis of the induction
      cases found : member? key (.object members) with
      | none =>
        have absent : key ∉ names members := last?_eq_none_iff.mp found
        rw [List.filterMap_cons_none found, or_iff_right absent]
      | some field =>
        have present : key ∈ names members := by
          by_contra absent
          have missing := last?_eq_none_iff.mpr absent
          cases missing.symm.trans found
        rw [List.filterMap_cons_some found]
        exact iff_of_true (.inl present) nofun
    | null | bool | integer | decimal | string | array | unreadable => cases object

theorem mem_names_laid_iff {key : String} {members : List (String × Json)}
    (objects : ∀ layer ∈ layers, layer.isObject = true)
    (distinct : ∀ layer ∈ layers, Distinct layer)
    (found : laid layers = some (.object members)) :
    key ∈ names members ↔ key ∈ keysOf layers := by
  have fields : (laid layers).bind (member? key) = laid (layers.filterMap (member? key)) :=
    member?_laid objects distinct
  rw [found, Option.bind_some] at fields
  rw [mem_keysOf_iff objects, ← not_iff_not, not_not, ← last?_eq_none_iff]
  show member? key (.object members) = none ↔ _
  rw [fields]
  cases layers.filterMap (member? key) with
  | nil => exact iff_of_true rfl rfl
  | cons first rest => exact iff_of_false nofun nofun

/-- What stands for a setting in a stack of layers is what its layers in force decide. -/
theorem decides_of_stands {default written : Option Json}
    (distinct : ∀ layer ∈ layers, Distinct layer) (stands : Stands default (laid layers) written) :
    Decides default (inForce layers) written := by
  cases layers with
  | nil =>
    cases stands
    exact .unmentioned
  | cons top lower =>
    rw [← laid_inForce] at stands
    -- a value that is no object decides alone; objects are joined, and the least of all their
    -- keys counts
    cases object : top.isObject with
    | false =>
      rw [inForce, object] at stands ⊢
      rw [laid_of_isObject_eq_false object] at stands
      cases stands with
      | takenBack => exact .takenBack
      | given isNull isObject => exact .given isNull isObject
      | named => cases object
    | true =>
      have objects : ∀ layer ∈ inForce (top :: lower), layer.isObject = true :=
        isObject_of_mem_inForce object
      have distinct : ∀ layer ∈ inForce (top :: lower), Distinct layer :=
        fun layer mem => distinct layer (mem_inForce mem)
      obtain ⟨value, found⟩ : ∃ value, laid (inForce (top :: lower)) = some value := ⟨_, rfl⟩
      have objectValue := isObject_laid objects found
      rw [found] at stands
      cases stands with
      | takenBack => cases objectValue
      | given isNull isObject => rw [isObject] at objectValue; cases objectValue
      | @named members least mem first =>
        have keys (key : String) : key ∈ names members ↔ key ∈ keysOf (inForce (top :: lower)) :=
          mem_names_laid_iff objects distinct found
        simp only [keys] at mem first
        rw [inForce_of_isObject object] at mem first ⊢
        cases top with
        | object members => exact .named mem first
        | null | bool | integer | decimal | string | array | unreadable => cases object

/-! ## What is loaded

Loading asks for files, one layer after the other. On a disk that does not change the answers are
a function of the question, and a procedure over files comes to one value. -/

/-- What a procedure over files comes to on a disk that does not change. -/
def on {α : Type} (disk : (call : Disk.Call) → Disk.Answer call)
    (p : Procedure Disk.Call Disk.Answer α) : α :=
  (p.handle (M := Id) disk).run

/-- The layer of a file. -/
def layerOn (disk : (call : Disk.Call) → Disk.Answer call) (workingDirectory path : Path) :
    Except Unfit Json :=
  on disk (Loading.layer workingDirectory path).run

variable {disk : (call : Disk.Call) → Disk.Answer call} {workingDirectory directory : Path}
  {environment : List (String × String)}

theorem on_bind {α β : Type} (p : Procedure Disk.Call Disk.Answer α)
    (next : α → Procedure Disk.Call Disk.Answer β) :
    on disk (p >>= next) = on disk (next (on disk p)) := by
  unfold on
  rw [Procedure.handle_bind]
  rfl

theorem on_run_bind {α β : Type} (x : Loading α) (next : α → Loading β) :
    on disk (x >>= next).run = (on disk x.run >>= fun value => on disk (next value).run) := by
  rw [ExceptT.run_bind, on_bind]
  cases on disk x.run <;> rfl

theorem on_load : on disk (load workingDirectory directory environment) =
    ofLayers .project (do
      let shared ← layerOn disk workingDirectory (directory / "config.yaml")
      let own ← layerOn disk workingDirectory (directory / "local.yaml")
      return [shared, own, Environment.layer environment]) := by
  have files (shared : Json) : on disk (ExceptT.run do
      let own ← Loading.layer workingDirectory (directory / "local.yaml")
      return [shared, own, Environment.layer environment]) = (do
        let own ← layerOn disk workingDirectory (directory / "local.yaml")
        return [shared, own, Environment.layer environment]) := on_run_bind _ _
  unfold load
  dsimp only
  rw [on_bind, on_run_bind]
  simp only [files]
  rfl

theorem on_loadFile (path : Path) : on disk (loadFile workingDirectory path) =
    ofLayers (.single path) (do return [← layerOn disk workingDirectory path]) := by
  unfold loadFile
  dsimp only
  rw [on_bind, on_run_bind]
  rfl

theorem on_ask_bind {α : Type} (call : Disk.Call) (next : Disk.Answer call → Loading α) :
    on disk (Loading.ask call >>= next).run = on disk (next (disk call)).run :=
  on_run_bind _ _

/-- The layer of a file is an object that names nothing twice. -/
theorem distinct_layerOn {path : Path} (read : layerOn disk workingDirectory path = .ok value) :
    value.isObject = true ∧ Distinct value := by
  unfold layerOn Loading.layer at read
  rw [on_run_bind] at read
  cases found : on disk (Loading.firstFile (Loading.places workingDirectory path)).run with
  | error cause =>
    rw [found] at read
    cases read
  | ok place =>
    rw [found] at read
    -- no file gives the empty object, and a file what its text stands for
    cases place with
    | none =>
      obtain rfl := Except.ok.inj read
      exact ⟨rfl, .object List.nodup_nil (List.forall_mem_nil _)⟩
    | some place =>
      change on disk (Loading.ask (.readText place) >>= _).run = _ at read
      rw [on_ask_bind] at read
      split at read
      · cases read
      · next text _ =>
        split at read
        · cases read
        · next mapping =>
          obtain rfl := Except.ok.inj read
          exact Yaml.distinct_mappingOfText mapping

/-- A file that is at none of the places is not found. -/
theorem on_firstFile_of_missing {places : List Path}
    (missing : ∀ place ∈ places, disk (.isFile place) = false) :
    on disk (Loading.firstFile places).run = .ok none := by
  induction places with
  | nil => rfl
  | cons place rest ih =>
    obtain ⟨here, missing⟩ := List.forall_mem_cons.mp missing
    rw [Loading.firstFile, on_ask_bind, here]
    exact ih missing

/-- Where a file is nowhere to be found, its layer says nothing. -/
theorem layerOn_of_missing {path : Path}
    (missing : ∀ place ∈ Loading.places workingDirectory path, disk (.isFile place) = false) :
    layerOn disk workingDirectory path = .ok (.object []) := by
  unfold layerOn Loading.layer
  rw [on_run_bind, on_firstFile_of_missing missing]
  rfl

/-! ## Precedence

The environment lies on top, then the local file, the shared file and the defaults. Every one of
them names nothing twice, which the lemmas about stacks ask for. -/

/-- The layers of a project, the highest one first. -/
def stack (environment : List (String × String)) (own shared : Json) : List Json :=
  [Environment.layer environment, own, shared, ({} : Settings).toJson]

theorem distinct_defaults : Distinct ({} : Settings).toJson := by
  have same : Json.collapse ({} : Settings).toJson = ({} : Settings).toJson := by rfl
  rw [← same]
  exact Json.distinct_collapse _

theorem distinct_stack {own shared : Json}
    (readOwn : layerOn disk workingDirectory (directory / "local.yaml") = .ok own)
    (readShared : layerOn disk workingDirectory (directory / "config.yaml") = .ok shared) :
    ∀ layer ∈ stack environment own shared, Distinct layer := by
  simp only [stack, List.forall_mem_cons]
  exact ⟨Environment.distinct_layer environment, (distinct_layerOn readOwn).2,
    (distinct_layerOn readShared).2, distinct_defaults, List.forall_mem_nil _⟩

theorem said_eq_inForce (path : List Step) (distinct : ∀ layer ∈ layers, Distinct layer) :
    ∃ fewer, said path layers = inForce fewer ∧ ∀ layer ∈ fewer, Distinct layer := by
  induction path generalizing layers with
  | nil => exact ⟨layers, rfl, distinct⟩
  | cons step path ih => exact ih (distinct_fields distinct step)

theorem ofLayers_ok (failure : Unfit → LoadFailure) (layers : List Json) :
    ofLayers failure (.ok layers) =
      match ofLayers? layers with
      | none => .error (failure .value)
      | some settings => (settings.check.mapError .invalid).map fun _ => settings := by
  have mapped : (Except.ok layers : Except Unfit (List Json)).map ofLayers? =
      .ok (ofLayers? layers) := rfl
  rw [ofLayers, mapped]
  cases ofLayers? layers <;> rfl

theorem ofLayers_eq_ok {failure : Unfit → LoadFailure} {found : Except Unfit (List Json)}
    {settings : Settings} (loaded : ofLayers failure found = .ok settings) :
    ∃ layers, found = .ok layers ∧ ofLayers? layers = some settings := by
  cases found with
  | error cause => cases loaded
  | ok layers =>
    rw [ofLayers_ok] at loaded
    cases read : ofLayers? layers with
    | none =>
      rw [read] at loaded
      cases loaded
    | some result =>
      rw [read] at loaded
      dsimp only at loaded
      cases checked : result.check with
      | error problem =>
        rw [checked] at loaded
        cases loaded
      | ok _ =>
        rw [checked] at loaded
        obtain rfl := Except.ok.inj loaded
        exact ⟨layers, rfl, read⟩

/-- Settings that are read of layers over the defaults are decided by the stack of these layers. -/
theorem decides_of_ofLayers? {settings : Settings} (read : ofLayers? layers = some settings)
    (distinct : ∀ layer ∈ layers.reverse ++ [({} : Settings).toJson], Distinct layer)
    {path : List Step} (mem : path ∈ paths) :
    Decides (Json.at? (keys path) ({} : Settings).toJson)
      (said path (layers.reverse ++ [({} : Settings).toJson]))
      (Json.at? (keys path) settings.toJson) := by
  have stands := sound _ settings read path mem
  have reached := reach?_laid distinct path
  rw [laid_foldl, Option.bind_some] at reached
  rw [reached] at stands
  obtain ⟨fewer, same, distinctFewer⟩ := said_eq_inForce path distinct
  rw [same] at stands ⊢
  rw [laid_inForce] at stands
  exact decides_of_stands distinctFewer stands

/-- What is loaded is decided, at every setting, by the highest layer in force that mentions it. -/
theorem decides_of_load {settings : Settings}
    (loaded : on disk (load workingDirectory directory environment) = .ok settings) :
    ∃ shared own, layerOn disk workingDirectory (directory / "config.yaml") = .ok shared ∧
      layerOn disk workingDirectory (directory / "local.yaml") = .ok own ∧
      ∀ path ∈ paths, Decides (Json.at? (keys path) ({} : Settings).toJson)
        (said path (stack environment own shared)) (Json.at? (keys path) settings.toJson) := by
  rw [on_load] at loaded
  obtain ⟨layers, found, read⟩ := ofLayers_eq_ok loaded
  cases readShared : layerOn disk workingDirectory (directory / "config.yaml") with
  | error cause =>
    rw [readShared] at found
    cases found
  | ok shared =>
    cases readOwn : layerOn disk workingDirectory (directory / "local.yaml") with
    | error cause =>
      rw [readShared, readOwn] at found
      cases found
    | ok own =>
      rw [readShared, readOwn] at found
      obtain rfl := Except.ok.inj found
      refine ⟨shared, own, rfl, rfl, ?_⟩
      intro path mem
      exact decides_of_ofLayers? read (distinct_stack readOwn readShared) mem

/-! ## The shared file alone

A local file that is missing and an environment without variables both give the empty object as
their layer, and laying it over another object changes nothing. -/

/-- The failure of a single file, as that of a project. -/
def LoadFailure.ofProject : LoadFailure → LoadFailure
  | .single _ cause => .project cause
  | failure => failure

theorem overlay_empty (object : base.isObject = true) : overlay base (.object []) = base := by
  cases base with
  | object below => rw [overlay_object, overlayMembers]
  | null | bool | integer | decimal | string | array | unreadable => cases object

theorem layer_of_unnamed (unnamed : ∀ entry ∈ environment, Environment.keys? entry.1 = none) :
    Environment.layer environment = .object [] := by
  have nothing : environment.filterMap Environment.set? = [] := by
    refine List.filterMap_eq_nil_iff.mpr fun entry mem => ?_
    rw [Environment.set?, unnamed entry mem]
    rfl
  have same : Environment.layer environment =
      (environment.filterMap Environment.set?).foldl overlay (.object []) := rfl
  rw [same, nothing]
  rfl

theorem ofLayers?_empty {shared : Json} (object : shared.isObject = true) :
    ofLayers? [shared, .object [], .object []] = ofLayers? [shared] := by
  have below : (overlay ({} : Settings).toJson shared).isObject = true := isObject_overlay object
  -- the defaults are an object, so nothing is hidden by an empty one
  unfold ofLayers?
  simp only [List.foldl_cons, List.foldl_nil, overlay_empty below]

/-- How settings come of layers does not depend on where the layers are from. -/
theorem ofLayers_mapError (path : Path) (found : Except Unfit (List Json)) :
    (ofLayers (.single path) found).mapError LoadFailure.ofProject = ofLayers .project found := by
  cases found with
  | error cause => rfl
  | ok layers =>
    rw [ofLayers_ok, ofLayers_ok]
    cases ofLayers? layers with
    | none => rfl
    | some settings =>
      dsimp only
      cases settings.check <;> rfl

/-- Without a local file and without variables, a project is loaded as its shared file alone. -/
theorem load_of_shared_alone
    (unlocal : ∀ place ∈ Loading.places workingDirectory (directory / "local.yaml"),
      disk (.isFile place) = false)
    (unnamed : ∀ entry ∈ environment, Environment.keys? entry.1 = none) :
    on disk (load workingDirectory directory environment) =
      (on disk (loadFile workingDirectory (directory / "config.yaml"))).mapError
        LoadFailure.ofProject := by
  rw [on_load, on_loadFile, ofLayers_mapError, layerOn_of_missing unlocal,
    layer_of_unnamed unnamed]
  cases read : layerOn disk workingDirectory (directory / "config.yaml") with
  | error cause => rfl
  | ok shared =>
    show ofLayers .project (.ok [shared, .object [], .object []]) = ofLayers .project (.ok [shared])
    rw [ofLayers_ok, ofLayers_ok, ofLayers?_empty (distinct_layerOn read).1]

/-! ## The whole

The parts above are put together here, with projects that show each layer at work. -/

theorem keys_ne_nil {path : List Step} (mem : path ∈ paths) : keys path ≠ [] := by
  obtain ⟨key, -, below⟩ := List.mem_flatMap.mp mem
  obtain ⟨rest, -, rfl⟩ := List.mem_map.mp below
  exact List.cons_ne_nil _ _

theorem isMapped_defaults : ∀ path ∈ paths, isMapped path ({} : Settings).toJson = true := by
  decide

/-- Where no section of a setting is hidden, the highest layer that mentions it decides. -/
theorem highest_of_mapped {path : List Step} (mem : path ∈ paths) {own shared : Json}
    (mapped : ∀ layer ∈ [Environment.layer environment, own, shared], isMapped path layer = true) :
    (said path (stack environment own shared)).head? =
      (stack environment own shared).findSome? (Json.at? (keys path)) := by
  apply said_of_mapped
  intro layer inside
  rcases List.mem_append.mp (show layer ∈ [_, own, shared] ++ [_] from inside) with above | last
  · exact mapped layer above
  · rw [List.mem_singleton.mp last]
    exact isMapped_defaults path mem

/-- **Which layer decides a setting.** When a project is loaded, every setting has the value that
the highest layer in force gives it; where no section of it is hidden, that is the highest layer
that mentions it. What the environment mentions is what its variables name. Without a local file
and without variables a project is loaded, rejected or unreadable as its shared file is alone. -/
theorem load_precedence (disk : (call : Disk.Call) → Disk.Answer call)
    (workingDirectory directory : Path) (environment : List (String × String)) :
    (∀ settings, on disk (load workingDirectory directory environment) = .ok settings →
      ∃ shared own, layerOn disk workingDirectory (directory / "config.yaml") = .ok shared ∧
        layerOn disk workingDirectory (directory / "local.yaml") = .ok own ∧
        ∀ path ∈ paths,
          Decides (Json.at? (keys path) ({} : Settings).toJson)
            (said path (stack environment own shared)) (Json.at? (keys path) settings.toJson) ∧
          ((∀ layer ∈ [Environment.layer environment, own, shared], isMapped path layer = true) →
            (said path (stack environment own shared)).head? =
              (stack environment own shared).findSome? (Json.at? (keys path)))) ∧
    (∀ path ∈ paths,
      (environment.filter (Environment.leadsTo (keys path)) = [] →
        Json.at? (keys path) (Environment.layer environment) = none) ∧
      ∀ name text, environment.filter (Environment.leadsTo (keys path)) = [(name, text)] →
        Environment.keys? name = some (keys path) →
          Json.at? (keys path) (Environment.layer environment) =
            some (Environment.ofText text)) ∧
    ((∀ place ∈ Loading.places workingDirectory (directory / "local.yaml"),
        disk (.isFile place) = false) →
      (∀ entry ∈ environment, Environment.keys? entry.1 = none) →
      on disk (load workingDirectory directory environment) =
        (on disk (loadFile workingDirectory (directory / "config.yaml"))).mapError
          LoadFailure.ofProject) := by
  refine ⟨?decided, ?named, load_of_shared_alone⟩
  case decided =>
    intro settings loaded
    obtain ⟨shared, own, readShared, readOwn, decides⟩ := decides_of_load loaded
    refine ⟨shared, own, readShared, readOwn, ?_⟩
    intro path mem
    exact ⟨decides path mem, highest_of_mapped mem⟩
  case named =>
    intro path mem
    have nonempty : keys path ≠ [] := keys_ne_nil mem
    exact ⟨Environment.at?_layer_of_none nonempty, fun name text =>
      Environment.at?_layer_of_alone nonempty⟩

/-- A disk that holds these files. -/
def diskOf (files : List (String × String)) : (call : Disk.Call) → Disk.Answer call
  | .present path | .isFile path => (files.lookup path.text).isSome
  | .isDirectory _ => false
  | .list _ => .ok []
  | .readText path =>
    match files.lookup path.text with
    | some text => .ok text
    | none => .error .notFound
  | .readBytes _ => .error .notFound
  | .write .. | .makeDirectories _ | .createNew _ | .archive .. | .copy .. =>
    .error .permissionDenied

/-- A project whose local file takes a setting back and leaves the rest of the section alone. -/
def layered : (call : Disk.Call) → Disk.Answer call :=
  diskOf [("/p/config.yaml", "worker:\n  endpoint: http://localhost\n  model: m\n  api_key: k\n"),
    ("/p/local.yaml", "worker:\n  api_key: null\n")]

/-- A project with a shared file only. -/
def unlayered : (call : Disk.Call) → Disk.Answer call :=
  diskOf [("/p/config.yaml", "worker:\n  endpoint: http://localhost\n")]

def chosen : List (String × String) :=
  [("AZC_FIXER_WORKER__MODEL", "n")]

/-- The path to the model of the worker. -/
def toModel : List Step :=
  [⟨fieldNames, "worker"⟩, ⟨Worker.fieldNames, "model"⟩]

theorem at?_toModel (settings : Settings) :
    Json.at? (keys toModel) settings.toJson = some (.string settings.worker.model) := by
  obtain ⟨_, _, ⟨_, _, key, _, _, _, _, _, _, _, _, _, _⟩, _, _, _⟩ := settings
  cases key <;> rfl

theorem isMapped_layered {own shared : Json}
    (readShared : layerOn layered ⟨"/"⟩ ⟨"/p/config.yaml"⟩ = .ok shared)
    (readOwn : layerOn layered ⟨"/"⟩ ⟨"/p/local.yaml"⟩ = .ok own) :
    ∀ layer ∈ [Environment.layer chosen, own, shared], isMapped toModel layer = true := by
  have ofShared : (layerOn layered ⟨"/"⟩ ⟨"/p/config.yaml"⟩).map (isMapped toModel) = .ok true := by
    decide +kernel
  have ofOwn : (layerOn layered ⟨"/"⟩ ⟨"/p/local.yaml"⟩).map (isMapped toModel) = .ok true := by
    decide +kernel
  have ofEnvironment : isMapped toModel (Environment.layer chosen) = true := by
    decide +kernel
  rw [readShared] at ofShared
  rw [readOwn] at ofOwn
  simp only [List.forall_mem_cons]
  exact ⟨ofEnvironment, Except.ok.inj ofOwn, Except.ok.inj ofShared, List.forall_mem_nil _⟩

/-- Every layer has its say in one section, and without the upper layers the lowest has it alone. -/
theorem load_precedence_layered :
    (∃ settings, on layered (load ⟨"/"⟩ ⟨"/p"⟩ chosen) = .ok settings ∧
      (settings.worker.endpoint, settings.worker.apiKey) = ("http://localhost", none) ∧
      ∃ shared own, layerOn layered ⟨"/"⟩ ⟨"/p/config.yaml"⟩ = .ok shared ∧
        layerOn layered ⟨"/"⟩ ⟨"/p/local.yaml"⟩ = .ok own ∧
        Decides (some (.string "gpt-4o")) (said toModel (stack chosen own shared))
          (some (.string settings.worker.model)) ∧
        (said toModel (stack chosen own shared)).head? =
          (stack chosen own shared).findSome? (Json.at? ["worker", "model"])) ∧
    Json.at? ["worker", "model"] (Environment.layer chosen) = some (.string "n") ∧
    on unlayered (load ⟨"/"⟩ ⟨"/p"⟩ []) =
      (on unlayered (loadFile ⟨"/"⟩ ⟨"/p/config.yaml"⟩)).mapError LoadFailure.ofProject := by
  have mem : toModel ∈ paths := by decide
  refine ⟨?_, ?_, (load_precedence unlayered ⟨"/"⟩ ⟨"/p"⟩ []).2.2 (by decide) nofun⟩
  · have found : (on layered (load ⟨"/"⟩ ⟨"/p"⟩ chosen)).map
        (fun settings => (settings.worker.endpoint, settings.worker.apiKey)) =
          .ok ("http://localhost", none) := by
      decide +kernel
    cases loaded : on layered (load ⟨"/"⟩ ⟨"/p"⟩ chosen) with
    | error failure =>
      rw [loaded] at found
      cases found
    | ok settings =>
      rw [loaded] at found
      obtain ⟨shared, own, readShared, readOwn, decides⟩ :=
        (load_precedence layered ⟨"/"⟩ ⟨"/p"⟩ chosen).1 settings loaded
      obtain ⟨model, highest⟩ := decides toModel mem
      rw [at?_toModel, at?_toModel] at model
      exact ⟨settings, rfl, Except.ok.inj found, shared, own, readShared, readOwn, model,
        highest (isMapped_layered readShared readOwn)⟩
  · have named : chosen.filter (Environment.leadsTo ["worker", "model"]) =
        [("AZC_FIXER_WORKER__MODEL", "n")] := by
      decide +kernel
    have keys : Environment.keys? "AZC_FIXER_WORKER__MODEL" = some ["worker", "model"] := by
      decide +kernel
    exact ((load_precedence layered ⟨"/"⟩ ⟨"/p"⟩ chosen).2.1 toModel mem).2 _ _ named keys

/-- A project whose local file leaves a section empty that its shared file fills. -/
def emptied : (call : Disk.Call) → Disk.Answer call :=
  diskOf [("/p/config.yaml", "worker:\n  model: m\n"), ("/p/local.yaml", "worker:\n")]

def addressed : List (String × String) :=
  [("AZC_FIXER_WORKER__ENDPOINT", "http://localhost")]

/-- An empty section hides what lower layers say in it: the highest layer that mentions the model
says otherwise than what is loaded. -/
theorem model_hidden_by_empty_section :
    (on emptied (load ⟨"/"⟩ ⟨"/p"⟩ addressed)).map (·.worker.model) = .ok "gpt-4o" ∧
      (do
        let shared ← layerOn emptied ⟨"/"⟩ ⟨"/p/config.yaml"⟩
        let own ← layerOn emptied ⟨"/"⟩ ⟨"/p/local.yaml"⟩
        let highest := (stack addressed own shared).findSome? (Json.at? ["worker", "model"])
        return highest.bind Json.string?) = .ok (some "m") := by
  decide +kernel

end AzcRepair.Settings
