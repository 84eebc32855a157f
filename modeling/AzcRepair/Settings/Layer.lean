import AzcRepair.Settings

/-!
# Layers of settings

Settings come from several places. A later layer is laid over the earlier ones: objects are joined
key by key, and any other value replaces what was there. A null is such a value, so it takes an
optional setting back.
-/

namespace AzcRepair.Settings

/-! ### Laying one value over another

Only two objects are joined; in every other case what comes later wins as a whole. An array thus
replaces an array, and an empty value in place of a section hides the section below it. -/

/-- Puts a value under a key; it keeps its place when the key is there. -/
def put (name : String) (value : Json) : List (String × Json) → List (String × Json)
  | [] => [(name, value)]
  | m :: rest => if m.1 = name then (name, value) :: rest else m :: put name value rest

mutual

/-- Lays a value over another one. The result keeps the order of the lower members, and a new
member comes after them. -/
def overlay (base : Json) : Json → Json
  | .object members =>
    match base with
    | .object below => .object (overlayMembers below members)
    | _ => .object members
  | other => other

/-- Lays the members of an object over those of another one. -/
def overlayMembers (below : List (String × Json)) : List (String × Json) → List (String × Json)
  | [] => below
  | (name, value) :: rest =>
    -- joined with what this layer has laid down so far, so a name given twice joins with itself
    let laid := match Json.last? name below with
      | some base => overlay base value
      | none => value
    overlayMembers (put name laid below) rest

end

/-! ### Records of a layer

Before the joined value is read, it is brought into the form that the typed readers take: they are
stricter with arrays than layers are, and the method of token settings has a second form. -/

/-- Prepares the fields of a record. One that is written as an array may have more items than the
record has fields; they are passed over. -/
def prepareRecord (names : List String) (field : String → Json → Json) : Json → Json
  | .array items => .array (List.zipWith field names items)
  | .object members => .object (members.map fun m => (m.1, field m.1 m.2))
  | other => other

/-- The method of token settings may be an object; its least key then names the method, and the
other keys are passed over. -/
def prepareMethod : Json → Json
  | .object members =>
    -- entries come in the order of their keys, and only the first one is looked at
    let least := members.foldl (fun (least : Option (String × Json)) m =>
      if least.all fun l => m.1 < l.1 then some m else least) none
    .object least.toList
  | other => other

def prepareAuth : Json → Json :=
  prepareRecord Auth.fieldNames fun
    | "method", value => prepareMethod value
    | _, value => value

def prepareWorker : Json → Json :=
  prepareRecord Worker.fieldNames fun
    | "auth", value => prepareAuth value
    | "retry", value => prepareRecord Retry.fieldNames (fun _ value => value) value
    | _, value => value

/-- Prepares the value of all layers for reading. -/
def prepare : Json → Json :=
  prepareRecord fieldNames fun
    | "workspace", value => prepareRecord Layout.fieldNames (fun _ value => value) value
    | "toolchain", value => prepareRecord Commands.fieldNames (fun _ value => value) value
    | "worker", value => prepareWorker value
    | "convergence", value => prepareRecord Limits.fieldNames (fun _ value => value) value
    | "build", value => prepareRecord Build.fieldNames (fun _ value => value) value
    | "logging", value => prepareRecord Log.fieldNames (fun _ value => value) value
    | _, value => value

/-- The settings of layers over the defaults. -/
def ofLayers? (layers : List Json) : Option Settings :=
  -- the defaults are the lowest layer, so each of them can be replaced one by one
  ofJson? (prepare (layers.foldl overlay ({} : Settings).toJson))

end AzcRepair.Settings
