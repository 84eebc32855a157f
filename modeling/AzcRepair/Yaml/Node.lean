import AzcRepair.Yaml.Token

/-!
# YAML nodes

The tokens of a text are read into the tree of its one document. An anchor gives a node a number,
under which references find it; a number is how many names had an anchor before, so a name that is
given again shares its number with the next new name, and the node that began last is the one found.
-/

namespace AzcRepair.Yaml

/-- A node. A tag is the whole one, with its handle replaced. -/
inductive Node where
  | scalar (tag : Option Octets) (text : String) (isPlain : Bool)
  | sequence (tag : Option Octets) (items : List Node)
  | mapping (tag : Option Octets) (entries : List (Node × Node))
  | reference (target : Nat)
  deriving Repr, Inhabited

def Node.empty : Node :=
  .scalar none "" true

/-- A node that references may name. -/
structure Anchored where
  /-- Its number. -/
  number : Nat
  /-- How many nodes had an anchor before it began. -/
  order : Nat
  node : Node
  deriving Repr, Inhabited

/-- The one document of a text. -/
structure Document where
  root : Node
  anchored : List Anchored
  /-- How many scalars, references, and begins and ends of collections it has. -/
  size : Nat
  deriving Repr, Inhabited

def Document.target? (document : Document) (number : Nat) : Option Node :=
  let found := document.anchored.filter (·.number = number)
  -- numbers may be shared: of the nodes that have this one, the one that began last counts
  (found.foldl (fun best next =>
    if best.any fun best => next.order < best.order then best else some next) none).map (·.node)

/-- What is known while a document is read. -/
structure Reading where
  tokens : List Token
  /-- What tag handles stand for. -/
  handles : List (String × Octets) := []
  /-- The number of every anchor name. -/
  numbers : List (String × Nat) := []
  /-- How many nodes had an anchor so far. -/
  anchors : Nat := 0
  anchored : List Anchored := []
  size : Nat := 0

abbrev Reading.Act := StateT Reading (Except Problem)

namespace Reading

def problem {α : Type} (text : String) : Act α :=
  throw (.shape text)

def peek : Act (Option Token) :=
  return (← get).tokens.head?

/-- The next token is one of these, or there is none. -/
def isAt (tokens : List Token) : Act Bool := do
  match ← peek with
  | some token => return tokens.contains token
  | none => return true

def isNext (token : Token) : Act Bool :=
  return (← peek) = some token

def skip : Act Unit :=
  modify fun reading => { reading with tokens := reading.tokens.tail }

/-- Passes over this token and says whether it was next. -/
def skipIf (token : Token) : Act Bool := do
  if ← isNext token then
    skip
    return true
  return false

def count (parts : Nat) : Act Unit :=
  modify fun reading => { reading with size := reading.size + parts }

/-! ### Anchors and tags

The properties in front of a node come in either order, at most one of each kind. An anchor takes
effect as soon as its node begins, so a node can hold references to itself; what keeps such a
document from being followed for ever is the bound on references. -/

/-- An anchor and a tag, in either order. -/
def properties : Act (Option String × Option (String × Octets)) := do
  match ← peek with
  | some (.anchor name) =>
    skip
    match ← peek with
    | some (.tag handle suffix) =>
      skip
      return (some name, some (handle, suffix))
    | _ => return (some name, none)
  | some (.tag handle suffix) =>
    skip
    match ← peek with
    | some (.anchor name) =>
      skip
      return (some name, some (handle, suffix))
    | _ => return (none, some (handle, suffix))
  | _ => return (none, none)

/-- The handles that stand for something in every document. -/
def commonHandles : List (String × Octets) :=
  [("!", [ownMark]), ("!!", octets commonStem)]

def wholeTag (tag : String × Octets) : Act Octets := do
  if tag.1.isEmpty then return tag.2
  match ((← get).handles ++ commonHandles).lookup tag.1 with
  | some stem => return stem ++ tag.2
  | none => problem "found undefined tag handle"

/-- Gives a number to the anchor of a node that begins. -/
def begin? (anchor : Option String) : Act (Option (Nat × Nat)) := do
  let some name := anchor | return none
  let reading ← get
  -- a known name keeps the count of names as it is, hence the shared numbers
  let names := (reading.numbers.map (·.1)).eraseDups
  set { reading with
    numbers := (name, names.length) :: reading.numbers
    anchors := reading.anchors + 1 }
  return some (names.length, reading.anchors)

def keep (place : Option (Nat × Nat)) (node : Node) : Act Node := do
  match place with
  | some (number, order) =>
    modify fun reading => { reading with anchored := ⟨number, order, node⟩ :: reading.anchored }
    return node
  | none => return node

/-! ### Nodes

The readers mirror the grammar: one for a node, and one for the inside of each kind of collection.
Every place where a node may be missing names the tokens that tell so, and the empty scalar stands
for it. The size grows with every part of the tree, since the number of references that may be
followed depends on it. Fuel goes down with every call, and four times the number of tokens is
enough for all of them. -/

mutual

/-- Reads a node. A sequence that begins at the column of its key counts only where it may. -/
def node : Nat → (isBlock mayAlign : Bool) → Act Node
  | 0, _, _ => throw .tooDeep
  | fuel + 1, isBlock, mayAlign => do
    if let some (.reference name) ← peek then
      skip
      count 1
      match (← get).numbers.lookup name with
      | some number => return .reference number
      | none => throw (.unknownAnchor name)
    let (anchor, given) ← properties
    let tag ← given.mapM wholeTag
    let place ← begin? anchor
    match ← peek with
    | some (.scalar text isPlain) =>
      skip
      count 1
      keep place (.scalar tag text isPlain)
    | some .flowSequence =>
      skip
      count 2
      keep place (.sequence tag (← flowItems fuel true))
    | some .flowMapping =>
      skip
      count 2
      keep place (.mapping tag (← flowEntries fuel true))
    | next =>
      -- the hyphens stand at the column of the key, so no token opened this sequence
      if mayAlign && next = some .blockEntry then
        count 2
        keep place (.sequence tag (← alignedItems fuel))
      else if isBlock && next = some .blockSequence then
        skip
        count 2
        keep place (.sequence tag (← blockItems fuel))
      else if isBlock && next = some .blockMapping then
        skip
        count 2
        keep place (.mapping tag (← blockEntries fuel))
      -- properties alone make a node: an empty scalar that carries them
      else if anchor.isSome || tag.isSome then
        count 1
        keep place (.scalar tag "" true)
      else problem "did not find expected node content"

/-- Reads a node, or nothing in front of some tokens. -/
def nodeBefore : Nat → (isBlock mayAlign : Bool) → List Token → Act Node
  | 0, _, _, _ => throw .tooDeep
  | fuel + 1, isBlock, mayAlign, ends => do
    match ← peek with
    | some token =>
      if ends.contains token then
        count 1
        return .empty
      node fuel isBlock mayAlign
    | none => node fuel isBlock mayAlign

def blockItems : Nat → Act (List Node)
  | 0 => throw .tooDeep
  | fuel + 1 => do
    if ← skipIf .blockEntry then
      let item ← nodeBefore fuel true false [.blockEntry, .blockEnd]
      return item :: (← blockItems fuel)
    if ← skipIf .blockEnd then return []
    problem "did not find expected '-' indicator"

/-- Reads the items of a sequence at the column of its key. -/
def alignedItems : Nat → Act (List Node)
  | 0 => throw .tooDeep
  | fuel + 1 => do
    if ← skipIf .blockEntry then
      let item ← nodeBefore fuel true false [.blockEntry, .key, .value, .blockEnd]
      return item :: (← alignedItems fuel)
    return []

def blockEntries : Nat → Act (List (Node × Node))
  | 0 => throw .tooDeep
  | fuel + 1 => do
    if ← skipIf .key then
      let key ← nodeBefore fuel true true [.key, .value, .blockEnd]
      let value ← if ← skipIf .value then
          nodeBefore fuel true true [.key, .value, .blockEnd]
        else do
          count 1
          pure .empty
      return (key, value) :: (← blockEntries fuel)
    if ← skipIf .blockEnd then return []
    problem "did not find expected key"

/-- Reads the items of a flow sequence. A lone key and value are a mapping of one entry. -/
def flowItems : Nat → (isFirst : Bool) → Act (List Node)
  | 0, _ => throw .tooDeep
  | fuel + 1, isFirst => do
    if ← skipIf .flowSequenceEnd then return []
    unless isFirst || (← skipIf .flowEntry) do problem "did not find expected ',' or ']'"
    if ← skipIf .key then
      count 2
      let key ← if ← isAt [.value, .flowEntry, .flowSequenceEnd] then do
          -- nothing stands for the key, and what follows the question mark is lost
          skip
          count 1
          pure .empty
        else node fuel false false
      let value ← if ← skipIf .value then
          nodeBefore fuel false false [.flowEntry, .flowSequenceEnd]
        else do
          count 1
          pure .empty
      return .mapping none [(key, value)] :: (← flowItems fuel false)
    if ← skipIf .flowSequenceEnd then return []
    let item ← node fuel false false
    return item :: (← flowItems fuel false)

/-- Reads the entries of a flow mapping. A lone item is a key. -/
def flowEntries : Nat → (isFirst : Bool) → Act (List (Node × Node))
  | 0, _ => throw .tooDeep
  | fuel + 1, isFirst => do
    if ← skipIf .flowMappingEnd then return []
    unless isFirst || (← skipIf .flowEntry) do problem "did not find expected ',' or '\x7d'"
    if ← skipIf .key then
      let key ← nodeBefore fuel false false [.value, .flowEntry, .flowMappingEnd]
      let value ← if ← skipIf .value then
          nodeBefore fuel false false [.flowEntry, .flowMappingEnd]
        else do
          count 1
          pure .empty
      return (key, value) :: (← flowEntries fuel false)
    if ← skipIf .flowMappingEnd then return []
    let key ← node fuel false false
    count 1
    return (key, .empty) :: (← flowEntries fuel false)

end

/-! ### Documents

A text has at most one document here. Its directives need the mark of a document's start behind
them; without directives the mark may be left out. -/

/-- Reads the directives in front of a document. -/
def directives : Nat → (hasVersion : Bool) → Act Unit
  | 0, _ => return
  | fuel + 1, hasVersion => do
    match ← peek with
    | some .version =>
      if hasVersion then problem "found duplicate %YAML directive"
      skip
      directives fuel true
    | some (.handle name stem) =>
      if ((← get).handles.lookup name).isSome then problem "found duplicate %TAG directive"
      modify fun reading => { reading with handles := (name, stem) :: reading.handles }
      skip
      directives fuel hasVersion
    | _ => return

/-- Passes over the marks of document ends. -/
def skipEnds : Nat → Act Unit
  | 0 => return
  | fuel + 1 => do
    if ← skipIf .documentEnd then skipEnds fuel

def isAtDirective : Act Bool := do
  match ← peek with
  | some .version | some (.handle _ _) => return true
  | _ => return false

/-- Reads the root of a document. It needs no mark in front when it has no directives. -/
def root (fuel : Nat) : Act Node := do
  if (← peek).isNone then return .empty
  if !(← isAtDirective) && !(← isNext .documentStart) then node fuel true false
  else
    directives fuel false
    unless ← skipIf .documentStart do problem "did not find expected <document start>"
    if (← isAtDirective) || (← isAt [.documentStart, .documentEnd]) then
      count 1
      return .empty
    node fuel true false

def document (fuel : Nat) : Act Document := do
  let root ← root fuel
  skipEnds fuel
  -- anything behind the root and its end marks would begin a second document
  if (← peek).isSome then throw .severalDocuments
  let reading ← get
  return ⟨root, reading.anchored, reading.size⟩

end Reading

def Document.ofText (text : String) : Except Problem Document := do
  let tokens ← Token.ofText text
  let (document, _) ← (Reading.document (4 * tokens.length + 4)).run { tokens := tokens }
  return document

end AzcRepair.Yaml
