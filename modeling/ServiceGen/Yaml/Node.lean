import ServiceGen.Datum
import ServiceGen.Yaml.Token

/-!
# The Tree of a YAML Text

How the tokens of a YAML text make up a tree (`Tree.ofTokens?`). A text holds one document.

Every node counts: a scalar and an alias once, a collection at its start and at its end.
A named node has a number, by which its aliases refer to it: the number of names in use when
it begins. A name given again does not add to the names in use, so two nodes may get the
same number; of these the one that begins last is meant.
-/

namespace ServiceGen.Yaml

/-- The tree of a text. -/
structure Tree where
  /-- The node at the top. -/
  root : Datum
  /-- The nodes that aliases point at. -/
  anchors : Anchors
  /-- How often aliases may be followed. -/
  budget : Nat

/-- How far the tokens have been put together. -/
structure Builder where
  /-- The tokens that follow. -/
  tokens : List Token
  /-- What the tag handles stand for. -/
  handles : List (String × String) := []
  /-- The count of nodes. -/
  count : Nat := 0
  /-- The names in use and the numbers they stand for. -/
  names : Entries Nat := []
  /-- The named nodes: their numbers, where they begin, and themselves. -/
  nodes : List (Nat × Nat × Datum) := []

/-- A step of putting tokens together. -/
abbrev Build := StateT Builder Option

namespace Build

/-- The next token. -/
def peek : Build Token :=
  fun b => b.tokens.head?.map (·, b)

/-- Passes over the next token. -/
def skip : Build Unit :=
  modify fun b => { b with tokens := b.tokens.tail }

/-- Counts a node. -/
def count : Build Unit :=
  modify fun b => { b with count := b.count + 1 }

/-- A scalar written with nothing at all. -/
def nothing : Build Datum := do
  count
  return .scalar ⟨"", .plain, none⟩

/-- What a tag stands for; an error if its handle was not declared. -/
def resolveTag (t : TagText) : Build String := do
  if t.handle.isEmpty then return t.suffix
  match (← get).handles.lookup t.handle with
  | some first => return first ++ t.suffix
  | none => failure

/-- The name and the tag before a node, in either order. -/
def properties : Build (Option String × Option String) := do
  match ← peek with
  | .anchor name =>
    skip
    match ← peek with
    | .tag t => skip; return (some name, some (← resolveTag t))
    | _ => return (some name, none)
  | .tag t =>
    skip
    match ← peek with
    | .anchor name => skip; return (some name, some (← resolveTag t))
    | _ => return (none, some (← resolveTag t))
  | _ => return (none, none)

/-- Gives the node that begins here a number, if it has a name. -/
def register (name : Option String) : Build (Option (Nat × Nat)) := do
  match name with
  | none => return none
  | some name =>
    let b ← get
    let number := b.names.length
    set { b with names := b.names.put name number }
    return some (number, b.count)

/-- Keeps a node under its number, if it has one. -/
def keep (number : Option (Nat × Nat)) (d : Datum) : Build Datum := do
  match number with
  | none => return d
  | some (number, start) =>
    modify fun b => { b with nodes := (number, start, d) :: b.nodes }
    return d

/-- Whether the next token is one of those given. -/
def sees (tokens : List Token) : Build Bool := do
  return tokens.contains (← peek)

/-- A list or dictionary with a tag. -/
def origin (tag : Option String) : Origin :=
  .written (Scalar.isLocalTag tag)

mutual

/-- A node. `block` tells whether it may be a block, and `flat` whether a sequence may begin
without an indentation of its own. -/
def node : Nat → Bool → Bool → Build Datum
  | 0, _, _ => failure
  | fuel + 1, block, flat => do
    match ← peek with
    | .alias name =>
      skip
      count
      match (← get).names.lookup name with
      | some number => return .alias number
      | none => failure
    | _ =>
      let (name, tag) ← properties
      let token ← peek
      let collection (items : Build Datum) : Build Datum := do
        let number ← register name
        count
        let d ← items
        count
        keep number d
      let list (items : Build (List Datum)) : Build Datum :=
        collection do return .list (origin tag) (← items)
      let dict (entries : Build (List (Datum × Datum))) : Build Datum :=
        collection do return .dict (origin tag) (← entries)
      if flat && token == .entry then list (flatEntries fuel)
      else match token with
        | .scalar text style =>
          skip
          let number ← register name
          count
          keep number (.scalar ⟨text, style, if tag == some "!" then none else tag⟩)
        | .flowSequenceStart => list (do skip; flowItems fuel true)
        | .flowMappingStart => dict (do skip; flowEntries fuel true)
        | _ =>
          if block && token == .blockSequenceStart then list (do skip; blockItems fuel)
          else if block && token == .blockMappingStart then dict (do skip; blockEntries fuel)
          else if name.isSome || tag.isSome then
            let number ← register name
            count
            keep number (.scalar ⟨"", .plain, tag⟩)
          else failure

/-- The items of a block sequence. -/
def blockItems : Nat → Build (List Datum)
  | 0 => failure
  | fuel + 1 => do
    match ← peek with
    | .entry =>
      skip
      let item ← if ← sees [.entry, .blockEnd] then nothing else node fuel true false
      return item :: (← blockItems fuel)
    | .blockEnd => skip; return []
    | _ => failure

/-- The items of a sequence without an indentation of its own. -/
def flatEntries : Nat → Build (List Datum)
  | 0 => failure
  | fuel + 1 => do
    match ← peek with
    | .entry =>
      skip
      let item ←
        if ← sees [.entry, .key, .value, .blockEnd] then nothing else node fuel true false
      return item :: (← flatEntries fuel)
    | _ => return []

/-- The entries of a block mapping. -/
def blockEntries : Nat → Build (List (Datum × Datum))
  | 0 => failure
  | fuel + 1 => do
    match ← peek with
    | .key =>
      skip
      let key ← if ← sees [.key, .value, .blockEnd] then nothing else node fuel true true
      let value ← blockValue fuel
      return (key, value) :: (← blockEntries fuel)
    | .blockEnd => skip; return []
    | _ => failure

/-- The value after a key of a block mapping. -/
def blockValue : Nat → Build Datum
  | 0 => failure
  | fuel + 1 => do
    if (← peek) == .value then
      skip
      if ← sees [.key, .value, .blockEnd] then nothing else node fuel true true
    else nothing

/-- The items of a flow sequence; an item with a colon is a mapping of its own. -/
def flowItems : Nat → Bool → Build (List Datum)
  | 0, _ => failure
  | fuel + 1, first => do
    if (← peek) == .flowSequenceEnd then
      skip
      return []
    if !first then
      if (← peek) != .flowEntry then failure
      skip
    match ← peek with
    | .flowSequenceEnd => skip; return []
    | .key =>
      skip
      count
      let key ←
        if ← sees [.value, .flowEntry, .flowSequenceEnd] then (do skip; nothing)
        else node fuel false false
      let value ← flowValue fuel [.flowEntry, .flowSequenceEnd]
      count
      return .dict (.written false) [(key, value)] :: (← flowItems fuel false)
    | _ => return (← node fuel false false) :: (← flowItems fuel false)

/-- The value after a key of a flow collection. -/
def flowValue : Nat → List Token → Build Datum
  | 0, _ => failure
  | fuel + 1, ends => do
    if (← peek) == .value then
      skip
      if ← sees ends then nothing else node fuel false false
    else nothing

/-- The entries of a flow mapping. -/
def flowEntries : Nat → Bool → Build (List (Datum × Datum))
  | 0, _ => failure
  | fuel + 1, first => do
    if (← peek) == .flowMappingEnd then
      skip
      return []
    if !first then
      if (← peek) != .flowEntry then failure
      skip
    match ← peek with
    | .flowMappingEnd => skip; return []
    | .key =>
      skip
      let key ←
        if ← sees [.value, .flowEntry, .flowMappingEnd] then nothing else node fuel false false
      let value ← flowValue fuel [.flowEntry, .flowMappingEnd]
      return (key, value) :: (← flowEntries fuel false)
    | _ =>
      let key ← node fuel false false
      let value ← nothing
      return (key, value) :: (← flowEntries fuel false)

end

/-- The directives before a document: at most one version, of a kind that is understood, and
each tag handle once. -/
def directives : Nat → Bool → Build Unit
  | 0, _ => failure
  | fuel + 1, versioned => do
    match ← peek with
    | .version major minor =>
      if versioned || major != 1 || (minor != 1 && minor != 2) then failure
      skip
      directives fuel true
    | .tagHandle handle first =>
      if ((← get).handles.lookup handle).isSome then failure
      skip
      modify fun b => { b with handles := b.handles ++ [(handle, first)] }
      directives fuel versioned
    | _ => return ()

/-- The handles that are known without a declaration. -/
def standardHandles : List (String × String) :=
  [("!", "!"), ("!!", "tag:yaml.org,2002:")]

/-- Whether a token ends a document without content. -/
def endsDocument : Token → Bool
  | .version .. | .tagHandle .. | .documentStart | .documentEnd | .streamEnd => true
  | _ => false

/-- Passes over marks of the end of a document. -/
def skipDocumentEnds : Build Unit :=
  modify fun b => { b with tokens := b.tokens.dropWhile (· == .documentEnd) }

/-- The only document of a text. -/
def document (fuel : Nat) : Build Datum := do
  let standard : Build Unit :=
    modify fun b => { b with handles := b.handles ++ standardHandles }
  let content ← match ← peek with
    | .streamEnd => nothing
    | .documentEnd => failure
    | token =>
      if endsDocument token then
        directives fuel false
        standard
        if (← peek) != .documentStart then failure
        skip
        if endsDocument (← peek) then nothing else node fuel true false
      else
        standard
        node fuel true false
  skipDocumentEnds
  if (← peek) != .streamEnd then failure
  return content

end Build

/-- The nodes by number: of several with the same number, the one that begins last. -/
def latestNodes (nodes : List (Nat × Nat × Datum)) : Anchors :=
  let later := fun (a b : Nat × Nat × Datum) => decide (b.2.1 ≤ a.2.1)
  (nodes.mergeSort later).map fun (number, _, d) => (number, d)

/-- The tree that tokens make up. -/
def Tree.ofTokens? (tokens : List Token) : Option Tree := do
  let (root, b) ← (Build.document (4 * tokens.length + 8)).run { tokens }
  return { root, anchors := latestNodes b.nodes, budget := 100 * b.count }

/-- The tree of a text. -/
def Tree.parse? (bytes : List UInt8) : Option Tree := do
  Tree.ofTokens? (← tokens? (← decode? bytes))

end ServiceGen.Yaml
