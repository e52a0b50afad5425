import StateCoverage.Yaml.Lexer
import StateCoverage.Yaml.Tag

/-!
# The node graph of a YAML document

Nodes are scalars, sequences and mappings.  They refer to each other by number,
so that a node can stand in several places, even inside itself: an alias is the
number of the node of its anchor.

* `document` — the nodes of the only document of a stream, if there is one.
-/

namespace StateCoverage.Yaml

/-- The number of a node. -/
abbrev NodeId := Nat

/-- A node of a document.  One whose tag is not known has none. -/
inductive Node where
  | scalar (tag? : Option Tag) (text : String)
  | sequence (tag? : Option Tag) (items : List NodeId)
  | mapping (tag? : Option Tag) (entries : List (NodeId × NodeId))
  deriving Repr, Inhabited

/-- The tag of a node. -/
def Node.tag? : Node → Option Tag
  | .scalar t _ | .sequence t _ | .mapping t _ => t

/-- The node that stands where nothing is written. -/
def Node.nothing : Node := .scalar (some .null) ""

/-- A document: its nodes and the one at the root. -/
structure Document where
  nodes : Array Node
  root : NodeId
  deriving Inhabited

/-- What is known while nodes are read. -/
structure NodeState where
  lexer : LexState
  nodes : Array Node
  anchors : List (String × NodeId)
  /-- What the handles of tags stand for. -/
  handles : List (String × String)

/-- A reader of nodes. -/
abbrev NodeReader (α : Type) := StateT NodeState (Except Fault) α

namespace NodeReader

/-- Gives up. -/
def malformed {α : Type} : NodeReader α := throw .malformed

/-- The next token. -/
def peek : NodeReader (Option Token) := do
  let s ← get
  let (t, lexer) ← Lex.next?.run s.lexer
  set { s with lexer }
  return t

/-- Takes the next token. -/
def next : NodeReader Unit := do
  let s ← get
  let (_, lexer) ← Lex.drop.run s.lexer
  set { s with lexer }

/-- Takes a token if it comes next, and tells. -/
def accept (t : Token) : NodeReader Bool := do
  if (← peek) = some t then
    next
    return true
  else return false

/-- Takes a token that must come next. -/
def expect (t : Token) : NodeReader Unit := do
  if !(← accept t) then malformed

/-- Whether one of some tokens comes next. -/
def nextIsOneOf (ts : List Token) : NodeReader Bool :=
  return (← peek).any ts.contains

/-- Repeats a step until it gives no more items.  Every item has a token of its
own, and no character gives more than four tokens. -/
def collect {α : Type} (step : NodeReader (Option α)) : NodeReader (List α) := fun s =>
  go (4 * s.lexer.size + 4) s
where
  go : Nat → NodeReader (List α)
    | 0 => malformed
    | n + 1 => do
        match ← step with
        | some a => return a :: (← go n)
        | none => return []

/-! ## Nodes and their names -/

/-- Adds a node. -/
def add (n : Node) : NodeReader NodeId := do
  let id := (← get).nodes.size
  modify fun s => { s with nodes := s.nodes.push n }
  return id

/-- Adds the node that stands where nothing is written. -/
def addNothing : NodeReader NodeId := add .nothing

/-- Names a node. -/
def name (name? : Option String) (id : NodeId) : NodeReader Unit :=
  modify fun s => match name? with
    | some name => { s with anchors := (name, id) :: s.anchors }
    | none => s

/-- The node with a name. -/
def named (name : String) : NodeReader NodeId := do
  match (← get).anchors.lookup name with
  | some id => return id
  | none => malformed

/-- Checks that a name is not taken. -/
def checkFree (name? : Option String) : NodeReader Unit := do
  let s ← get
  if name?.any fun name => (s.anchors.lookup name).isSome then malformed

/-- Adds a scalar with a name. -/
def addScalar (name? : Option String) (n : Node) : NodeReader NodeId := do
  checkFree name?
  let id ← add n
  name name? id
  return id

/-- Adds a collection with a name, whose body may refer to it. -/
def addCollection (name? : Option String) (body : NodeReader Node) : NodeReader NodeId := do
  checkFree name?
  let id ← add .nothing
  name name? id
  let n ← body
  modify fun s => { s with nodes := s.nodes.setIfInBounds id n }
  return id

/-! ## Properties -/

/-- The anchor that comes next, if one does. -/
def anchor? : NodeReader (Option String) := do
  match ← peek with
  | some (.anchor name) =>
      next
      return some name
  | _ => return none

/-- The tag that comes next, if one does. -/
def tag? : NodeReader (Option (Option String × String)) := do
  match ← peek with
  | some (.tag handle? suffix) =>
      next
      return some (handle?, suffix)
  | _ => return none

/-- A tag in full. -/
def fullTag (handle? : Option String) (suffix : String) : NodeReader String := do
  match handle? with
  | none => return suffix
  | some handle =>
      match (← get).handles.lookup handle with
      | some start => return start ++ suffix
      | none => malformed

/-- An anchor and a tag in full, in either order. -/
def properties : NodeReader (Option String × Option String) := do
  let first ← anchor?
  let tag ← tag?
  let name? ← if first.isNone && tag.isSome then anchor? else pure first
  match tag with
  | some (handle?, suffix) => return (name?, some (← fullTag handle? suffix))
  | none => return (name?, none)

/-- The mark of a tag that says nothing. -/
def plainTag : String := "!"

/-- The tag of a scalar: the one that is written, or the one that its text
implies if it is plain or marked so. -/
def scalarTag? (written? : Option String) (isPlain : Bool) (text : String) : Option Tag :=
  match written? with
  | none => if isPlain then Tag.implied? text else some .text
  | some t => if t = plainTag then Tag.implied? text else Tag.ofFullName? t

/-- The tag of a collection: the one that is written, or its usual one. -/
def collectionTag? (written? : Option String) (usual : Tag) : Option Tag :=
  match written? with
  | none => some usual
  | some t => if t = plainTag then some usual else Tag.ofFullName? t

/-! ## Collections -/

/-- A node, or nothing if one of some tokens follows. -/
def nodeBefore (ends : List Token) (node : NodeReader NodeId) : NodeReader NodeId := do
  if ← nextIsOneOf ends then addNothing else node

/-- The items of a block sequence. -/
def blockItems (node : NodeReader NodeId) : NodeReader (List NodeId) := do
  let items ← collect do
    if ← accept .blockEntry then some <$> nodeBefore [.blockEntry, .blockEnd] node else return none
  expect .blockEnd
  return items

/-- The items of a sequence that is indented no further than its key. -/
def indentlessItems (node : NodeReader NodeId) : NodeReader (List NodeId) :=
  collect do
    if ← accept .blockEntry then
      some <$> nodeBefore [.blockEntry, .key, .value, .blockEnd] node
    else return none

/-- The entries of a block mapping. -/
def blockEntries (node : NodeReader NodeId) : NodeReader (List (NodeId × NodeId)) := do
  let ends := [Token.key, .value, .blockEnd]
  let entries ← collect do
    if ← accept .key then
      let k ← nodeBefore ends node
      let v ← if ← accept .value then nodeBefore ends node else addNothing
      return some (k, v)
    else return none
  expect .blockEnd
  return entries

/-- The value of an entry in brackets. -/
def flowValue (closing : Token) (node : NodeReader NodeId) : NodeReader NodeId := do
  if ← accept .value then nodeBefore [.flowEntry, closing] node else addNothing

/-- The key of an entry in brackets, after its mark. -/
def flowKey (closing : Token) (node : NodeReader NodeId) : NodeReader NodeId :=
  nodeBefore [.value, .flowEntry, closing] node

/-- Items between brackets with commas between them; a comma may follow the
last. -/
def flowItems {α : Type} (closing : Token) (item : NodeReader α) : NodeReader (List α) := do
  if ← accept closing then return []
  let first ← item
  let rest ← collect do
    if ← nextIsOneOf [closing] then return none
    expect .flowEntry
    if ← nextIsOneOf [closing] then return none else some <$> item
  expect closing
  return first :: rest

/-- An item of a sequence in brackets; one with a key is a mapping of its own. -/
def flowSequenceItem (node : NodeReader NodeId) : NodeReader NodeId := do
  if ← accept .key then
    let k ← flowKey .flowSequenceEnd node
    let v ← flowValue .flowSequenceEnd node
    add (.mapping (some .mapping) [(k, v)])
  else node

/-- An entry of a mapping in braces. -/
def flowMappingEntry (node : NodeReader NodeId) : NodeReader (NodeId × NodeId) := do
  if ← accept .key then
    let k ← flowKey .flowMappingEnd node
    return (k, ← flowValue .flowMappingEnd node)
  else
    let k ← node
    discard peek
    return (k, ← addNothing)

/-! ## Nodes -/

/-- Where a node stands. -/
inductive Place where
  /-- In brackets. -/
  | flow
  /-- In a block. -/
  | block
  /-- In a block mapping, where a sequence needs no further indentation. -/
  | blockEntry
  deriving DecidableEq

/-- A node with at most so many others nested in each other below it. -/
def node : Nat → Place → NodeReader NodeId
  | 0, _ => malformed
  | depth + 1, place => do
      match ← peek with
      | some (.reference name) =>
          next
          named name
      | _ =>
          let (name?, written?) ← properties
          let sequence (items : NodeReader (List NodeId)) : NodeReader NodeId :=
            addCollection name? (return .sequence (collectionTag? written? .sequence) (← items))
          let mapping (entries : NodeReader (List (NodeId × NodeId))) : NodeReader NodeId :=
            addCollection name? (return .mapping (collectionTag? written? .mapping) (← entries))
          let scalar (isPlain : Bool) (text : String) : NodeReader NodeId :=
            addScalar name? (.scalar (scalarTag? written? isPlain text) text)
          let empty : NodeReader NodeId :=
            if name?.isSome || written?.isSome then scalar true "" else malformed
          match ← peek with
          | some .blockEntry =>
              if place = .blockEntry then sequence (indentlessItems (node depth .block)) else empty
          | some (.scalar isPlain text) =>
              next
              scalar isPlain text
          | some .flowSequenceStart =>
              sequence (next *> flowItems .flowSequenceEnd (flowSequenceItem (node depth .flow)))
          | some .flowMappingStart =>
              mapping (next *> flowItems .flowMappingEnd (flowMappingEntry (node depth .flow)))
          | some .blockSequenceStart =>
              if place = .flow then empty
              else sequence (next *> blockItems (node depth .block))
          | some .blockMappingStart =>
              if place = .flow then empty
              else mapping (next *> blockEntries (node depth .blockEntry))
          | _ => empty

/-! ## Documents -/

/-- The node at the root of a document.  Every node below it has a token of its
own, so the text bounds how deep they are nested. -/
def root : NodeReader NodeId := do node (4 * (← get).lexer.size + 4) .block

/-- What tag handles stand for where no directive says otherwise. -/
def standardHandles : List (String × String) :=
  [("!", "!"), ("!!", "tag:yaml.org,2002:")]

/-- Takes in the directives at the head of a document, at most so many: one
version, of the first kind, and each handle once. -/
def directives (hasVersion : Bool) : Nat → NodeReader Unit
  | 0 => malformed
  | n + 1 => do
      match ← peek with
      | some (.directive d) =>
          next
          match d with
          | .version major =>
              if hasVersion || major ≠ 1 then malformed else directives true n
          | .tagHandle handle start =>
              let s ← get
              if (s.handles.lookup handle).isSome then malformed
              set { s with handles := (handle, start) :: s.handles }
              directives hasVersion n
          | .other => directives hasVersion n
      | _ => return ()

/-- Takes in the head of a document: directives and the mark after them. -/
def head : NodeReader Unit := do
  modify fun s => { s with handles := [] }
  directives false ((← get).lexer.size + 1)
  modify fun s => { s with handles := s.handles ++ standardHandles }
  expect .documentStart

/-- The content of a document after its head; it may be empty. -/
def headedContent : NodeReader NodeId := do
  head
  match ← peek with
  | none | some (.directive _) | some .documentStart | some .documentEnd => addNothing
  | _ => root

/-- The root of the first document, if there is one. -/
def first? : NodeReader (Option NodeId) := do
  match ← peek with
  | none => return none
  | some (.directive _) | some .documentStart => some <$> headedContent
  | _ =>
      modify fun s => { s with handles := standardHandles }
      some <$> root

/-- Takes the marks after a document; another one must not follow. -/
def finish : NodeReader Unit := do
  discard (collect (return if ← accept .documentEnd then some () else none))
  if (← peek).isSome then
    head
    malformed

end NodeReader

/-- The only document of a stream.  An empty stream has none, and there must not
be two. -/
def document (s : Stream) : Except Fault (Option Document) := do
  let lexer ← LexState.start s
  let (root?, state) ← (NodeReader.first? <* NodeReader.finish).run ⟨lexer, #[], [], []⟩
  return root?.map fun root => ⟨state.nodes, root⟩

end StateCoverage.Yaml
