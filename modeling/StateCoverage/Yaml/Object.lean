import StateCoverage.Yaml.Key
import StateCoverage.Yaml.Merge
import StateCoverage.Yaml.Scalar

/-!
# Objects of a document

Every node becomes one object, which all places that refer to the node share.
Scalars are read at once.  A collection is queued and filled later, one after
another in the order in which they were met; so of several faults in a document
the one in the outermost collection comes first.

Of equal keys in a mapping the last value counts, at the place of the first.
Keys must not be lists, sets or mappings.

* `objectsOf` — the objects of all nodes that the root of a document reaches.
-/

namespace StateCoverage.Yaml

/-- What a node becomes.  Collections refer to the nodes of their parts. -/
inductive Object where
  | atom (v : Value)
  /-- The float that is no number: all texts that name it give this one. -/
  | notANumber
  | list (items : List NodeId)
  | pairs (items : List (NodeId × NodeId))
  | set (items : List NodeId)
  | mapping (entries : List (NodeId × NodeId))
  deriving Inhabited

/-- The objects so far and the collections that are to be filled. -/
structure Building where
  nodes : Array Node
  objects : Array (Option Object)
  /-- The collections met since the last round, the last one first. -/
  queued : List NodeId

/-- A step of building objects. -/
abbrev Build (α : Type) := StateT Building (Except Fault) α

namespace Build

/-- Gives up. -/
def malformed {α : Type} : Build α := throw .malformed

/-- Works on the nodes. -/
def edit {α : Type} (e : NodeEdit α) : Build α := do
  let s ← get
  let (a, nodes) ← e.run s.nodes
  set { s with nodes }
  return a

/-- The object of a node, if it is there. -/
def object? (id : NodeId) : Build (Option Object) := return ((← get).objects[id]?).join

/-- Gives a node its object. -/
def put (id : NodeId) (o : Object) : Build Unit :=
  modify fun s => { s with objects := s.objects.setIfInBounds id (some o) }

/-! ## Scalars -/

/-- The text of a node under the tag of a scalar: that of a scalar, or that under
the mark of the default value in a mapping, looked for through at most so many
mappings. -/
def textOf : Nat → NodeId → Build String
  | 0, _ => throw .endless
  | n + 1, id => do
      match ← edit (NodeEdit.node id) with
      | .scalar _ text => return text
      | .sequence _ _ => malformed
      | .mapping _ es =>
          match ← es.findM? fun e => return (← edit (NodeEdit.tagOf e.1)) = some .defaultValue with
          | some (_, v) => textOf n v
          | none => malformed

/-- The object of a node under the tag of a scalar. -/
def scalar (tag : Tag) (id : NodeId) : Build Object := do
  let text ← textOf ((← get).nodes.size + 1) id
  match tag, ← edit (NodeEdit.node id) with
  | .timestamp, .mapping _ _ => throw .dateOfMapping
  | .float, _ =>
      let x ← floatValue text
      return if isNotANumber text then .notANumber else .atom (.float x)
  | _, _ => return .atom (← scalarValue tag text)

/-! ## Collections -/

/-- The object of a node; a collection is empty at first and queued. -/
def build (id : NodeId) : Build Object := do
  if let some o ← object? id then return o
  match ← edit (NodeEdit.tagOf id) with
  | none | some .merge | some .defaultValue => malformed
  | some .sequence => later (.list [])
  | some .orderedMapping | some .pairs => later (.pairs [])
  | some .set => later (.set [])
  | some .mapping => later (.mapping [])
  | some tag =>
      let o ← scalar tag id
      put id o
      return o
where
  later (o : Object) : Build Object := do
    put id o
    modify fun s => { s with queued := id :: s.queued }
    return o

/-- Whether an object can be a key. -/
def canBeKey : Object → Bool
  | .atom _ | .notANumber => true
  | _ => false

/-- Whether the objects of two nodes are the same key. -/
def isSameKey (objects : Array (Option Object)) (i j : NodeId) : Bool :=
  i = j || match (objects[i]?).join, (objects[j]?).join with
    | some (.atom a), some (.atom b) => sameKey a b
    | some .notANumber, some .notANumber => true
    | _, _ => false

/-- Gives a key a value, in place if the key is there and at the end if not. -/
def putEntry (same : NodeId → NodeId → Bool) (k v : NodeId) :
    List (NodeId × NodeId) → List (NodeId × NodeId)
  | [] => [(k, v)]
  | e :: es => if same e.1 k then (e.1, v) :: es else e :: putEntry same k v es

/-- The entries of a mapping, each key once. -/
def entriesOf (id : NodeId) : Build (List (NodeId × NodeId)) := do
  edit (NodeEdit.flatten id)
  (← edit (NodeEdit.entries id)).foldlM (fun es (k, v) => do
    if !canBeKey (← build k) then malformed
    discard (build v)
    return putEntry (isSameKey (← get).objects) k v es) []

/-- The items of a sequence. -/
def itemsOf (id : NodeId) : Build (List NodeId) := do
  match ← edit (NodeEdit.node id) with
  | .sequence _ items => return items
  | _ => malformed

/-- The only entry of a mapping. -/
def pairOf (id : NodeId) : Build (NodeId × NodeId) := do
  match ← edit (NodeEdit.node id) with
  | .mapping _ [(k, v)] =>
      discard (build k)
      discard (build v)
      return (k, v)
  | _ => malformed

/-- Fills a collection. -/
def fill (id : NodeId) : Build Unit := do
  match ← object? id with
  | some (.list _) =>
      let items ← itemsOf id
      items.forM fun item => discard (build item)
      put id (.list items)
  | some (.pairs _) => put id (.pairs (← (← itemsOf id).mapM pairOf))
  | some (.set _) => put id (.set ((← entriesOf id).map Prod.fst))
  | some (.mapping _) => put id (.mapping (← entriesOf id))
  | _ => return ()

/-- Fills collections and those that they queue, in at most so many rounds. -/
def fillAll : Nat → List NodeId → Build Unit
  | 0, _ | _, [] => return ()
  | rounds + 1, ids => do
      modify fun s => { s with queued := [] }
      ids.forM fill
      fillAll rounds (← get).queued.reverse

end Build

/-- The objects of all nodes that the root of a document reaches. -/
def objectsOf (d : Document) : Except Fault (Array (Option Object)) := do
  let start : Building := ⟨d.nodes, Array.replicate d.nodes.size none, []⟩
  let (_, s) ← (do
    discard (Build.build d.root)
    Build.fillAll (d.nodes.size + 1) (← get).queued.reverse : Build Unit).run start
  return s.objects

end StateCoverage.Yaml
