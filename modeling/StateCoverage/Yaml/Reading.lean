import StateCoverage.Settings.Reading
import StateCoverage.Yaml.Object

/-!
# Values of YAML text

`readYaml` gives the content of the only document of a stream.  Its objects may
be shared and may contain themselves; `Content.value` tells one of them as a
value, down to a depth.  `readSettings` does all of this for the bytes of a file.
-/

namespace StateCoverage.Yaml

/-- The objects of a document, by their nodes. -/
structure Content where
  objects : Array (Option Object)
  root : NodeId

namespace Content

/-- The object of a node. -/
def object (c : Content) (id : NodeId) : Object :=
  ((c.objects[id]?).join).getD (.atom .null)

/-- The items of a set in the order in which they are shown: whole numbers
ascend. -/
def setOrder (items : List Value) : List Value :=
  if items.all fun v => (keyNumber? v).isSome then
    items.mergeSort fun a b => (keyNumber? a).getD 0 ≤ (keyNumber? b).getD 0
  else items

/-- An object as a value, down to a depth.  `around` are the collections that it
stands in. -/
def valueIn (c : Content) : Nat → List NodeId → NodeId → Value
  | depth, around, id =>
      match c.object id, depth with
      | .atom v, _ => v
      | .notANumber, _ => .float (0.0 / 0.0)
      | .mapping _, 0 => .folded true
      | _, 0 => .folded false
      | o, depth + 1 =>
          let inner := valueIn c depth (id :: around)
          match o, around.contains id with
          | .mapping _, true => .folded true
          | .mapping es, false => .mapping (es.map fun (k, v) => (inner k, inner v))
          | .set items, false => .set (setOrder (items.map inner))
          | .list items, false => .list (items.map inner)
          | .pairs items, false => .list (items.map fun (k, v) => .pair (inner k) (inner v))
          | _, _ => .folded false

/-- An object as a value, down to a depth. -/
def value (c : Content) (depth : Nat) (id : NodeId) : Value := c.valueIn depth [] id

/-- A depth that no object goes beyond before it meets itself. -/
def depth (c : Content) : Nat := c.objects.size + 1

/-- How deep the value under a key is looked into: patterns are a list of texts,
and any other value may be shown as a whole. -/
def depthUnder (c : Content) (key : Value) : Nat :=
  match key.text? with
  | some "include" | some "exclude" => 1
  | _ => c.depth

/-- The content as that of a settings file. -/
def toSettings (c : Content) : SettingsContent :=
  match c.object c.root with
  | .mapping entries =>
      .mapping (entries.map fun (k, v) =>
        let key := c.value 0 k
        (key, Thunk.mk fun _ => c.value (c.depthUnder key) v))
  | _ => .value (c.value 0 c.root)

end Content

/-- The content of the only document of a stream, if there is one. -/
def readYaml (s : Stream) : Except Fault (Option Content) := do
  match ← document s with
  | some d => return some ⟨← objectsOf d, d.root⟩
  | none => return none

/-- What the bytes of a settings file hold; nothing at all is a value too. -/
def readSettings (bytes : List UInt8) : Except Fault SettingsContent := do
  match ← readYaml (.ofFile bytes) with
  | some content => return content.toSettings
  | none => return .value .null

end StateCoverage.Yaml
