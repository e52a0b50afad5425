import StateCoverage.Yaml.Node

/-!
# Merging mappings

An entry of a mapping whose key is the mark of a merge stands for the entries of
another mapping, or of several.  `flatten` puts them in its place: all merged
entries come before the mapping's own, and of several mappings the last comes
first, so that the first one wins.

A mapping may merge itself.  Each mark is taken away before what it stands for is
looked at, so this comes to an end.
-/

namespace StateCoverage.Yaml

/-- Works on the nodes of a document. -/
abbrev NodeEdit (α : Type) := StateT (Array Node) (Except Fault) α

namespace NodeEdit

/-- A node; one that is not there stands for nothing. -/
def node (id : NodeId) : NodeEdit Node := return (← get).getD id .nothing

/-- Replaces a node. -/
def put (id : NodeId) (n : Node) : NodeEdit Unit := modify fun nodes => nodes.setIfInBounds id n

/-- The tag of a node. -/
def tagOf (id : NodeId) : NodeEdit (Option Tag) := return (← node id).tag?

/-- The entries of a mapping. -/
def entries (id : NodeId) : NodeEdit (List (NodeId × NodeId)) := do
  match ← node id with
  | .mapping _ es => return es
  | _ => throw .malformed

/-- Gives a mapping other entries. -/
def setEntries (id : NodeId) (es : List (NodeId × NodeId)) : NodeEdit Unit := do
  match ← node id with
  | .mapping t _ => put id (.mapping t es)
  | _ => return ()

/-- The mark of a default value is a plain text where it is a key. -/
def retagKey (id : NodeId) : NodeEdit Unit := do
  match ← node id with
  | .scalar (some .defaultValue) text => put id (.scalar (some .text) text)
  | .sequence (some .defaultValue) items => put id (.sequence (some .text) items)
  | .mapping (some .defaultValue) es => put id (.mapping (some .text) es)
  | _ => return ()

/-- The place of the first mark of a merge from a place on. -/
def mergePlace? (place : Nat) : List (NodeId × NodeId) → NodeEdit (Option Nat)
  | [] => return none
  | (k, _) :: es => do
      if (← tagOf k) = some .merge then return some place
      else
        retagKey k
        mergePlace? (place + 1) es

mutual

/-- Flattens a mapping from a place on, given the entries merged so far.  At most
so many marks of merges are left in the document. -/
def flattenFrom : Nat → NodeId → Nat → List (NodeId × NodeId) → NodeEdit Unit
  | 0, _, _, _ => throw .endless
  | marks + 1, id, place, merged => do
      let es ← entries id
      match ← mergePlace? place (es.drop place) with
      | none => if merged.isEmpty then return () else setEntries id (merged ++ es)
      | some place =>
          setEntries id (es.eraseIdx place)
          let more ← match (es.map Prod.snd)[place]? with
            | some source => mergeSource marks source
            | none => pure []
          flattenFrom marks id place (merged ++ more)

/-- The entries that a merged node gives. -/
def mergeSource : Nat → NodeId → NodeEdit (List (NodeId × NodeId))
  | 0, _ => throw .endless
  | marks + 1, source => do
      match ← node source with
      | .mapping _ _ =>
          flattenFrom marks source 0 []
          entries source
      | .sequence _ items =>
          let parts ← items.mapM fun item => do
            match ← node item with
            | .mapping _ _ =>
                flattenFrom marks item 0 []
                entries item
            | _ => throw .malformed
          return parts.reverse.flatten
      | .scalar _ _ => throw .malformed

end

/-- Puts the entries that a mapping merges in the place of their marks. -/
def flatten (id : NodeId) : NodeEdit Unit := do
  let count := (← get).foldl (fun n node => n + match node with
    | .mapping _ es => es.length
    | _ => 0) 0
  flattenFrom (2 * count + 2) id 0 []

end NodeEdit

end StateCoverage.Yaml
