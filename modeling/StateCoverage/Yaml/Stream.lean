import StateCoverage.Text.Portions

/-!
# The text of a YAML stream

A stream is read as far as it is needed.  What is wrong further on does no harm
if reading ends before: the text comes in portions, and a fault after them is
met only when more is asked for.
-/

namespace StateCoverage.Yaml

/-- Why a text has no value. -/
inductive Fault where
  /-- It breaks a rule of YAML. -/
  | malformed
  /-- Its bytes are no text. -/
  | undecodable (fault : Text.Utf8Fault)
  /-- A scalar has the form of a number, a date or a character but no such
  value; the text says why. -/
  | badScalar (message : String)
  /-- A scalar is tagged as a truth value but is no word for one. -/
  | noTruthValue
  /-- A scalar is tagged as a number but is empty. -/
  | emptyNumber
  /-- A scalar is tagged as a date but has not the form of one. -/
  | noDate
  /-- A mapping is tagged as a date. -/
  | dateOfMapping
  /-- A number is too large for its use. -/
  | tooLarge
  /-- Nodes are nested without end. -/
  | endless
  deriving Repr, DecidableEq, Inhabited

/-- Whether a character may stand in a stream at all. -/
def isAllowed (c : Char) : Bool :=
  let n := c.toNat
  n = 9 || n = 10 || n = 13 || (0x20 ≤ n && n ≤ 0x7e) || n = 0x85
    || (0xa0 ≤ n && n ≤ 0xd7ff) || (0xe000 ≤ n && n ≤ 0xfffd) || 0x10000 ≤ n

/-- Text that comes in portions, and the fault that is met after them. -/
structure Stream where
  portions : List (List Char)
  fault? : Option Fault
  deriving Repr, Inhabited

namespace Stream

/-- A stream whose portions are checked when they come: one with a character that
is not allowed is a fault. -/
def checked : List (List Char) → Option Fault → Stream
  | [], fault? => ⟨[], fault?⟩
  | p :: ps, fault? =>
      if p.all isAllowed then
        let rest := checked ps fault?
        ⟨p :: rest.portions, rest.fault?⟩
      else ⟨[], some .malformed⟩

/-- The stream of a file.  Its first two portions come together. -/
def ofFile (bytes : List UInt8) : Stream :=
  match Text.readPortions bytes with
  | ([], fault?) => ⟨[], fault?.map .undecodable⟩
  | ([_], some f) => ⟨[], some (.undecodable f)⟩
  | ([p], none) => checked [p] none
  | (p :: q :: ps, fault?) => checked ((p ++ q) :: ps) (fault?.map .undecodable)

/-- The number of characters of all portions. -/
def size (s : Stream) : Nat := s.portions.foldl (fun n p => n + p.length) 0

/-- Whether a list has so many elements. -/
def hasAtLeast {α : Type} (count : Nat) (xs : List α) : Bool :=
  count = 0 || !(xs.drop (count - 1)).isEmpty

/-- Adds portions to the characters at hand until they are `enough` or the text
ends. -/
def extend (enough : List Char → Bool) (fault? : Option Fault) (atHand : List Char) :
    List (List Char) → Except Fault (List Char × Stream)
  | [] =>
      match fault? with
      | none => .ok (atHand, ⟨[], none⟩)
      | some f => if enough atHand then .ok (atHand, ⟨[], some f⟩) else .error f
  | p :: ps =>
      if enough atHand then .ok (atHand, ⟨p :: ps, fault?⟩)
      else extend enough fault? (atHand ++ p) ps

end Stream

end StateCoverage.Yaml
