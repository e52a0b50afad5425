import StateCoverage.Text.Lines
import StateCoverage.Text.Utf8

/-!
# Text in portions

A file can be read bit by bit: its bytes come in blocks, and its text is handed
out in portions.  A character may be split between two blocks, and so may a line
end of two characters.  Positions of faults count from the start of what is
decoded at once, which is a block and the bytes kept from the one before.

* `readPortions` — the portions of a text, up to the fault if there is one.
-/

namespace StateCoverage.Text

/-- A file that is read bit by bit. -/
structure BlockReader where
  /-- The bytes that were not read yet. -/
  bytes : List UInt8
  /-- The bytes of a character that has not come to its end. -/
  kept : List UInt8
  /-- Whether the last character was a carriage return, which may belong to a
  line feed. -/
  endsInReturn : Bool
  /-- The characters that were not handed out yet. -/
  ready : List Char
  /-- The number of bytes for a character in the last block. -/
  density : Float

/-- The number of bytes that are read at least, unless the file ends. -/
def blockSize : Nat := 8192

/-- The number of characters that are handed out at once. -/
def portionSize : Nat := 4096

namespace BlockReader

/-- The reader at the start of a file. -/
def start (bytes : List UInt8) : BlockReader := ⟨bytes, [], false, [], 0.0⟩

/-- The number of bytes to read for so many characters, going by the last
block. -/
def bytesFor (r : BlockReader) (wanted : Nat) : Nat :=
  let density := if 1.0 ≤ r.density then r.density else 1.0
  max blockSize (density * Float.ofNat wanted).toUInt64.toNat

/-- The characters that some more bytes give, and the bytes that are kept. -/
def decode (r : BlockReader) (block : List UInt8) : Except Utf8Fault (List Char × List UInt8) :=
  if block.isEmpty then (decodeUtf8 r.kept).map fun cs => (cs, [])
  else match decodeFront 0 (r.kept ++ block) with
    | (cs, _, none) => .ok (cs, [])
    | (cs, left, some f) => if mayGoOn left f.reason then .ok (cs, left) else .error f

/-- Reads a block for so many characters, and tells whether the file goes on. -/
def next (r : BlockReader) (wanted : Nat) : Except Utf8Fault (BlockReader × Bool) := do
  let block := r.bytes.take (r.bytesFor wanted)
  let isEnd := block.isEmpty
  let (cs, kept) ← r.decode block
  let cs := if r.endsInReturn && (isEnd || !cs.isEmpty) then '\r' :: cs else cs
  let endsInReturn := !isEnd && (if cs.isEmpty then r.endsInReturn else cs.getLast? = some '\r')
  let ready := unifyLineEnds (if endsInReturn then cs.dropLast else cs)
  let density := if ready.isEmpty then 0.0 else Float.ofNat block.length / Float.ofNat ready.length
  return (⟨r.bytes.drop block.length, kept, endsInReturn, ready, density⟩, !isEnd || !ready.isEmpty)

/-- So many characters, or all that are left, from at most so many blocks. -/
def take (wanted : Nat) : Nat → BlockReader → Except Utf8Fault (List Char × BlockReader)
  | 0, r => .ok ([], r)
  | blocks + 1, r => do
      let front := r.ready.take wanted
      let r := { r with ready := r.ready.drop wanted }
      let missing := wanted - front.length
      if missing = 0 then return (front, r)
      else
        let (r, goesOn) ← r.next missing
        if goesOn then
          let (cs, r) ← r.take missing blocks
          return (front ++ cs, r)
        else return (front, r)

/-- The portions of the text that is left, at most so many. -/
def portions : Nat → BlockReader → List (List Char) × Option Utf8Fault
  | 0, _ => ([], none)
  | n + 1, r =>
      match r.take portionSize (r.bytes.length + 3) with
      | .error f => ([], some f)
      | .ok ([], _) => ([], none)
      | .ok (cs, r) =>
          let (rest, fault?) := portions n r
          (cs :: rest, fault?)

end BlockReader

/-- The portions of the text of a file, and the fault where it stops being
text. -/
def readPortions (bytes : List UInt8) : List (List Char) × Option Utf8Fault :=
  (BlockReader.start bytes).portions (bytes.length + 1)

end StateCoverage.Text
