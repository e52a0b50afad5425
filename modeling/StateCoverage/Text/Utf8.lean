import StateCoverage.Text.Quoted

/-!
# Reading UTF-8

`decodeUtf8` turns bytes into characters or says where and why they stop being
UTF-8.  The bytes at fault are the first one of a character and the
continuation bytes that were still right.
-/

namespace StateCoverage.Text

/-- What is wrong with bytes that are no UTF-8. -/
inductive Utf8Reason where
  /-- No character starts with this byte. -/
  | invalidStart
  /-- The character does not go on with the next byte. -/
  | invalidContinuation
  /-- The bytes end inside the character. -/
  | unexpectedEnd
  deriving Repr, DecidableEq, Inhabited

/-- The wording of a reason. -/
def Utf8Reason.message : Utf8Reason → String
  | .invalidStart => "invalid start byte"
  | .invalidContinuation => "invalid continuation byte"
  | .unexpectedEnd => "unexpected end of data"

/-- The place and the bytes where decoding stops. -/
structure Utf8Fault where
  position : Nat
  bytes : List UInt8
  reason : Utf8Reason
  deriving Repr, DecidableEq, Inhabited

/-- The wording of a fault. -/
def Utf8Fault.message (f : Utf8Fault) : String :=
  let place := match f.bytes with
    | [b] => s!"byte 0x{String.ofList (hex 2 b.toNat)} in position {f.position}"
    | bs => s!"bytes in position {f.position}-{f.position + bs.length - 1}"
  s!"'utf-8' codec can't decode {place}: {f.reason.message}"

/-- How a character goes on after its first byte: the number of bytes to come,
the bounds of the next one, and the bits that the first one gives. -/
structure Lead where
  count : Nat
  low : UInt8
  high : UInt8
  bits : Nat

/-- What the first byte of a character of several bytes announces.  The bounds
leave out overlong forms, surrogates and what lies beyond the last character. -/
def lead? (b : UInt8) : Option Lead :=
  let n := b.toNat
  if 0xc2 ≤ n && n ≤ 0xdf then some ⟨1, 0x80, 0xbf, n - 0xc0⟩
  else if 0xe0 ≤ n && n ≤ 0xef then
    some ⟨2, if n = 0xe0 then 0xa0 else 0x80, if n = 0xed then 0x9f else 0xbf, n - 0xe0⟩
  else if 0xf0 ≤ n && n ≤ 0xf4 then
    some ⟨3, if n = 0xf0 then 0x90 else 0x80, if n = 0xf4 then 0x8f else 0xbf, n - 0xf0⟩
  else none

/-- The continuation bytes that are right, at most `count` of them; only the
first has bounds of its own. -/
def continuation (count : Nat) (low high : UInt8) : List UInt8 → List UInt8
  | [] => []
  | b :: bs =>
      match count with
      | 0 => []
      | n + 1 => if low ≤ b && b ≤ high then b :: continuation n 0x80 0xbf bs else []

/-- One character at the front of some bytes and the number of bytes that
follow its first one, or the reason and the bytes at fault. -/
def decodeChar (b : UInt8) (rest : List UInt8) : Except (Utf8Reason × List UInt8) (Char × Nat) :=
  if b < 0x80 then .ok (Char.ofNat b.toNat, 0)
  else match lead? b with
    | none => .error (.invalidStart, [b])
    | some l =>
        let tail := continuation l.count l.low l.high rest
        if tail.length = l.count then
          .ok (Char.ofNat (tail.foldl (fun n t => n * 64 + (t.toNat - 0x80)) l.bits), l.count)
        else if tail.length = rest.length then .error (.unexpectedEnd, b :: tail)
        else .error (.invalidContinuation, b :: tail)

/-- As many characters as there are, the bytes that were not decoded and, if
there are any, the fault at the first of them. -/
def decodeFront (position : Nat) (bytes : List UInt8) : List Char × List UInt8 × Option Utf8Fault :=
  match bytes with
  | [] => ([], [], none)
  | b :: rest =>
      match decodeChar b rest with
      | .error (reason, bad) => ([], b :: rest, some ⟨position, bad, reason⟩)
      | .ok (c, count) =>
          let (cs, left, fault?) := decodeFront (position + count + 1) (rest.drop count)
          (c :: cs, left, fault?)
termination_by bytes.length
decreasing_by
  simp only [List.length_drop, List.length_cons]
  omega

/-- The text that bytes are. -/
def decodeUtf8 (bytes : List UInt8) : Except Utf8Fault (List Char) :=
  match decodeFront 0 bytes with
  | (cs, _, none) => .ok cs
  | (_, _, some f) => .error f

/-- Whether bytes that cannot be decoded may still become a character when more
bytes come: they end inside one, or are two bytes that could have been the start
of one. -/
def mayGoOn (left : List UInt8) (reason : Utf8Reason) : Bool :=
  match reason, left with
  | .unexpectedEnd, _ => true
  | .invalidContinuation, [b, b'] => b = 0xed && 0xa0 ≤ b' && b' ≤ 0xbf
  | _, _ => false

end StateCoverage.Text
