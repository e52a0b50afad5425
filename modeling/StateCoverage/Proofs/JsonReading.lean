import Mathlib.Data.List.Basic
import StateCoverage.Text.Digit
import StateCoverage.Text.Json

/-!
# Written JSON can be read

`Json.read?` is a reader of JSON that knows nothing of how `Json.render` lays a
value out: it passes over blanks and accepts every escape.  It reads what is
written as the value that was written, so the text of a report determines what
is reported.

* `readText?_quote` — texts, with their escapes and pairs of units.
* `takes_bracketed` — what stands in brackets, given how each item is read.
* `read?_render` — whole values.
-/

namespace StateCoverage.Text.Json

/-! ## The reader -/

/-- Blanks and line ends. -/
def isBlank (c : Char) : Bool := c ∈ [' ', '\n', '\t', '\r']

/-- The first character that is no blank, and what follows it. -/
def next? (cs : List Char) : Option (Char × List Char) :=
  match cs.dropWhile isBlank with
  | [] => none
  | c :: rest => some (c, rest)

/-- The character that stands for another after a backslash. -/
def shortEscape? : Char → Option Char
  | '"' => some '"'
  | '\\' => some '\\'
  | '/' => some '/'
  | 'b' => some '\x08'
  | 'f' => some '\x0c'
  | 'n' => some '\n'
  | 'r' => some '\r'
  | 't' => some '\t'
  | _ => none

/-- The units of a text up to its closing quote: code points, or halves of
them. -/
def readUnits? : List Char → Option (List Nat × List Char)
  | [] => none
  | '"' :: rest => some ([], rest)
  | '\\' :: 'u' :: a :: b :: c :: d :: rest =>
      if [a, b, c, d].all (isDigitIn 16) then
        (readUnits? rest).map (Prod.map (numberIn 16 [a, b, c, d] :: ·) id)
      else none
  | '\\' :: c :: rest =>
      (shortEscape? c).bind fun e => (readUnits? rest).map (Prod.map (e.toNat :: ·) id)
  | c :: rest => (readUnits? rest).map (Prod.map (c.toNat :: ·) id)

/-- Whether two units are the halves of one code point. -/
def arePair (high low : Nat) : Bool :=
  0xd800 ≤ high && high < 0xdc00 && 0xdc00 ≤ low && low < 0xe000

/-- The characters of units; a half must not stand alone. -/
def joinUnits? : List Nat → Option (List Char)
  | [] => some []
  | [n] => if n.isValidChar then some [Char.ofNat n] else none
  | high :: low :: rest =>
      if arePair high low then
        (joinUnits? rest).map
          (Char.ofNat (0x10000 + 0x400 * (high - 0xd800) + (low - 0xdc00)) :: ·)
      else if high.isValidChar then (joinUnits? (low :: rest)).map (Char.ofNat high :: ·)
      else none

/-- A text after its opening quote. -/
def readText? (cs : List Char) : Option (String × List Char) := do
  let (units, rest) ← readUnits? cs
  let text ← joinUnits? units
  return (String.ofList text, rest)

/-- A number without a sign. -/
def readNat? (cs : List Char) : Option (Nat × List Char) :=
  let digits := cs.takeWhile Char.isDigit
  if digits.isEmpty then none
  else some (Nat.ofDigitChars 10 digits 0, cs.dropWhile Char.isDigit)

/-- A number. -/
def readInt? : List Char → Option (Int × List Char)
  | '-' :: cs => (readNat? cs).map (Prod.map (fun n : Nat => -(n : Int)) id)
  | cs => (readNat? cs).map (Prod.map (fun n : Nat => (n : Int)) id)

section Items

variable {α : Type}

/-- Items with commas between them and a bracket after the last; there are at
most so many. -/
def readItems? (closing : Char) (item : List Char → Option (α × List Char)) :
    Nat → List Char → Option (List α × List Char)
  | 0, _ => none
  | n + 1, cs => do
      let (a, rest) ← item cs
      let (c, rest) ← next? rest
      if c = closing then return ([a], rest)
      else if c = ',' then (readItems? closing item n rest).map (Prod.map (a :: ·) id)
      else none

/-- What stands in brackets, after the opening one. -/
def readBracketed? (closing : Char) (item : List Char → Option (α × List Char)) (n : Nat)
    (cs : List Char) : Option (List α × List Char) :=
  readItems? closing item n cs <|> do
    let (c, rest) ← next? cs
    if c = closing then return ([], rest) else none

end Items

/-- A field of an object. -/
def readField? (value : List Char → Option (Json × List Char)) (cs : List Char) :
    Option ((String × Json) × List Char) := do
  let (c, rest) ← next? cs
  if c = '"' then
    let (name, rest) ← readText? rest
    let (c, rest) ← next? rest
    if c = ':' then (value rest).map (Prod.map (name, ·) id) else none
  else none

/-- A value in at most so many steps. -/
def readValue? : Nat → List Char → Option (Json × List Char)
  | 0, _ => none
  | n + 1, cs => do
      let (c, rest) ← next? cs
      if c = '"' then (readText? rest).map (Prod.map .text id)
      else if c = '[' then (readBracketed? ']' (readValue? n) n rest).map (Prod.map .list id)
      else if c = '\x7b' then
        (readBracketed? '\x7d' (readField? (readValue? n)) n rest).map (Prod.map .object id)
      else if c = 'n' then
        if rest.take 3 = ['u', 'l', 'l'] then some (.null, rest.drop 3) else none
      else (readInt? (c :: rest)).map (Prod.map .int id)

/-- The value that a text is, with nothing but blanks after it. -/
def read? (s : String) : Option Json := do
  let (v, rest) ← readValue? s.length s.toList
  if rest.all isBlank then return v else none

/-! ## Texts -/

theorem digitValue?_digitChar {d : Nat} (h : d < 16) : digitValue? d.digitChar = some d := by
  have all : ∀ d < 16, digitValue? (Nat.digitChar d) = some d := by decide
  exact all d h

/-- Four hexadecimal digits of a unit. -/
theorem hex_four {n : Nat} (h : n < 0x10000) :
    hex 4 n = [(n / 4096).digitChar, (n / 256 % 16).digitChar, (n / 16 % 16).digitChar,
      (n % 16).digitChar] := by
  rw [hex]
  by_cases h1 : n < 16
  · rw [Nat.toDigits_of_lt_base h1, Nat.mod_eq_of_lt h1, Nat.div_eq_of_lt h1,
      Nat.div_eq_of_lt (show n < 256 by omega), Nat.div_eq_of_lt (show n < 4096 by omega)]
    rfl
  rw [Nat.toDigits_of_base_le (by omega) (by omega)]
  by_cases h2 : n / 16 < 16
  · rw [Nat.toDigits_of_lt_base h2, Nat.mod_eq_of_lt h2, Nat.div_eq_of_lt (show n < 256 by omega),
      Nat.div_eq_of_lt (show n < 4096 by omega)]
    rfl
  rw [Nat.toDigits_of_base_le (by omega) (by omega), Nat.div_div_eq_div_mul]
  by_cases h3 : n / 256 < 16
  · rw [Nat.toDigits_of_lt_base h3, Nat.mod_eq_of_lt h3, Nat.div_eq_of_lt (show n < 4096 by omega)]
    rfl
  rw [Nat.toDigits_of_base_le (by omega) (by omega), Nat.div_div_eq_div_mul,
    Nat.toDigits_of_lt_base (by omega)]
  rfl

/-- A unit that is written in hexadecimal is read as that unit. -/
theorem readUnits?_unitEscape {n : Nat} (h : n < 0x10000) (rest : List Char) :
    readUnits? (unitEscape n ++ rest) = (readUnits? rest).map (Prod.map (n :: ·) id) := by
  have digits (d : Nat) : digitValue? (d % 16).digitChar = some (d % 16) :=
    digitValue?_digitChar (Nat.mod_lt _ (by omega))
  have first : digitValue? (n / 4096).digitChar = some (n / 4096) :=
    digitValue?_digitChar (by omega)
  have value : numberIn 16 (hex 4 n) = n := by
    simp only [hex_four h, numberIn, List.foldl_cons, List.foldl_nil, first, digits,
      Option.getD_some]
    omega
  have inBase : (hex 4 n).all (isDigitIn 16) = true := by
    simp only [hex_four h, List.all_cons, List.all_nil, isDigitIn, first, digits, Option.any_some,
      Bool.and_true, Bool.and_eq_true, decide_eq_true_eq]
    omega
  rw [hex_four h] at value inBase
  rw [unitEscape, hex_four h]
  show readUnits? ('\\' :: 'u' :: _ :: _ :: _ :: _ :: rest) = _
  rw [readUnits?, if_pos inBase, value]

/-- The units of a character. -/
def unitsOf (c : Char) : List Nat :=
  if c.toNat < 0x10000 then [c.toNat]
  else [0xd800 + (c.toNat - 0x10000) / 0x400, 0xdc00 + (c.toNat - 0x10000) % 0x400]

/-- A character that needs no escape is one unit. -/
theorem readUnits?_plain {c : Char} (hquote : c ≠ '"') (hslash : c ≠ '\\') (rest : List Char) :
    readUnits? (c :: rest) = (readUnits? rest).map (Prod.map (c.toNat :: ·) id) := by
  rw [readUnits?.eq_def]
  split <;> simp_all

/-- One step: a character is read as its units, however it is written. -/
theorem readUnits?_escapeChar (c : Char) (rest : List Char) :
    readUnits? (escapeChar c ++ rest) = (readUnits? rest).map (Prod.map (unitsOf c ++ ·) id) := by
  have valid : c.toNat < 0x110000 := by
    rcases c.valid with h | h
    · exact Nat.lt_trans h (by omega)
    · exact h.2
  unfold escapeChar unitsOf
  dsimp only
  split
  · next h =>
    rcases (by simpa using h : c = '"' ∨ c = '\\') with rfl | rfl <;> rfl
  · next hmarks =>
    split
    · subst_vars; rfl
    split
    · subst_vars; rfl
    split
    · subst_vars; rfl
    split
    · subst_vars; rfl
    split
    · subst_vars; rfl
    split
    · next hascii =>
      have small : c.toNat < 0x10000 := by
        have := (by simpa using hascii : 0x20 ≤ c.toNat ∧ c.toNat ≤ 0x7e).2
        omega
      have marks := (by simpa using hmarks : ¬c = '"' ∧ ¬c = '\\')
      rw [if_pos small]
      exact readUnits?_plain marks.1 marks.2 rest
    split
    · next small => exact readUnits?_unitEscape small rest
    · rw [List.append_assoc, readUnits?_unitEscape (by omega), readUnits?_unitEscape (by omega),
        Option.map_map]
      rfl

/-- A whole text is read as its units, by induction on its characters. -/
theorem readUnits?_flatMap (cs rest : List Char) :
    readUnits? (cs.flatMap escapeChar ++ '"' :: rest) = some (cs.flatMap unitsOf, rest) := by
  induction cs with
  | nil => rfl
  | cons c cs ih =>
    rw [List.flatMap_cons, List.append_assoc, readUnits?_escapeChar, ih]
    rfl

theorem arePair_of_isValidChar {n low : Nat} (h : n.isValidChar) : arePair n low = false := by
  have bounds : n < 0xd800 ∨ 0xdfff < n := h.imp id And.left
  rw [arePair]
  by_contra pair
  simp only [Bool.not_eq_false, Bool.and_eq_true, decide_eq_true_eq] at pair
  omega

/-- A code point of its own is one character. -/
theorem joinUnits?_cons {n : Nat} (h : n.isValidChar) (units : List Nat) :
    joinUnits? (n :: units) = (joinUnits? units).map (Char.ofNat n :: ·) := by
  cases units with
  | nil => simp [joinUnits?, h]
  | cons low rest => rw [joinUnits?, arePair_of_isValidChar h, if_neg (by simp), if_pos h]

/-- The units of a character are joined to that character again. -/
theorem joinUnits?_unitsOf (c : Char) (units : List Nat) :
    joinUnits? (unitsOf c ++ units) = (joinUnits? units).map (c :: ·) := by
  have valid : c.toNat.isValidChar := c.valid
  rw [unitsOf]
  split
  · rw [List.singleton_append, joinUnits?_cons valid, Char.ofNat_toNat]
  · next large =>
    have bound : c.toNat < 0x110000 := by
      rcases valid with h | h
      · omega
      · exact h.2
    have pair : arePair (0xd800 + (c.toNat - 0x10000) / 0x400)
        (0xdc00 + (c.toNat - 0x10000) % 0x400) = true := by
      simp only [arePair, Bool.and_eq_true, decide_eq_true_eq]
      omega
    have point : 0x10000 + 0x400 * (0xd800 + (c.toNat - 0x10000) / 0x400 - 0xd800) +
        (0xdc00 + (c.toNat - 0x10000) % 0x400 - 0xdc00) = c.toNat := by omega
    show joinUnits? (_ :: _ :: units) = _
    rw [joinUnits?, if_pos pair, point, Char.ofNat_toNat]

theorem joinUnits?_flatMap (cs : List Char) : joinUnits? (cs.flatMap unitsOf) = some cs := by
  induction cs with
  | nil => rfl
  | cons c cs ih => rw [List.flatMap_cons, joinUnits?_unitsOf, ih]; rfl

/-- A text is read as it was before it was put in quotes. -/
theorem readText?_quote (s : String) (rest : List Char) :
    readText? (s.toList.flatMap escapeChar ++ '"' :: rest) = some (s, rest) := by
  simp [readText?, readUnits?_flatMap, joinUnits?_flatMap]

/-! ## Numbers -/

/-- What follows does not go on with digits. -/
def EndsNumber (rest : List Char) : Prop := ∀ c ∈ rest.head?, c.isDigit = false

theorem endsNumber_cons {c : Char} {rest : List Char} (h : c.isDigit = false) :
    EndsNumber (c :: rest) := by
  simpa [EndsNumber] using h

/-- The digits of a number end where something else follows. -/
theorem readNat?_repr {rest : List Char} (h : EndsNumber rest) (n : Nat) :
    readNat? (n.repr.toList ++ rest) = some (n, rest) := by
  have digits : ∀ c ∈ Nat.toDigits 10 n, c.isDigit = true := fun c hc =>
    Nat.isDigit_of_mem_toDigits (by omega) (by omega) hc
  have ends : rest.takeWhile Char.isDigit = [] ∧ rest.dropWhile Char.isDigit = rest := by
    cases rest with
    | nil => exact ⟨rfl, rfl⟩
    | cons c rest =>
      have hc : c.isDigit = false := h c rfl
      simp [hc]
  rw [Nat.toList_repr, readNat?]
  simp only [List.takeWhile_append_of_pos digits, List.dropWhile_append_of_pos digits, ends.1,
    ends.2, List.append_nil, List.isEmpty_iff, Nat.toDigits_ne_nil, if_false,
    Nat.ofDigitChars_ten_toDigits]

/-- The first character of a number. -/
theorem exists_repr_eq_cons (n : Nat) : ∃ c cs, n.repr.toList = c :: cs ∧ c.isDigit = true := by
  rw [Nat.toList_repr]
  cases h : Nat.toDigits 10 n with
  | nil => exact absurd h Nat.toDigits_ne_nil
  | cons c cs =>
    exact ⟨c, cs, rfl, Nat.isDigit_of_mem_toDigits (by omega) (by omega) (h ▸ List.mem_cons_self ..)⟩

theorem readInt?_repr {rest : List Char} (h : EndsNumber rest) (k : Int) :
    readInt? ((toString k).toList ++ rest) = some (k, rest) := by
  cases k with
  | ofNat n =>
    obtain ⟨c, cs, hrepr, hc⟩ := exists_repr_eq_cons n
    have positive : readInt? (n.repr.toList ++ rest) =
        (readNat? (n.repr.toList ++ rest)).map (Prod.map (fun n : Nat => (n : Int)) id) := by
      rw [hrepr, List.cons_append, readInt?.eq_def]
      split
      · next heq =>
        obtain ⟨rfl, -⟩ := List.cons.inj heq
        exact absurd hc (by decide)
      · rfl
    show readInt? (n.repr.toList ++ rest) = _
    rw [positive, readNat?_repr h]
    rfl
  | negSucc n =>
    show readInt? (("-" ++ (n + 1).repr).toList ++ rest) = _
    rw [String.toList_append]
    show (readNat? ((n + 1).repr.toList ++ rest)).map _ = _
    rw [readNat?_repr h]
    rfl

theorem exists_toString_eq_cons (k : Int) :
    ∃ c cs, (toString k).toList = c :: cs ∧ (c = '-' ∨ c.isDigit = true) := by
  cases k with
  | ofNat n =>
    obtain ⟨c, cs, hrepr, hc⟩ := exists_repr_eq_cons n
    exact ⟨c, cs, hrepr, .inr hc⟩
  | negSucc n => exact ⟨'-', (n + 1).repr.toList, String.toList_append, .inl rfl⟩

/-! ## Brackets -/

theorem next?_append {front : List Char} {c : Char} (blank : front.all isBlank = true)
    (h : isBlank c = false) (rest : List Char) : next? (front ++ c :: rest) = some (c, rest) := by
  rw [next?, List.dropWhile_append_of_pos (List.all_eq_true.1 blank), List.dropWhile_cons_of_neg]
  simp [h]

theorem next?_cons {c : Char} (h : isBlank c = false) (rest : List Char) :
    next? (c :: rest) = some (c, rest) := by
  simp [next?, h]

theorem all_isBlank_lineStart (level : Nat) : (lineStart level).toList.all isBlank = true := by
  rw [lineStart, String.toList_ofList, List.all_cons, List.all_eq_true.2]
  · rfl
  · intro c hc
    rw [List.eq_of_mem_replicate hc]
    rfl

theorem endsNumber_lineStart (level : Nat) (rest : List Char) :
    EndsNumber ((lineStart level).toList ++ rest) := by
  rw [lineStart, String.toList_ofList]
  exact endsNumber_cons rfl

section Items

variable {α : Type} {item : List Char → Option (α × List Char)} {write : α → String}

/-- The reader takes a text for a value, with blanks before it and anything after
it that does not go on with digits. -/
def Takes (item : List Char → Option (α × List Char)) (text : String) (a : α) : Prop :=
  ∀ front rest : List Char, front.all isBlank = true → EndsNumber rest →
    item (front ++ (text.toList ++ rest)) = some (a, rest)

theorem readItems?_last {closing : Char} {n : Nat} {cs after rest : List Char} {a : α}
    (hitem : item cs = some (a, after)) (hclosing : next? after = some (closing, rest)) :
    readItems? closing item (n + 1) cs = some ([a], rest) := by
  simp [readItems?, hitem, hclosing]

/-- One item and a comma, then the others. -/
theorem readItems?_cons {closing : Char} (comma : closing ≠ ',') {n : Nat}
    {cs after rest : List Char} {a : α} {as : List α} (hitem : item cs = some (a, ',' :: after))
    (hitems : readItems? closing item n after = some (as, rest)) :
    readItems? closing item (n + 1) cs = some (a :: as, rest) := by
  have hcomma : next? (',' :: after) = some (',', after) := next?_cons rfl after
  simp [readItems?, hitem, hcomma, comma.symm, hitems]

/-- Items that are each read as they were written are so in a row. -/
theorem readItems?_intercalate {closing : Char} (comma : closing ≠ ',')
    (visible : isBlank closing = false) (inner outer : Nat) (rest : List Char) (a : α)
    (as : List α) (takes : ∀ b ∈ a :: as, Takes item (write b) b) {n : Nat}
    (enough : as.length < n) {front : List Char} (blank : front.all isBlank = true) :
    readItems? closing item n (front ++ ((("," ++ lineStart inner).intercalate
      ((a :: as).map write)).toList ++ ((lineStart outer).toList ++ closing :: rest))) =
        some (a :: as, rest) := by
  induction as generalizing a n front with
  | nil =>
    obtain ⟨n, rfl⟩ := Nat.exists_eq_add_one_of_ne_zero (Nat.ne_of_gt enough)
    rw [List.map_singleton, String.intercalate_singleton]
    exact readItems?_last
      (takes a (List.mem_singleton_self a) _ _ blank (endsNumber_lineStart outer _))
      (next?_append (all_isBlank_lineStart outer) visible rest)
  | cons b as ih =>
    obtain ⟨n, rfl⟩ := Nat.exists_eq_add_one_of_ne_zero (Nat.ne_of_gt (Nat.zero_lt_of_lt enough))
    have tail := ih b (fun c hc => takes c (List.mem_cons_of_mem a hc)) (n := n)
      (Nat.lt_of_succ_lt_succ enough) (all_isBlank_lineStart inner)
    rw [List.map_cons, List.map_cons, String.intercalate_cons_cons, String.toList_append,
      String.toList_append, String.toList_append, List.append_assoc, List.append_assoc,
      List.append_assoc]
    exact readItems?_cons comma (takes a List.mem_cons_self _ _ blank (endsNumber_cons rfl)) tail

/-- What stands in brackets is read if each item is, and if nothing is read where
there is only the closing one. -/
theorem readBracketed?_bracketed (opening closing : Char) (comma : closing ≠ ',')
    (visible : isBlank closing = false) (level : Nat) (rest : List Char) (as : List α)
    (takes : ∀ a ∈ as, Takes item (write a) a) {n : Nat} (enough : as.length ≤ n)
    (refuses : item (closing :: rest) = none) :
    ∃ text, (bracketed (String.singleton opening) (String.singleton closing) level
        (as.map write)).toList = opening :: text ∧
      readBracketed? closing item n (text ++ rest) = some (as, rest) := by
  cases as with
  | nil =>
    refine ⟨[closing], by simp [bracketed], ?_⟩
    have nothing : readItems? closing item n (closing :: rest) = none := by
      cases n with
      | zero => rfl
      | succ n => simp [readItems?, refuses]
    have closes : next? (closing :: rest) = some (closing, rest) :=
      next?_cons visible rest
    simp [readBracketed?, nothing, closes]
  | cons a as =>
    refine ⟨(lineStart (level + 1)).toList ++ ((("," ++ lineStart (level + 1)).intercalate
      ((a :: as).map write)).toList ++ ((lineStart level).toList ++ [closing])), ?_, ?_⟩
    · simp [bracketed, String.toList_append]
    · have reads := readItems?_intercalate comma visible (level + 1) level rest a as takes enough
        (all_isBlank_lineStart (level + 1))
      simp only [List.append_assoc, List.singleton_append, readBracketed?, reads]
      rfl

end Items

/-! ## Lengths -/

/-- A text is not longer than a row that it stands in. -/
theorem length_le_intercalate (sep : String) {t : String} {ts : List String} (h : t ∈ ts) :
    t.length ≤ (sep.intercalate ts).length := by
  induction ts with
  | nil => cases h
  | cons u ts ih =>
    cases ts with
    | nil =>
      exact Nat.le_of_eq (by rw [List.mem_singleton.1 h, String.intercalate_singleton])
    | cons w ts =>
      rw [String.intercalate_cons_cons, String.length_append, String.length_append]
      rcases List.mem_cons.1 h with rfl | h
      · omega
      · have := ih h
        omega

/-- A row with separators has not many more items than characters. -/
theorem length_le_length_intercalate {sep : String} (h : 0 < sep.length) (ts : List String) :
    ts.length ≤ (sep.intercalate ts).length + 1 := by
  induction ts with
  | nil => simp
  | cons u ts ih =>
    cases ts with
    | nil => simp
    | cons w ts =>
      rw [String.intercalate_cons_cons, String.length_append, String.length_append,
        List.length_cons]
      omega

/-- Each item in brackets is shorter than the whole, and there are not more items
than characters. -/
theorem length_bracketed (opening closing : Char) (level : Nat) (ts : List String) :
    (∀ t ∈ ts, t.length < (bracketed (String.singleton opening) (String.singleton closing) level
      ts).length) ∧
    ts.length < (bracketed (String.singleton opening) (String.singleton closing) level ts).length := by
  have comma : 0 < ("," ++ lineStart (level + 1)).length := by
    rw [String.length_append]
    exact Nat.add_pos_left (by decide) _
  cases ts with
  | nil => simp [bracketed]
  | cons u ts =>
    have whole : (bracketed (String.singleton opening) (String.singleton closing) level
        (u :: ts)).length = (("," ++ lineStart (level + 1)).intercalate (u :: ts)).length +
          (lineStart (level + 1)).length + (lineStart level).length + 2 := by
      simp only [bracketed, List.isEmpty_cons, Bool.false_eq_true, if_false, String.length_append,
        String.length_singleton]
      omega
    have count := length_le_length_intercalate comma (u :: ts)
    refine ⟨fun t ht => ?_, by omega⟩
    have := length_le_intercalate ("," ++ lineStart (level + 1)) ht
    omega

/-! ## Values -/

/-- Induction over values, through the items of lists and the fields of objects. -/
@[elab_as_elim]
theorem induction {P : Json → Prop} (null : P .null) (int : ∀ n, P (.int n))
    (text : ∀ s, P (.text s)) (list : ∀ items, (∀ v ∈ items, P v) → P (.list items))
    (object : ∀ fields : List (String × Json), (∀ f ∈ fields, P f.2) → P (.object fields))
    (v : Json) : P v :=
  @Json.rec P (fun items => ∀ v ∈ items, P v) (fun fields => ∀ f ∈ fields, P f.2)
    (fun f => P f.2) null int text list object
    (by simp) (fun v vs hv hvs => List.forall_mem_cons.2 ⟨hv, hvs⟩) (by simp)
    (fun f fs hf hfs => List.forall_mem_cons.2 ⟨hf, hfs⟩) (fun _ _ hv => hv) v

/-- A field as it is written. -/
def renderField (level : Nat) (f : String × Json) : String := quote f.1 ++ ": " ++ render level f.2

theorem renderItems_eq_map (level : Nat) (items : List Json) :
    renderItems level items = items.map (render level) := by
  induction items with
  | nil => rfl
  | cons v items ih => rw [renderItems, ih, List.map_cons]

theorem renderFields_eq_map (level : Nat) (fields : List (String × Json)) :
    renderFields level fields = fields.map (renderField level) := by
  induction fields with
  | nil => rfl
  | cons f fields ih =>
    obtain ⟨k, v⟩ := f
    rw [renderFields, ih, List.map_cons]
    rfl

/-- No value is read where an empty list ends. -/
theorem readValue?_closing (n : Nat) (rest : List Char) : readValue? n (']' :: rest) = none := by
  cases n with
  | zero => rfl
  | succ n =>
    have reads : next? (']' :: rest) = some (']', rest) := next?_cons rfl rest
    simp [readValue?, reads, readInt?, readNat?]

/-- No field is read where an empty object ends. -/
theorem readField?_closing (value : List Char → Option (Json × List Char)) (rest : List Char) :
    readField? value ('\x7d' :: rest) = none := by
  have reads : next? ('\x7d' :: rest) = some ('\x7d', rest) :=
    next?_cons rfl rest
  simp [readField?, reads]

/-- A field is read as it was written if its value is. -/
theorem takes_field {value : List Char → Option (Json × List Char)} {level : Nat} (k : String)
    {v : Json} (h : Takes value (render level v) v) :
    Takes (readField? value) (renderField level (k, v)) (k, v) := by
  intro front rest blank ends
  have quotes : (renderField level (k, v)).toList ++ rest = '"' :: (k.toList.flatMap escapeChar ++
      '"' :: ':' :: ([' '] ++ ((render level v).toList ++ rest))) := by
    simp [renderField, quote, String.toList_append]
  have colon (cs : List Char) : next? (':' :: cs) = some (':', cs) :=
    next?_cons rfl cs
  rw [quotes]
  simp only [readField?, next?_append blank (show isBlank '"' = false from rfl),
    Option.bind_eq_bind, Option.bind_some, if_true, readText?_quote, colon,
    h [' '] rest rfl ends]
  rfl

/-- A list or an object is read as it was written if each of its items is.  `opens`
says what the reader does after the opening bracket. -/
theorem takes_bracketed {α : Type} {item : List Char → Option (α × List Char)} {write : α → String}
    {opening closing : Char} {make : List α → Json} {n level : Nat} {as : List α}
    (comma : closing ≠ ',') (visible : isBlank closing = false)
    (opens : ∀ front cs : List Char, front.all isBlank = true →
      readValue? (n + 1) (front ++ opening :: cs) =
        (readBracketed? closing item n cs).map (Prod.map make id))
    (refuses : ∀ rest, item (closing :: rest) = none)
    (takes : ∀ a ∈ as, Takes item (write a) a) (enough : as.length ≤ n) :
    Takes (readValue? (n + 1)) (bracketed (String.singleton opening) (String.singleton closing)
      level (as.map write)) (make as) := by
  intro front rest blank _
  obtain ⟨text, htext, reads⟩ := readBracketed?_bracketed opening closing comma visible level rest
    as takes enough (refuses rest)
  rw [htext, List.cons_append, opens front _ blank, reads]
  rfl

theorem exists_succ_of_le {m n : Nat} (h : m ≤ n) (positive : 0 < m) : ∃ k, n = k + 1 :=
  Nat.exists_eq_add_one_of_ne_zero (Nat.ne_of_gt (Nat.lt_of_lt_of_le positive h))

/-- A character that starts a number starts no other value. -/
theorem startsNumber {c : Char} (h : c = '-' ∨ c.isDigit = true) :
    isBlank c = false ∧ c ≠ '"' ∧ c ≠ '[' ∧ c ≠ '\x7b' ∧ c ≠ 'n' := by
  rcases h with rfl | h
  · decide
  · refine ⟨?_, ?_, ?_, ?_, ?_⟩
    · by_contra blank
      simp only [isBlank, Bool.not_eq_false, decide_eq_true_eq, List.mem_cons, List.not_mem_nil,
        or_false] at blank
      rcases blank with rfl | rfl | rfl | rfl <;> exact absurd h (by decide)
    all_goals
      rintro rfl
      exact absurd h (by decide)

theorem takes_null (n : Nat) : Takes (readValue? (n + 1)) "null" .null := by
  intro front rest blank _
  show readValue? (n + 1) (front ++ 'n' :: 'u' :: 'l' :: 'l' :: rest) = _
  simp [readValue?, next?_append blank (show isBlank 'n' = false from rfl)]

theorem takes_int (k : Int) (n : Nat) : Takes (readValue? (n + 1)) (toString k) (.int k) := by
  intro front rest blank ends
  obtain ⟨c, cs, hrepr, hc⟩ := exists_toString_eq_cons k
  have reads := readInt?_repr ends k
  rw [hrepr, List.cons_append] at reads ⊢
  obtain ⟨visible, quote, list, object, word⟩ := startsNumber hc
  simp [readValue?, next?_append blank visible, quote, list, object, word, reads]

theorem toList_quote (s : String) (rest : List Char) :
    (quote s).toList ++ rest = '"' :: (s.toList.flatMap escapeChar ++ '"' :: rest) := by
  simp [quote]

theorem takes_text (s : String) (n : Nat) : Takes (readValue? (n + 1)) (quote s) (.text s) := by
  intro front rest blank _
  rw [toList_quote]
  simp [readValue?, next?_append blank (show isBlank '"' = false from rfl), readText?_quote]

/-- A value is read as it was written, in as many steps as the text has
characters. -/
theorem takes_render (v : Json) (level : Nat) {n : Nat} (enough : (render level v).length ≤ n) :
    Takes (readValue? n) (render level v) v := by
  induction v using induction generalizing level n with
  | null =>
    rw [render] at enough ⊢
    obtain ⟨n, rfl⟩ := exists_succ_of_le enough (by decide)
    exact takes_null n
  | int k =>
    rw [render] at enough ⊢
    obtain ⟨c, cs, hrepr, -⟩ := exists_toString_eq_cons k
    obtain ⟨n, rfl⟩ := exists_succ_of_le enough (by rw [← String.length_toList, hrepr]; simp)
    exact takes_int k n
  | text s =>
    rw [render] at enough ⊢
    obtain ⟨n, rfl⟩ := exists_succ_of_le enough (by
      rw [← String.length_toList, ← List.append_nil (quote s).toList, toList_quote]
      simp)
    exact takes_text s n
  | list items ih =>
    rw [render, renderItems_eq_map] at enough ⊢
    obtain ⟨shorter, fewer⟩ := length_bracketed '[' ']' level (items.map (render (level + 1)))
    obtain ⟨n, rfl⟩ := exists_succ_of_le enough (Nat.zero_lt_of_lt fewer)
    rw [List.length_map] at fewer
    show Takes (readValue? (n + 1)) (bracketed (String.singleton '[') (String.singleton ']') level
      (items.map (render (level + 1)))) (.list items)
    refine takes_bracketed (by decide) rfl ?_ (readValue?_closing n) ?_
      (Nat.le_of_lt_succ (Nat.lt_of_lt_of_le fewer enough))
    · intro front cs blank
      simp [readValue?, next?_append blank (show isBlank '[' = false from rfl)]
    · intro v hv
      refine ih v hv (level + 1) (Nat.le_of_lt_succ (Nat.lt_of_lt_of_le ?_ enough))
      exact shorter _ (List.mem_map_of_mem hv)
  | object fields ih =>
    rw [render, renderFields_eq_map] at enough ⊢
    obtain ⟨shorter, fewer⟩ :=
      length_bracketed '\x7b' '\x7d' level (fields.map (renderField (level + 1)))
    obtain ⟨n, rfl⟩ := exists_succ_of_le enough (Nat.zero_lt_of_lt fewer)
    rw [List.length_map] at fewer
    show Takes (readValue? (n + 1)) (bracketed (String.singleton '\x7b') (String.singleton '\x7d')
      level (fields.map (renderField (level + 1)))) (.object fields)
    refine takes_bracketed (by decide) rfl ?_ (readField?_closing (readValue? n)) ?_
      (Nat.le_of_lt_succ (Nat.lt_of_lt_of_le fewer enough))
    · intro front cs blank
      simp [readValue?, next?_append blank (show isBlank '\x7b' = false from rfl)]
    · rintro ⟨k, v⟩ hf
      have whole := shorter _ (List.mem_map_of_mem hf)
      refine takes_field k (ih (k, v) hf (level + 1) (Nat.le_of_lt_succ ?_))
      refine Nat.lt_of_le_of_lt ?_ (Nat.lt_of_lt_of_le whole enough)
      rw [renderField, String.length_append]
      exact Nat.le_add_left ..

/-- The text of a value is read as that value. -/
theorem read?_render (v : Json) : read? (render 0 v) = some v := by
  have reads := takes_render v 0 (Nat.le_refl _) [] [] rfl (by simp [EndsNumber])
  rw [List.nil_append, List.append_nil] at reads
  rw [read?, reads]
  rfl

end StateCoverage.Text.Json
