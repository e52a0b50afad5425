import Mathlib.Data.List.Basic
import StateCoverage.Settings.Reading

/-!
# Values that name a severity

A severity is looked up by the plain text of a value, in small letters.  Other
values than texts have a plain text as well, but it is never the word for a
severity: it has a character that is no letter, or it is one of a few words.

* `exists_isMark_plain` — what the plain text of such a value looks like.
* `Severity.ofValue?_eq_ok_iff` — only a text names a severity.
-/

namespace StateCoverage

/-- A character of ASCII that is no letter.  Neither case nor a severity has
anything to do with it. -/
def IsMark (c : Char) : Prop :=
  c.toNat < 128 ∧ ¬(65 ≤ c.toNat ∧ c.toNat ≤ 90) ∧ ¬(97 ≤ c.toNat ∧ c.toNat ≤ 122)

instance (c : Char) : Decidable (IsMark c) := inferInstanceAs (Decidable (_ ∧ _))

/-- Digits are marks in this sense. -/
theorem isMark_of_isDigit {c : Char} (h : c.isDigit = true) : IsMark c := by
  obtain ⟨hzero, hnine⟩ := Char.isDigit_iff_toNat.1 h
  have zero : '0'.toNat = 48 := rfl
  have nine : '9'.toNat = 57 := rfl
  refine ⟨?_, ?_, ?_⟩ <;> omega

theorem smallLetter_of_isMark {c : Char} (h : IsMark c) : Text.smallLetter c = c := by
  obtain ⟨hascii, hupper, -⟩ := h
  have same : c.toLower = c := by
    refine dif_neg ?_
    rintro ⟨hle, hle'⟩
    exact hupper ⟨UInt32.le_iff_toNat_le.1 hle, UInt32.le_iff_toNat_le.1 hle'⟩
  rw [Text.smallLetter, if_pos hascii, same]

/-- Small letters are made of capitals only: a mark stays where it is. -/
theorem mem_lowercaseAfter {c : Char} {cs : List Char} (hc : IsMark c) (h : c ∈ cs)
    (before : List Char) : c ∈ Text.lowercaseAfter before cs := by
  induction cs generalizing before with
  | nil => cases h
  | cons d cs ih =>
    rw [Text.lowercaseAfter, List.mem_append]
    rcases List.mem_cons.1 h with rfl | h
    · left
      have plain : c ≠ 'İ' ∧ c ≠ 'Σ' := by
        constructor <;> rintro rfl <;> exact absurd hc.1 (by decide)
      simp [plain.1, plain.2, smallLetter_of_isMark hc]
    · exact .inr (ih h _)

/-- A text with a mark in it is no word for a severity. -/
theorem lowercase_ne_label {c : Char} {cs : List Char} (hc : IsMark c) (h : c ∈ cs)
    (s : Severity) : Text.lowercase cs ≠ s.label.toList := by
  intro heq
  have hmem : c ∈ s.label.toList := heq ▸ mem_lowercaseAfter hc h []
  have letters : s.label.toList.all (fun d => !decide (IsMark d)) = true := by
    cases s <;> decide
  have hletter := List.all_eq_true.1 letters c hmem
  simp [hc] at hletter

theorem exists_isMark_repr (n : Nat) : ∃ c ∈ n.repr.toList, IsMark c := by
  obtain ⟨c, hc⟩ := List.exists_mem_of_ne_nil _ (Nat.toDigits_ne_nil (n := n) (b := 10))
  rw [Nat.toList_repr]
  exact ⟨c, hc, isMark_of_isDigit (Nat.isDigit_of_mem_toDigits (by omega) (by omega) hc)⟩

theorem exists_isMark_digits (d : Decimal.Digits) :
    ∃ c ∈ (d.render .standard).toList, IsMark c := by
  rw [Decimal.Digits.render]
  dsimp only
  split
  · split <;> exact ⟨'.', by simp, by decide⟩
  · obtain ⟨c, hc, hmark⟩ := exists_isMark_repr (d.point - 1).natAbs
    exact ⟨c, by rw [String.toList_append]; exact List.mem_append_right _ hc, hmark⟩

/-- A float is written with a point or a sign, or it is one of two words. -/
theorem exists_isMark_render (x : Float) :
    (∃ c ∈ (Decimal.render .standard x).toList, IsMark c) ∨
      Decimal.render .standard x ∈ ["inf", "nan"] := by
  rw [Decimal.render]
  dsimp only
  split
  · split
    · split
      · exact .inl ⟨'-', by simp, by decide⟩
      · exact .inr (by simp [Decimal.Style.standard])
    · exact .inr (by simp [Decimal.Style.standard])
  · split
    · exact .inl ⟨'.', by simp, by decide⟩
    · left
      obtain ⟨c, hc, hmark⟩ := exists_isMark_digits _
      exact ⟨c, by rw [String.toList_append]; exact List.mem_append_right _ hc, hmark⟩

/-- The plain text of a value that is no text has a mark in it or is one of five
words. -/
theorem exists_isMark_plain {v : Value} (h : ∀ s, v ≠ .text s) :
    (∃ c ∈ v.plain.toList, IsMark c) ∨ v.plain ∈ ["None", "True", "False", "inf", "nan"] := by
  cases v with
  | null => exact .inr (by simp [Value.plain, Value.shown])
  | bool b => cases b <;> exact .inr (by simp [Value.plain, Value.shown])
  | int n =>
    left
    cases n with
    | ofNat n => exact exists_isMark_repr n
    | negSucc n => exact ⟨'-', by simp [Value.plain, Value.shown, toString, Int.repr], by decide⟩
  | float x =>
    have plain : (Value.float x).plain = Decimal.render .standard x := by
      simp [Value.plain, Value.shown]
    rw [plain]
    obtain h | h := exists_isMark_render x
    · exact .inl h
    · exact .inr (List.mem_append_right ["None", "True", "False"] h)
  | text s => exact absurd rfl (h s)
  | bytes bs =>
    have quote : ∀ cs, IsMark (Text.quoteFor cs) := by
      intro cs
      rw [Text.quoteFor]
      split <;> decide
    refine .inl ⟨Text.quoteFor (bs.map fun b => Char.ofNat b.toNat), ?_, quote _⟩
    simp [Value.plain, Value.shown, Text.quotedBytes]
  | date d => exact .inl ⟨'-', by simp [Value.plain, Date.plain, toString], by decide⟩
  | timestamp t => exact .inl ⟨' ', by simp [Value.plain, Timestamp.plain], by decide⟩
  | list items => exact .inl ⟨'[', by simp [Value.plain, Value.shown], by decide⟩
  | pair a b => exact .inl ⟨'(', by simp [Value.plain, Value.shown], by decide⟩
  | set items =>
    cases items with
    | nil => exact .inl ⟨'(', by simp [Value.plain, Value.shown], by decide⟩
    | cons v vs => exact .inl ⟨'\x7b', by simp [Value.plain, Value.shown], by decide⟩
  | mapping entries => exact .inl ⟨'\x7b', by simp [Value.plain, Value.shown], by decide⟩
  | folded b =>
    cases b
    · exact .inl ⟨'[', by simp [Value.plain, Value.shown], by decide⟩
    · exact .inl ⟨'\x7b', by simp [Value.plain, Value.shown], by decide⟩

theorem Severity.ofLabel?_eq_some_iff {label : String} {s : Severity} :
    Severity.ofLabel? label = some s ↔ s.label = label := by
  rw [Severity.ofLabel?, Severity.all]
  constructor
  · intro h
    simpa using List.find?_some h
  · rintro rfl
    cases s <;> decide

/-- The value is the word for a severity, in capitals or not. -/
inductive Value.NamesSeverity : Value → Severity → Prop
  | error {word : String} (small : Text.lowercase word.toList = "error".toList) :
      NamesSeverity (.text word) .error
  | warning {word : String} (small : Text.lowercase word.toList = "warning".toList) :
      NamesSeverity (.text word) .warning

/-- The words are the labels of the severities. -/
theorem Value.namesSeverity_iff {v : Value} {s : Severity} :
    v.NamesSeverity s ↔ ∃ word, v = .text word ∧ Text.lowercase word.toList = s.label.toList := by
  constructor
  · rintro (⟨small⟩ | ⟨small⟩)
    · exact ⟨_, rfl, small⟩
    · exact ⟨_, rfl, small⟩
  · rintro ⟨word, rfl, small⟩
    cases s with
    | error => exact .error small
    | warning => exact .warning small

/-- A value names one severity at most. -/
theorem Value.NamesSeverity.unique {v : Value} {s s' : Severity} (h : v.NamesSeverity s)
    (h' : v.NamesSeverity s') : s = s' := by
  obtain ⟨small⟩ | ⟨small⟩ := h <;> obtain ⟨small'⟩ | ⟨small'⟩ := h'
  · rfl
  · exact absurd (small.symm.trans small') (by decide)
  · exact absurd (small.symm.trans small') (by decide)
  · rfl

/-- No value but a text has the word for a severity as its plain text. -/
theorem lowercase_plain_ne_label {v : Value} (h : ∀ s, v ≠ .text s) (s : Severity) :
    Text.lowercase v.plain.toList ≠ s.label.toList := by
  obtain ⟨c, hc, hmark⟩ | hword := exists_isMark_plain h
  · exact lowercase_ne_label hmark hc s
  · simp only [List.mem_cons, List.not_mem_nil, or_false] at hword
    rcases hword with hword | hword | hword | hword | hword <;> rw [hword] <;> cases s <;> decide

/-- Only a text names a severity, whatever other values look like as text. -/
theorem Severity.ofValue?_eq_ok_iff {v : Value} {s : Severity} :
    Severity.ofValue? v = .ok s ↔ v.NamesSeverity s := by
  have words : Severity.ofValue? v = .ok s ↔
      v.isShowable = true ∧ Text.lowercase v.plain.toList = s.label.toList := by
    have label : ∀ cs : List Char,
        Severity.ofLabel? (String.ofList cs) = some s ↔ cs = s.label.toList := by
      intro cs
      rw [Severity.ofLabel?_eq_some_iff, ← String.toList_inj, String.toList_ofList, eq_comm]
    rw [← label, Severity.ofValue?]
    cases v.isShowable with
    | false => simp
    | true =>
      simp only [Bool.not_true, Bool.false_eq_true, if_false, true_and]
      split <;> simp [*]
  rw [words, Value.namesSeverity_iff]
  constructor
  · rintro ⟨-, hlabel⟩
    by_contra hnames
    refine lowercase_plain_ne_label ?_ s hlabel
    rintro word rfl
    exact hnames ⟨word, rfl, hlabel⟩
  · rintro ⟨word, rfl, hlabel⟩
    exact ⟨rfl, hlabel⟩

end StateCoverage
