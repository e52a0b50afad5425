/-!
# Glob patterns

A glob matches a whole text: `*` any characters, `?` any one, `[...]` one of a
set and `[!...]` one that is not in it; all else stands for itself, and so does
a bracket that is never closed.

In a set a hyphen between two characters makes a range.  It is a plain
character at the start, at the end and right after a range.  A range that runs
backwards is empty: its two ends are left out with it, and the `!` that negates
a set is looked for in what is left.

* `Glob.ofText` — the items of a pattern.
* `Glob.accepts` — whether it matches a text.
* `matchesAny` — whether one of several patterns matches a path or the last
  segment of it.
-/

namespace StateCoverage

/-- A range of characters, both ends included. -/
abbrev CharRange := Char × Char

/-- One item of a glob. -/
inductive GlobItem where
  /-- Any characters, or none. -/
  | anything
  /-- Any one character. -/
  | anyChar
  /-- This character. -/
  | literal (c : Char)
  /-- One character in the given ranges, or outside all of them. -/
  | oneOf (isNegated : Bool) (ranges : List CharRange)
  deriving Repr, DecidableEq

/-- Whether an item can stand for one character. -/
def GlobItem.acceptsChar (c : Char) : GlobItem → Bool
  | .anything | .anyChar => true
  | .literal l => c = l
  | .oneOf isNegated ranges => (ranges.any fun r => r.1 ≤ c && c ≤ r.2) != isNegated

/-- A glob, from left to right. -/
structure Glob where
  items : List GlobItem
  deriving Repr, DecidableEq

namespace Glob

/-! ## Sets -/

/-- Cuts the text of a set at the hyphens that make ranges.  `least` is the
number of characters that must stand before the next one. -/
def cutAtRanges (least : Nat) (cs : List Char) : List (List Char) :=
  let front := cs.take least ++ (cs.drop least).takeWhile (· ≠ '-')
  match _ : cs.drop front.length with
  | [] => [cs]
  | _ :: rest => front :: cutAtRanges 2 rest
termination_by cs.length
decreasing_by
  rename_i h
  have := congrArg List.length h
  simp at this
  omega

/-- A hyphen at the very end makes no range. -/
def keepLastHyphen : List (List Char) → List (List Char)
  | [] => []
  | [cs] => [cs]
  | [cs, []] => [cs ++ ['-']]
  | cs :: rest => cs :: keepLastHyphen rest

/-- Leaves out ranges that run backwards, from right to left. -/
def dropEmptyRanges : List (List Char) → List (List Char)
  | [] => []
  | cs :: rest =>
      match dropEmptyRanges rest with
      | (d :: ds) :: more =>
          match cs.getLast? with
          | some l => if d < l then (cs.dropLast ++ ds) :: more else cs :: (d :: ds) :: more
          | none => cs :: (d :: ds) :: more
      | other => cs :: other

/-- The ranges that the pieces of a set make: the last character of a piece with
the first of the next, and every other character by itself. -/
def rangesOf : List (List Char) → List CharRange
  | [] => []
  | [cs] => cs.map fun c => (c, c)
  | cs :: (d :: ds) :: rest =>
      match cs.getLast? with
      | some l => cs.dropLast.map (fun c => (c, c)) ++ (l, d) :: rangesOf (ds :: rest)
      | none => (d, d) :: rangesOf (ds :: rest)
  | cs :: [] :: rest => cs.map (fun c => (c, c)) ++ rangesOf rest
termination_by pieces => pieces.length

/-- Takes the mark of a negated set off its pieces.  A hyphen that comes first
after the mark makes no range. -/
def splitMark : List (List Char) → Bool × List (List Char)
  | ['!'] :: cs :: rest => (true, ('-' :: cs) :: rest)
  | ('!' :: cs) :: rest => (true, cs :: rest)
  | pieces => (false, pieces)

/-- The item of a set, given the text between its brackets. -/
def setItem (cs : List Char) : GlobItem :=
  let least := if cs.head? = some '!' then 2 else 1
  let (isNegated, pieces) := splitMark (dropEmptyRanges (keepLastHyphen (cutAtRanges least cs)))
  .oneOf isNegated (rangesOf pieces)

/-- The text of the set that starts after an opening bracket, and what follows
its closing one.  A closing bracket right at the start is part of the set. -/
def setText? (cs : List Char) : Option (List Char × List Char) :=
  let mark := cs.take (if cs.head? = some '!' then 1 else 0)
  let first := (cs.drop mark.length).take (if (cs.drop mark.length).head? = some ']' then 1 else 0)
  let start := mark ++ first
  let body := (cs.drop start.length).takeWhile (· ≠ ']')
  match cs.drop (start.length + body.length) with
  | [] => none
  | _ :: rest => some (start ++ body, rest)

/-! ## Globs -/

/-- The item at the front of a pattern, given its first character, and the
rest. -/
def firstItem (c : Char) (cs : List Char) : GlobItem × List Char :=
  if c = '*' then (.anything, cs)
  else if c = '?' then (.anyChar, cs)
  else if c = '[' then
    match setText? cs with
    | some (set, rest) => (setItem set, rest)
    | none => (.literal c, cs)
  else (.literal c, cs)

theorem length_setText? {cs set rest : List Char} (h : setText? cs = some (set, rest)) :
    rest.length < cs.length := by
  unfold setText? at h
  simp only at h
  split at h
  · simp at h
  · rename_i hd
    simp only [Option.some.injEq, Prod.mk.injEq] at h
    obtain ⟨_, rfl⟩ := h
    have := congrArg List.length hd
    simp only [List.length_drop, List.length_cons] at this
    omega

theorem length_firstItem (c : Char) (cs : List Char) :
    (firstItem c cs).2.length ≤ cs.length := by
  unfold firstItem
  repeat' split
  all_goals try simp
  rename_i h
  exact Nat.le_of_lt (length_setText? h)

/-- The items of a pattern. -/
def itemsOf (cs : List Char) : List GlobItem :=
  match cs with
  | [] => []
  | c :: cs => (firstItem c cs).1 :: itemsOf (firstItem c cs).2
termination_by cs.length
decreasing_by
  have := length_firstItem c cs
  simp
  omega

/-- The glob that a text writes. -/
def ofText (pattern : String) : Glob := ⟨itemsOf pattern.toList⟩

/-- For every end of a text, from the longest to the empty one, whether the
items match it. -/
def matchesEnds (cs : List Char) : List GlobItem → List Bool
  | [] => cs.map (fun _ => false) ++ [true]
  | .anything :: items =>
      (matchesEnds cs items).foldr (fun b ends => (b || ends.headD false) :: ends) []
  | item :: items =>
      List.zipWith (fun c b => item.acceptsChar c && b) cs (matchesEnds cs items).tail ++ [false]

/-- Whether a glob matches a whole text. -/
def accepts (g : Glob) (text : String) : Bool :=
  (matchesEnds text.toList g.items).headD false

end Glob

/-! ## Paths -/

/-- A path with slashes only. -/
def withSlashes (path : String) : String :=
  path.map fun c => if c = '\\' then '/' else c

/-- The last segment of a path, which is empty after a final slash. -/
def lastSegment (path : String) : String :=
  String.ofList (path.toList.reverse.takeWhile (· ≠ '/')).reverse

/-- Whether a pattern matches a path or its last segment; backslashes in the
path count as slashes. -/
def matchesPath (path pattern : String) : Bool :=
  let g := Glob.ofText pattern
  g.accepts (withSlashes path) || g.accepts (lastSegment (withSlashes path))

/-- Whether one of several patterns matches a path. -/
def matchesAny (path : String) (patterns : List String) : Bool :=
  patterns.any (matchesPath path)

end StateCoverage
