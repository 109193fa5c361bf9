import MediaNaming.Text.Basic
import MediaNaming.Text.CaseTable

/-!
The full case mappings of Unicode. A character may have a capital or small form of several
letters, and a capital sigma that ends a word becomes a final one.
-/

namespace MediaNaming.Text

def CaseShift.map? (s : CaseShift) (n : Nat) : Option Nat :=
  if s.first ≤ n ∧ n ≤ s.last ∧ (n - s.first) % s.step = 0 then some (n + s.shift).toNat else none

/-- The other form of a character outside ASCII: several letters if `long` lists it, else the
first shift that covers it, else the character itself. -/
def otherCase (long : List (Nat × Nat × List Nat)) (shifts : List CaseShift) (c : Char) : Text :=
  match long.lookup c.toNat with
  | some (first, others) => Char.ofNat first :: others.map Char.ofNat
  | none =>
    match shifts.findSome? (·.map? c.toNat) with
    | some n => [Char.ofNat n]
    | none => [c]

theorem otherCase_ne_nil (long : List (Nat × Nat × List Nat)) (shifts : List CaseShift) (c : Char) :
    otherCase long shifts c ≠ [] := by
  unfold otherCase
  split
  · simp
  · split <;> simp

def upperChar (c : Char) : Text :=
  if c.toNat < 128 then [c.toUpper] else otherCase longCapitals toUpperShifts c

def lowerChar (c : Char) : Text :=
  if c.toNat < 128 then [c.toLower] else otherCase longSmalls toLowerShifts c

theorem upperChar_ne_nil (c : Char) : upperChar c ≠ [] := by
  unfold upperChar
  split
  · simp
  · exact otherCase_ne_nil _ _ _

theorem lowerChar_ne_nil (c : Char) : lowerChar c ≠ [] := by
  unfold lowerChar
  split
  · simp
  · exact otherCase_ne_nil _ _ _

def inRanges (ranges : List (Nat × Nat)) (c : Char) : Bool :=
  ranges.any fun (first, last) => first ≤ c.toNat && c.toNat ≤ last

/-- Letters that have a case. -/
def isCased (c : Char) : Bool :=
  if c.toNat < 128 then c.isAlpha else inRanges casedRanges c

/-- Marks that may stand inside a word without ending it. -/
def isCaseIgnorable (c : Char) : Bool :=
  if c.toNat < 128 then ['\'', '.', ':', '^', '\x60'].contains c
  else inRanges caseIgnorableRanges c

/-- A cased letter comes first once the ignorable marks are passed over. -/
def meetsCased (t : Text) : Bool := ((t.dropWhile isCaseIgnorable).head?).any isCased

/-- The text in capitals. -/
def upper (t : Text) : Text := t.flatMap upperChar

/-- The small letters of a text that stands after `before`, which is given in reverse. -/
def lowerAfter (before : Text) : Text → Text
  | [] => []
  | c :: rest =>
    (if c = 'Σ' then [if meetsCased before && !meetsCased rest then 'ς' else 'σ']
      else lowerChar c) ++ lowerAfter (c :: before) rest

/-- The text in small letters. -/
def lower (t : Text) : Text := lowerAfter [] t

/-- Equality up to the case of all letters. -/
def sameWords (s t : Text) : Bool := lower s == lower t

end MediaNaming.Text
