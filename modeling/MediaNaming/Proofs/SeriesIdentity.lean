import Mathlib.Algebra.Group.Nat.Defs
import MediaNaming.Proofs.FigureTest

/-!
The identifiers of series in tests. An identifier is a word of 64 bits without a sign, and a test
compares it with a signed one, so the identifiers that no signed word holds count as the largest
that one does. Below this limit a test tells any two identifiers apart and puts them in order as
integers; from the limit on it takes all of them for one.
-/

namespace MediaNaming

theorem Text.Numeral.value_eq_of_toText_eq {w w' : Text.Numeral} (h : w.toText = w'.toText) :
    w.value = w'.value := by
  have hvalue := w.int?_toText
  rw [h, w'.int?_toText] at hvalue
  exact (Option.some.inj hvalue).symm

namespace Comparison

variable {r : Option Relation} {w : Text.Numeral}

/-- An operator and a numeral spell no other number than the numeral does. -/
theorem SpellsNumber.fits_numeral {op : Comparison} {n : Int}
    (h : SpellsNumber (symbol r ++ w.toText) op n) : -2 ^ 63 ≤ w.value ∧ w.value < 2 ^ 63 := by
  have hop : ofText (symbol r ++ w.toText) = ⟨false, r, w.toText⟩ :=
    (spells_bare ⟨false, r, w.toText⟩).ofText_eq (isPlain_numeral w)
  rw [h.ofText_eq] at hop
  obtain ⟨w', hw', rfl⟩ := h.numeral
  rw [hop] at hw'
  have hfits := h.fits
  rwa [Text.Numeral.value_eq_of_toText_eq hw'] at hfits

end Comparison

namespace Criterion

open Comparison

variable {b b' : Bundle} {x y : UInt64}

/-- A test accepts an identifier if the numeral fits a signed word and the identifier, cut at the
largest one, is accepted. -/
theorem holds_seriesId_iff (r : Option Relation) (w : Text.Numeral) (hx : b.seriesId? = some x) :
    (figure .seriesId).holds (symbol r ++ w.toText) b = true ↔
      (-2 ^ 63 ≤ w.value ∧ w.value < 2 ^ 63) ∧
        Accepts ⟨false, r, w.toText⟩ (min x.toNat (2 ^ 63 - 1)) w.value := by
  have hstored : Figure.seriesId.stored? b = some (x.toNat : Int) := by
    rw [Figure.stored?, hx, Option.map_some]
  by_cases hfits : -2 ^ 63 ≤ w.value ∧ w.value < 2 ^ 63
  · have hmax : Int64.maxValue.toInt = 2 ^ 63 - 1 := by decide
    have hvalue := Figure.value_eq_counted hstored
    rw [holds_figure_of_spellsNumber (spellsNumber_numeral r hfits) hvalue, compare_eq_true_iff,
      and_iff_right hfits]
    rw [Figure.counted, if_pos rfl, hmax]
  · have hfails : (figure .seriesId).holds (symbol r ++ w.toText) b = false := by
      refine holds_figure_eq_false (fun h => absurd h.1 (by decide)) (.inr ?_)
      rintro ⟨op, n, hnumber⟩
      exact hfits hnumber.fits_numeral
    rw [hfails]
    exact iff_of_false Bool.false_ne_true fun h => hfits h.1

/-- At most one identifier passes a test of equality with a numeral, unless the numeral is the
largest signed word: that one is passed by all identifiers from there on. A test of being above a
numeral that fits a signed word is exact, unless the numeral is the largest one: no identifier passes
that test. -/
theorem holds_seriesId_spec (w : Text.Numeral) (hx : b.seriesId? = some x)
    (hy : b'.seriesId? = some y) :
    (w.value ≠ 2 ^ 63 - 1 → (figure .seriesId).holds w.toText b = true →
      (figure .seriesId).holds w.toText b' = true → x = y) ∧
    (w.value = 2 ^ 63 - 1 →
      ((figure .seriesId).holds w.toText b = true ↔ 2 ^ 63 - 1 ≤ x.toNat)) ∧
    (-2 ^ 63 ≤ w.value → w.value < 2 ^ 63 - 1 →
      ((figure .seriesId).holds ('>' :: w.toText) b = true ↔ (x.toNat : Int) > w.value)) ∧
    (w.value = 2 ^ 63 - 1 → (figure .seriesId).holds ('>' :: w.toText) b = false) := by
  have hequal : (figure .seriesId).holds w.toText b = true ↔
      (-2 ^ 63 ≤ w.value ∧ w.value < 2 ^ 63) ∧ min (x.toNat : Int) (2 ^ 63 - 1) = w.value :=
    holds_seriesId_iff none w hx
  have hequal' : (figure .seriesId).holds w.toText b' = true ↔
      (-2 ^ 63 ≤ w.value ∧ w.value < 2 ^ 63) ∧ min (y.toNat : Int) (2 ^ 63 - 1) = w.value :=
    holds_seriesId_iff none w hy
  have habove : (figure .seriesId).holds ('>' :: w.toText) b = true ↔
      (-2 ^ 63 ≤ w.value ∧ w.value < 2 ^ 63) ∧ min (x.toNat : Int) (2 ^ 63 - 1) > w.value :=
    holds_seriesId_iff (some .greater) w hx
  refine ⟨fun hw hb hb' => ?_, fun hw => ?_, fun hlow hhigh => ?_, fun hw => ?_⟩
  · have hxw := (hequal.mp hb).2
    have hyw := (hequal'.mp hb').2
    exact UInt64.toNat_inj.mp (by omega)
  · rw [hequal, hw]
    omega
  · rw [habove]
    omega
  · rw [← Bool.not_eq_true, habove, hw]
    omega

/-- A file of a series with that identifier. -/
def identifiedSample (id : UInt64) : Bundle where
  file := { name := "a.mkv".toList, ed2k := [], size := 1 }
  series := some { id }

/-- The digits of the largest signed word. -/
def largestNumeral : Text.Numeral := ⟨.absent, 0, 9223372036854775807⟩

/-- Two identifiers that are equal to three are one, and an identifier beyond all signed words is
above three, but not above the largest of them. -/
theorem holds_seriesId_spec_identifiedSample :
    ((identifiedSample 3).seriesId? = some 3 ∧
      (figure .seriesId).holds "+003".toList (identifiedSample 3) = true ∧ (3 : UInt64) = 3) ∧
    ((identifiedSample 9223372036854775808).seriesId? = some 9223372036854775808 ∧
      (figure .seriesId).holds ">+003".toList (identifiedSample 9223372036854775808) = true ∧
      (figure .seriesId).holds largestNumeral.toText (identifiedSample 9223372036854775808) = true ∧
      (figure .seriesId).holds ('>' :: largestNumeral.toText)
        (identifiedSample 9223372036854775808) = false) := by
  have hthree : (figure .seriesId).holds "+003".toList (identifiedSample 3) = true := by decide
  have hsmall := @holds_seriesId_spec (identifiedSample 3) (identifiedSample 3) 3 3 ⟨.plus, 2, 3⟩
    rfl rfl
  have hlarge (w : Text.Numeral) := @holds_seriesId_spec (identifiedSample 9223372036854775808)
    (identifiedSample 9223372036854775808) 9223372036854775808 9223372036854775808 w rfl rfl
  refine ⟨⟨rfl, hthree, hsmall.1 (by decide) hthree hthree⟩, rfl, ?_, ?_, ?_⟩
  · exact ((hlarge ⟨.plus, 2, 3⟩).2.2.1 (by decide) (by decide)).mpr (by decide)
  · exact ((hlarge largestNumeral).2.1 rfl).mpr (by decide)
  · exact (hlarge largestNumeral).2.2.2 rfl

/-- The largest signed word is not only itself in a test, and what is above it does not pass for
that. -/
theorem not_forall_holds_seriesId :
    (¬∀ (w : Text.Numeral) (b b' : Bundle) (x y : UInt64), b.seriesId? = some x →
      b'.seriesId? = some y → (figure .seriesId).holds w.toText b = true →
        (figure .seriesId).holds w.toText b' = true → x = y) ∧
    ¬∀ (w : Text.Numeral) (b : Bundle) (x : UInt64), b.seriesId? = some x →
      -2 ^ 63 ≤ w.value → w.value < 2 ^ 63 →
        ((figure .seriesId).holds ('>' :: w.toText) b = true ↔ (x.toNat : Int) > w.value) := by
  refine ⟨fun h => ?_, fun h => ?_⟩
  · have hsame : (9223372036854775807 : UInt64) = 9223372036854775808 :=
      h largestNumeral (identifiedSample _) (identifiedSample _) _ _ rfl rfl (by decide) (by decide)
    exact absurd hsame (by decide)
  · have habove := h largestNumeral (identifiedSample 9223372036854775808) _ rfl (by decide)
      (by decide)
    revert habove
    decide

end Criterion

end MediaNaming
