import MediaNaming.Criterion.Decision
import MediaNaming.Proofs.Parameter

/-!
Negation. An exclamation mark in front of a parameter turns the answer around, whatever is asked,
except where a number is put in order: there it changes nothing. A test without an answer has none
when it is negated either, and for the same reason.
-/

namespace MediaNaming

variable {p : Text} {op : Comparison}

/-! ### Negated comparisons -/

namespace Comparison

theorem negated_ofText (htrim : p.trim = p) (hmark : p.head? ≠ some '!') :
    (ofText p).negated = false := by
  rw [ofText_of_head? (by rwa [htrim])]

/-- The mark is all that a negated parameter differs in. -/
theorem ofText_negation_eq (htrim : p.trim = p) (hmark : p.head? ≠ some '!') :
    ofText ('!' :: p) = { ofText p with negated := true } := by
  rw [ofText_negation, ofText_of_head? (by rwa [htrim]), Text.trimEnd_of_trim_eq htrim, htrim]

theorem relation_ofText_eq_none_iff (htrim : p.trim = p) (hmark : p.head? ≠ some '!') :
    (ofText p).relation = none ↔ ¬Orders p := by
  rw [ofText_of_head? (by rwa [htrim]), htrim, splitRelation_eq_none_iff]

theorem answer_negated (h : op.negated = false) (equal : Bool) :
    { op with negated := true }.answer equal = !op.answer equal := by
  simp [answer, h]

theorem compare_negated_of_none (h : op.negated = false) (hrelation : op.relation = none)
    (actual expected : Int) :
    { op with negated := true }.compare actual expected = !op.compare actual expected := by
  simp [compare, hrelation, answer, h]

/-- Next to an operator the mark is not looked at. -/
theorem compare_negated_of_ne_none (hrelation : op.relation ≠ none) (actual expected : Int) :
    { op with negated := true }.compare actual expected = op.compare actual expected := by
  obtain ⟨r, hr⟩ := Option.ne_none_iff_exists'.mp hrelation
  simp [compare, hr]

end Comparison

/-! ### Negated tests -/

/-- Where the answers are turned around, the outcome is. -/
theorem mapError_missing_map_not {α : Type} {x : Except Datum α} {g g' : α → Bool}
    (h : ∀ a, g' a = !g a) :
    (x.map g').mapError TestFault.missing =
      ((x.map g).mapError TestFault.missing).map (!·) := by
  cases x with
  | error what => rfl
  | ok a => exact congrArg Except.ok (h a)

namespace Figure

theorem ask_negated_of_none (f : Figure) (b : Bundle) (h : op.negated = false)
    (hrelation : op.relation = none) :
    f.ask { op with negated := true } b = (f.ask op b).map (!·) := by
  unfold ask
  cases Text.int64? op.value with
  | none => rfl
  | some n =>
      apply mapError_missing_map_not
      intro v
      exact Comparison.compare_negated_of_none h hrelation v n

theorem ask_negated_of_ne_none (f : Figure) (b : Bundle) (hrelation : op.relation ≠ none) :
    f.ask { op with negated := true } b = f.ask op b := by
  unfold ask
  simp only [Comparison.compare_negated_of_ne_none hrelation]

end Figure

namespace Criterion

/-- A number is put in order. -/
def PutsInOrder (k : Criterion) (p : Text) : Prop :=
  (∃ f, k = .figure f) ∧ Comparison.Orders p

theorem ask_negation_of_putsInOrder {k : Criterion} (h : k.PutsInOrder p) (htrim : p.trim = p)
    (hmark : p.head? ≠ some '!') (b : Bundle) : k.ask ('!' :: p) b = k.ask p b := by
  obtain ⟨⟨f, rfl⟩, horders⟩ := h
  have hrelation : (Comparison.ofText p).relation ≠ none :=
    fun hnone => (Comparison.relation_ofText_eq_none_iff htrim hmark).mp hnone horders
  simp only [ask, Comparison.ofText_negation_eq htrim hmark, hrelation, false_and, and_false,
    if_false]
  exact f.ask_negated_of_ne_none b hrelation

theorem ask_negation_of_not_putsInOrder {k : Criterion} (h : ¬k.PutsInOrder p)
    (htrim : p.trim = p) (hmark : p.head? ≠ some '!') (b : Bundle) :
    k.ask ('!' :: p) b = (k.ask p b).map (!·) := by
  have hplain : Comparison.ofPlainText p = ⟨false, none, p⟩ := by
    rw [Comparison.ofPlainText_of_head? (by rwa [htrim]), htrim]
  have hnegated : Comparison.ofPlainText ('!' :: p) = ⟨true, none, p⟩ := by
    rw [Comparison.ofPlainText_negation, htrim]
  have hanswer (equal : Bool) : Comparison.answer ⟨true, none, p⟩ equal =
      !Comparison.answer ⟨false, none, p⟩ equal := Comparison.answer_negated rfl equal
  cases k with
  | figure f =>
      have hrelation : (Comparison.ofText p).relation = none :=
        (Comparison.relation_ofText_eq_none_iff htrim hmark).mpr fun horders => h ⟨⟨f, rfl⟩, horders⟩
      have hneg := Comparison.negated_ofText htrim hmark
      simp only [ask, Comparison.ofText_negation_eq htrim hmark]
      split
      · simp only [Comparison.answer_negated hneg]
        rfl
      · exact f.ask_negated_of_none b hneg hrelation
  | wording w =>
      simp only [ask, hplain, hnegated]
      exact mapError_missing_map_not fun t => hanswer _
  | listing l =>
      simp only [ask, hplain, hnegated]
      exact mapError_missing_map_not fun items => hanswer _
  | shown =>
      simp only [ask, hplain, hnegated]
      cases Placeholder.ofName? p with
      | none => rfl
      | some q => exact congrArg Except.ok (hanswer _)
  | manual =>
      simp only [ask, hplain, hnegated]
      exact congrArg Except.ok (hanswer _)
  | linked =>
      simp only [ask, hplain, hnegated]
      exact congrArg Except.ok (hanswer _)

/-- Negating a test that has no answer gives no answer for the same reason, so neither of the two
passes. Otherwise it turns the answer around, except where a number is put in order. -/
theorem ask_negation (k : Criterion) (b : Bundle) (htrim : p.trim = p)
    (hmark : p.head? ≠ some '!') :
    (∀ fault, k.ask p b = .error fault → k.ask ('!' :: p) b = .error fault ∧
      k.holds p b = false ∧ k.holds ('!' :: p) b = false) ∧
    ∀ answer, k.ask p b = .ok answer →
      (k.PutsInOrder p → k.ask ('!' :: p) b = .ok answer) ∧
      (¬k.PutsInOrder p → k.ask ('!' :: p) b = .ok !answer) := by
  refine ⟨fun fault hfault => ?_, fun answer hanswer => ⟨fun h => ?_, fun h => ?_⟩⟩
  · have hnegated : k.ask ('!' :: p) b = .error fault := by
      by_cases h : k.PutsInOrder p
      · rw [ask_negation_of_putsInOrder h htrim hmark, hfault]
      · rw [ask_negation_of_not_putsInOrder h htrim hmark, hfault, Except.map]
    exact ⟨hnegated, by rw [holds, hfault], by rw [holds, hnegated]⟩
  · rw [ask_negation_of_putsInOrder h htrim hmark, hanswer]
  · rw [ask_negation_of_not_putsInOrder h htrim hmark, hanswer, Except.map]

/-- A file of a second version, of which the group is not known. -/
def versionedSample : Bundle where
  file := { name := "a.mkv".toList, ed2k := [], size := 1 }
  release := some { version := 2 }

/-- Next to an operator the mark does nothing, in front of the word for a missing group it does. -/
theorem ask_negation_versionedSample :
    (Text.trim ">= 2".toList = ">= 2".toList ∧ ">= 2".toList.head? ≠ some '!' ∧
      (figure .version).ask ">= 2".toList versionedSample = .ok true ∧
      (figure .version).ask "!>= 2".toList versionedSample = .ok true) ∧
    (Text.trim "Unknown".toList = "Unknown".toList ∧ "Unknown".toList.head? ≠ some '!' ∧
      (figure .groupId).ask "Unknown".toList versionedSample = .ok true ∧
      (figure .groupId).ask "!Unknown".toList versionedSample = .ok false) := by
  have hversion : (figure .version).ask ">= 2".toList versionedSample = .ok true := rfl
  have hgroup : (figure .groupId).ask "Unknown".toList versionedSample = .ok true := rfl
  have horders : (figure .version).PutsInOrder ">= 2".toList := ⟨⟨_, rfl⟩, '>', rfl, .inr rfl⟩
  have hword : ¬(figure .groupId).PutsInOrder "Unknown".toList := by
    rintro ⟨-, c, hc, hmark⟩
    obtain rfl : 'U' = c := Option.some.inj hc
    revert hmark
    decide
  refine ⟨⟨rfl, by decide, hversion, ?_⟩, rfl, by decide, hgroup, ?_⟩
  · exact ((ask_negation _ _ rfl (by decide)).2 true hversion).1 horders
  · exact ((ask_negation _ _ rfl (by decide)).2 true hgroup).2 hword

end Criterion

end MediaNaming
