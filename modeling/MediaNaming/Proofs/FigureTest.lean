import MediaNaming.Criterion.Decision
import MediaNaming.Proofs.NumeralForm
import MediaNaming.Proofs.Parameter

/-!
Tests on numbers are exact. The stored number and the written one are compared as integers; an
exclamation mark turns an equality around and has no effect next to an operator. Where nothing is
stored, or what is written is no numeral of 64 bits, a test fails, negated or not. Only the word for
a missing group is answered in another way.
-/

namespace MediaNaming

/-- The number as it is stored, if it is. -/
def Figure.stored? (f : Figure) (b : Bundle) : Option Int :=
  match f with
  | .seriesId => b.seriesId?.map fun id => (id.toNat : Int)
  | .groupId => (b.release.bind (·.groupId)).map fun id => (id.toNat : Int)
  | .version => b.release.map fun r => (r.version.toNat : Int)
  | .episodeNumber => b.firstEpisode?.map fun e => (e.number.toNat : Int)
  | .episodeCount => b.series.map fun s => (s.normalCount.toNat : Int)
  | .beginYear => (b.series.bind (·.beginYear)).map fun year => year.toInt
  | .bitDepth => b.file.bitDepth.map fun depth => (depth.toNat : Int)
  | .width => b.frameSize?.map fun size => (size.width.toNat : Int)
  | .height => b.frameSize?.map fun size => (size.height.toNat : Int)

/-- What a stored number counts as in a test. -/
def Figure.counted (f : Figure) (v : Int) : Int :=
  if f = .seriesId then min v Int64.maxValue.toInt else v

theorem Figure.counted_of_lt {f : Figure} {v : Int} (h : f = .seriesId → v < 2 ^ 63) :
    f.counted v = v := by
  have hmax : Int64.maxValue.toInt = 2 ^ 63 - 1 := by decide
  unfold counted
  split
  · next hf =>
    have hlt := h hf
    omega
  · rfl

theorem toOption_map_orMissing {α : Type} (what : Datum) (o : Option α) (g : α → Int) :
    ((orMissing what o).map g).toOption = o.map g := by
  cases o <;> rfl

theorem toOption_bind_orMissing {α β : Type} (what what' : Datum) (o : Option α)
    (o' : α → Option β) (g : β → Int) :
    (orMissing what o >>= fun a => orMissing what' (o' a) >>= fun c => pure (g c)).toOption =
      (o.bind o').map g := by
  cases o with
  | none => rfl
  | some a =>
      show (orMissing what' (o' a) >>= fun c => pure (g c)).toOption = (o' a).map g
      cases o' a <;> rfl

theorem Figure.toOption_value (f : Figure) (b : Bundle) :
    (f.value b).toOption = (f.stored? b).map f.counted := by
  -- The two data that may be missing from a record which is there take one step more.
  cases f <;> rw [stored?, Option.map_map]
  case groupId => exact toOption_bind_orMissing _ _ _ _ _
  case beginYear => exact toOption_bind_orMissing _ _ _ _ _
  all_goals exact toOption_map_orMissing _ _ _

namespace Figure

variable {f : Figure} {b : Bundle}

theorem value_eq_counted {v : Int} (h : f.stored? b = some v) : f.value b = .ok (f.counted v) := by
  have hvalue := f.toOption_value b
  rw [h, Option.map_some] at hvalue
  cases hx : f.value b with
  | error what =>
      rw [hx] at hvalue
      cases hvalue
  | ok x =>
      rw [hx] at hvalue
      rw [Option.some.inj hvalue]

theorem value_of_stored? {v : Int} (h : f.stored? b = some v) (hv : f = .seriesId → v < 2 ^ 63) :
    f.value b = .ok v := by
  rw [value_eq_counted h, counted_of_lt hv]

theorem exists_value_eq_error (h : f.stored? b = none) : ∃ what, f.value b = .error what := by
  have hvalue := f.toOption_value b
  rw [h, Option.map_none] at hvalue
  cases hx : f.value b with
  | error what => exact ⟨what, rfl⟩
  | ok x =>
      rw [hx] at hvalue
      cases hvalue

end Figure

/-! ### What a comparison asks for -/

namespace Comparison

/-- What a comparison asks of a stored number `v` and a written one `n`. -/
def Accepts (op : Comparison) (v n : Int) : Prop :=
  match op.relation, op.negated with
  | none, false => v = n
  | none, true => v ≠ n
  | some .greater, _ => v > n
  | some .greaterOrEqual, _ => v ≥ n
  | some .less, _ => v < n
  | some .lessOrEqual, _ => v ≤ n

theorem compare_eq_true_iff (op : Comparison) (v n : Int) :
    op.compare v n = true ↔ op.Accepts v n := by
  obtain ⟨negated, relation, value⟩ := op
  cases relation with
  | none => cases negated <;> simp [compare, answer, Accepts]
  | some r => cases r <;> simp [compare, Relation.holds, Accepts]

/-- A parameter that spells a comparison with a numeral of 64 bits. -/
structure SpellsNumber (p : Text) (op : Comparison) (n : Int) : Prop where
  spells : Spells p op
  numeral : ∃ w : Text.Numeral, w.toText = op.value ∧ w.value = n
  fits : -2 ^ 63 ≤ n ∧ n < 2 ^ 63

/-- A parameter that asks for what is not known. -/
def SpellsUnknown (p : Text) : Prop :=
  ∃ op, Spells p op ∧ op.relation = none ∧ op.value.sameLetters unknownWord = true

theorem isPlain_numeral (w : Text.Numeral) : IsPlain w.toText := by
  refine isPlain_of_forall w.toText_ne_nil (fun _ => w.not_isBlank_of_mem_toText) fun c hc => ?_
  rcases w.mem_toText hc with rfl | rfl | hdigit
  · decide
  · decide
  · exact not_mem_marks_of_isAlphanum (by simp [Char.isAlphanum, hdigit])

variable {p t : Text} {op : Comparison} {n : Int}

theorem isAlpha_of_sameLetters_unknownWord (h : t.sameLetters unknownWord = true) :
    ∀ c ∈ t, c.isAlpha = true :=
  Text.forall_of_sameLetters h (fun _ => Text.isAlpha_of_isAlpha_toLower) rfl

theorem isPlain_unknownWord (h : t.sameLetters unknownWord = true) : IsPlain t := by
  have halpha := isAlpha_of_sameLetters_unknownWord h
  refine isPlain_of_forall ?_ (fun c hc => Text.not_isBlank_of_isAlpha (halpha c hc)) fun c hc =>
    not_mem_marks_of_isAlphanum (by simp [Char.isAlphanum, halpha c hc])
  rintro rfl
  cases h

/-- A numeral is not the word for what is not known. -/
theorem not_sameLetters_unknownWord (h : Text.int64? t = some n) :
    t.sameLetters unknownWord = false := by
  obtain ⟨⟨w, rfl, -⟩, -⟩ := Text.int64?_eq_some_iff.mp h
  obtain ⟨c, hc, hsign⟩ := w.exists_not_isAlpha
  rw [Bool.eq_false_iff]
  intro hword
  rw [isAlpha_of_sameLetters_unknownWord hword c hc] at hsign
  cases hsign

namespace SpellsNumber

theorem ofText_eq (h : SpellsNumber p op n) : ofText p = op := by
  obtain ⟨w, hw, -⟩ := h.numeral
  exact h.spells.ofText_eq (hw ▸ isPlain_numeral w)

theorem int64?_eq (h : SpellsNumber p op n) : Text.int64? op.value = some n :=
  Text.int64?_eq_some_iff.mpr ⟨h.numeral, h.fits⟩

/-- Without its exclamation mark the parameter spells a number as well. -/
theorem of_negation (h : SpellsNumber ('!' :: p) op n) : ∃ op', SpellsNumber p op' n := by
  refine ⟨_, spells_of_negation p, ?_, h.fits⟩
  rw [h.ofText_eq]
  exact h.numeral

end SpellsNumber

theorem spellsNumber_ofText (h : Text.int64? (ofText p).value = some n) :
    SpellsNumber p (ofText p) n := by
  obtain ⟨hnumeral, hfits⟩ := Text.int64?_eq_some_iff.mp h
  exact ⟨spells_ofText p, hnumeral, hfits⟩

theorem spellsNumber_numeral {w : Text.Numeral} (r : Option Relation)
    (hfits : -2 ^ 63 ≤ w.value ∧ w.value < 2 ^ 63) :
    SpellsNumber (symbol r ++ w.toText) ⟨false, r, w.toText⟩ w.value where
  spells := spells_bare ⟨false, r, w.toText⟩
  numeral := ⟨w, rfl, rfl⟩
  fits := hfits

theorem SpellsUnknown.of_negation (h : SpellsUnknown ('!' :: p)) : SpellsUnknown p := by
  obtain ⟨op, hspells, hrelation, hword⟩ := h
  have hop := hspells.ofText_eq (isPlain_unknownWord hword)
  refine ⟨_, spells_of_negation p, ?_, ?_⟩
  · rw [hop]
    exact hrelation
  · rw [hop]
    exact hword

end Comparison

/-! ### The tests -/

namespace Criterion

open Comparison

variable {f : Figure} {b : Bundle} {p : Text}

/-- A number compared with a number. -/
theorem holds_figure_of_spellsNumber {op : Comparison} {n v : Int} (h : SpellsNumber p op n)
    (hv : f.value b = .ok v) : (figure f).holds p b = op.compare v n := by
  have hn := h.int64?_eq
  simp only [holds, ask, h.ofText_eq, not_sameLetters_unknownWord hn, Bool.false_eq_true, and_false,
    if_false, Figure.ask, hn, hv]
  rfl

/-- A number that is not stored, or that is not written. -/
theorem holds_figure_eq_false (hunknown : ¬(f = .groupId ∧ SpellsUnknown p))
    (h : f.stored? b = none ∨ ¬∃ op n, SpellsNumber p op n) : (figure f).holds p b = false := by
  have hword : ¬(f = .groupId ∧ (ofText p).relation = none ∧
      (ofText p).value.sameLetters unknownWord = true) :=
    fun ⟨hf, hop⟩ => hunknown ⟨hf, ofText p, spells_ofText p, hop⟩
  simp only [holds, ask, if_neg hword, Figure.ask]
  cases hn : Text.int64? (ofText p).value with
  | none => rfl
  | some n =>
      have hnumber := spellsNumber_ofText hn
      obtain ⟨what, hwhat⟩ :=
        Figure.exists_value_eq_error (h.resolve_right (not_not_intro ⟨_, n, hnumber⟩))
      rw [hwhat]
      rfl

/-- A stored number and a written one are compared exactly, under every spelling of the parameter;
only identifiers of 63 bits at most are promised. Where one of the two is missing the test fails,
also with an exclamation mark in front, unless it asks for a group that is not known. -/
theorem holds_figure_exact (f : Figure) (b : Bundle) :
    (∀ (p : Text) (op : Comparison) (n v : Int), SpellsNumber p op n → f.stored? b = some v →
      (f = .seriesId → v < 2 ^ 63) → ((figure f).holds p b = true ↔ op.Accepts v n)) ∧
    ∀ p : Text, (f.stored? b = none ∨ ¬∃ op n, SpellsNumber p op n) →
      ¬(f = .groupId ∧ SpellsUnknown p) →
        (figure f).holds p b = false ∧ (figure f).holds ('!' :: p) b = false := by
  refine ⟨fun p op n v hp hv hid => ?_, fun p hmissing hunknown => ⟨?_, ?_⟩⟩
  · rw [holds_figure_of_spellsNumber hp (Figure.value_of_stored? hv hid), compare_eq_true_iff]
  · exact holds_figure_eq_false hunknown hmissing
  · -- Whatever the negated parameter spells, the parameter without the mark spells as well.
    refine holds_figure_eq_false (fun h => hunknown ⟨h.1, h.2.of_negation⟩) ?_
    refine hmissing.imp_right fun hnone => ?_
    rintro ⟨op, n, hnumber⟩
    obtain ⟨op', hnumber'⟩ := hnumber.of_negation
    exact hnone ⟨op', n, hnumber'⟩

/-- A file of a third version whose bit depth is not stored. -/
def revisedSample : Bundle where
  file := { name := "a.mkv".toList, ed2k := [], size := 1 }
  release := some { version := 3 }

theorem spellsNumber_two :
    SpellsNumber "\t!>= +002 ".toList ⟨true, some .greaterOrEqual, "+002".toList⟩ 2 where
  spells := by
    have hlead : ∀ c ∈ ['\t'], Text.isBlank c = true := List.forall_mem_singleton.mpr rfl
    have hgap : ∀ c ∈ [' '], Text.isBlank c = true := List.forall_mem_singleton.mpr rfl
    exact .intro hlead hgap hgap rfl
  numeral := ⟨⟨.plus, 2, 2⟩, by decide, rfl⟩
  fits := by decide

/-- The third version is at least the second, and where no bit depth is stored there is nothing to
compare. -/
theorem holds_figure_exact_revisedSample :
    (SpellsNumber "\t!>= +002 ".toList ⟨true, some .greaterOrEqual, "+002".toList⟩ 2 ∧
      Figure.version.stored? revisedSample = some 3 ∧ Figure.version ≠ .seriesId ∧
      (figure .version).holds "\t!>= +002 ".toList revisedSample = true) ∧
    (Figure.bitDepth.stored? revisedSample = none ∧ Figure.bitDepth ≠ .groupId ∧
      (figure .bitDepth).holds "8".toList revisedSample = false ∧
      (figure .bitDepth).holds "!8".toList revisedSample = false) := by
  have hversion : Figure.version ≠ .seriesId := by decide
  have hdepth : Figure.bitDepth ≠ .groupId := by decide
  have hle : Accepts ⟨true, some .greaterOrEqual, "+002".toList⟩ 3 2 :=
    show (3 : Int) ≥ 2 by decide
  refine ⟨⟨spellsNumber_two, rfl, hversion, ?_⟩, rfl, hdepth, ?_⟩
  · exact ((holds_figure_exact .version revisedSample).1 _ _ _ _ spellsNumber_two rfl
      fun h => absurd h hversion).mpr hle
  · exact (holds_figure_exact .bitDepth revisedSample).2 _ (.inl rfl) fun h => hdepth h.1

end Criterion

end MediaNaming
