import MediaNaming.Proofs.FigureTest

/-!
White space between the tokens of a parameter. A test on a number passes over white space at the
ends of its parameter and in front of the value, and so over white space behind the exclamation mark
too, unless an operator stands there. An operator that white space parts from the mark is taken for
a part of the value, which then is no number, and the test fails whatever is stored.
-/

namespace MediaNaming

namespace Comparison

variable {op : Comparison} {inner p : Text}

/-- The texts that spell a comparison with white space at the ends and between the tokens; `inner`
is the white space behind the exclamation mark. -/
inductive Spaced (op : Comparison) (inner : Text) : Text → Prop
  | intro {lead gap trail : Text} (hlead : ∀ c ∈ lead, Text.isBlank c = true)
      (hinner : ∀ c ∈ inner, Text.isBlank c = true) (hgap : ∀ c ∈ gap, Text.isBlank c = true)
      (htrail : ∀ c ∈ trail, Text.isBlank c = true) :
      Spaced op inner
        (lead ++ (mark op.negated ++ inner ++ symbol op.relation ++ gap ++ op.value) ++ trail)

/-- White space parts an exclamation mark from the operator behind it. -/
def IsParted (op : Comparison) (inner : Text) : Prop :=
  op.negated = true ∧ op.relation ≠ none ∧ inner ≠ []

/-- White space behind the mark counts as white space in front of the value, and without a mark as
white space in front of everything. -/
theorem Spaced.spells (h : Spaced op inner p) (hparted : ¬op.IsParted inner) : Spells p op := by
  cases h with
  | @intro lead gap trail hlead hinner hgap htrail =>
      cases hnegated : op.negated with
      | false =>
          refine .intro (List.forall_mem_append.mpr ⟨hlead, hinner⟩) hgap htrail ?_
          simp [hnegated]
      | true =>
          cases hrelation : op.relation with
          | none =>
              refine .intro hlead (List.forall_mem_append.mpr ⟨hinner, hgap⟩) htrail ?_
              simp [hnegated, hrelation]
          | some r =>
              have hnil : inner = [] := by
                by_contra hne
                exact hparted ⟨hnegated, by simp [hrelation], hne⟩
              refine .intro hlead hgap htrail ?_
              simp [hnegated, hrelation, hnil]

/-- Behind white space an operator is not looked for. -/
theorem splitRelation_blank_append (hinner : ∀ c ∈ inner, Text.isBlank c = true) (hne : inner ≠ [])
    (t : Text) : splitRelation (inner ++ t) = (none, inner ++ t) := by
  refine splitRelation_of_not_orders ?_
  obtain ⟨d, rest, rfl⟩ := List.exists_cons_of_ne_nil hne
  rintro ⟨c, hc, hmark⟩
  obtain rfl : d = c := Option.some.inj hc
  have hblank := hinner d List.mem_cons_self
  rcases hmark with rfl | rfl <;> cases hblank

/-- A parted operator is read as the beginning of the value. -/
theorem Spaced.ofText_eq_of_isParted (h : Spaced op inner p) (hv : IsPlain op.value)
    (hparted : op.IsParted inner) :
    ∃ r gap, ofText p = ⟨true, none, Relation.symbol r ++ gap ++ op.value⟩ := by
  obtain ⟨hnegated, hrelation, hne⟩ := hparted
  obtain ⟨r, hr⟩ := Option.ne_none_iff_exists'.mp hrelation
  cases h with
  | @intro lead gap trail hlead hinner hgap htrail =>
      refine ⟨r, gap, ?_⟩
      have hframed : Text.IsFramed (r.symbol ++ gap ++ op.value) :=
        (isFramed_symbol r).append hv.framed gap
      have htrim : (lead ++ (mark op.negated ++ inner ++ symbol op.relation ++ gap ++ op.value) ++
          trail).trim = Text.trim ('!' :: (inner ++ (r.symbol ++ gap ++ op.value))) := by
        rw [Text.trim_append_right htrail, Text.trim_append_left hlead, hnegated, hr]
        simp
      rw [ofText_of_trim_eq htrim, ofText_negation, hframed.trimEnd_append,
        splitRelation_blank_append hinner hne, Text.trim_append_left hinner, hframed.trim_eq]

/-- A value that begins with an operator is no number. -/
theorem int64?_symbol_append (r : Relation) (t : Text) : Text.int64? (r.symbol ++ t) = none := by
  obtain ⟨c, hc, hmark⟩ : ∃ c ∈ r.symbol ++ t, c = '<' ∨ c = '>' := by
    cases r <;> exact ⟨_, List.mem_cons_self, by decide⟩
  rw [Option.eq_none_iff_forall_ne_some]
  intro n hn
  obtain ⟨⟨w, hw, -⟩, -⟩ := Text.int64?_eq_some_iff.mp hn
  rw [← hw] at hc
  have hchar := Text.Numeral.mem_toText hc
  revert hchar
  rcases hmark with rfl | rfl <;> decide

/-- A value that begins with an operator is no word. -/
theorem not_sameLetters_symbol_append (r : Relation) (t : Text) :
    (r.symbol ++ t).sameLetters unknownWord = false := by
  obtain ⟨c, hc, hletter⟩ : ∃ c ∈ r.symbol ++ t, c.isAlpha = false := by
    cases r <;> exact ⟨_, List.mem_cons_self, by decide⟩
  rw [Bool.eq_false_iff]
  intro hword
  rw [isAlpha_of_sameLetters_unknownWord hword c hc] at hletter
  cases hletter

end Comparison

/-! ### The tests -/

namespace Criterion

open Comparison

variable {op : Comparison} {inner p : Text}

theorem ask_figure_of_isParted (f : Figure) (b : Bundle) (h : Spaced op inner p)
    (hv : IsPlain op.value) (hparted : op.IsParted inner) :
    ∃ value, (figure f).ask p b = .error (.notANumber f.letter value) := by
  obtain ⟨r, gap, hop⟩ := h.ofText_eq_of_isParted hv hparted
  rw [List.append_assoc] at hop
  refine ⟨r.symbol ++ (gap ++ op.value), ?_⟩
  simp only [ask, hop, not_sameLetters_symbol_append, Bool.false_eq_true, and_false, if_false,
    Figure.ask, int64?_symbol_append]

/-- White space between the tokens changes nothing, not even the reason for which a test has no
answer, unless it parts the exclamation mark from an operator. In that case the test fails, whatever
the parameter without white space answers. -/
theorem holds_figure_spaced (f : Figure) (b : Bundle) {w : Text.Numeral} (hw : op.value = w.toText)
    (h : Spaced op inner p) :
    (¬op.IsParted inner → (figure f).ask p b = (figure f).ask op.bare b) ∧
    (op.IsParted inner → (figure f).holds p b = false ∧
      ∃ value, (figure f).ask p b = .error (.notANumber f.letter value)) ∧
    ((figure f).holds p b = (figure f).holds op.bare b ↔
      (op.IsParted inner → (figure f).holds op.bare b = false)) := by
  have hv : IsPlain op.value := hw ▸ isPlain_numeral w
  have hjoined (hjoined : ¬op.IsParted inner) : (figure f).ask p b = (figure f).ask op.bare b := by
    simp only [ask, (h.spells hjoined).ofText_eq hv, op.spells_bare.ofText_eq hv]
  have hfails (hparted : op.IsParted inner) : (figure f).holds p b = false := by
    obtain ⟨value, hask⟩ := ask_figure_of_isParted f b h hv hparted
    rw [holds, hask]
  refine ⟨hjoined, fun hparted => ⟨hfails hparted, ask_figure_of_isParted f b h hv hparted⟩, ?_⟩
  by_cases hparted : op.IsParted inner
  · rw [hfails hparted, eq_comm]
    exact ⟨fun hbare _ => hbare, fun hbare => hbare hparted⟩
  · refine iff_of_true ?_ fun hc => absurd hc hparted
    rw [holds, holds, hjoined hparted]

theorem spaced_joined : Spaced ⟨true, none, "2".toList⟩ [' '] "\t! 2 ".toList := by
  have hlead : ∀ c ∈ ['\t'], Text.isBlank c = true := List.forall_mem_singleton.mpr rfl
  have hinner : ∀ c ∈ [' '], Text.isBlank c = true := List.forall_mem_singleton.mpr rfl
  exact .intro hlead hinner (List.forall_mem_nil _) hinner

theorem spaced_parted : Spaced ⟨true, some .greater, "2".toList⟩ [' '] "! >2".toList := by
  have hinner : ∀ c ∈ [' '], Text.isBlank c = true := List.forall_mem_singleton.mpr rfl
  exact .intro (List.forall_mem_nil _) hinner (List.forall_mem_nil _) (List.forall_mem_nil _)

/-- The third version is not the second one, and it is above the second one only as long as no white
space is written in front of the operator. -/
theorem holds_figure_spaced_revisedSample :
    (¬IsParted ⟨true, none, "2".toList⟩ [' '] ∧
      (figure .version).ask "\t! 2 ".toList revisedSample =
        (figure .version).ask "!2".toList revisedSample) ∧
    (IsParted ⟨true, some .greater, "2".toList⟩ [' '] ∧
      (figure .version).holds "! >2".toList revisedSample = false ∧
      (figure .version).holds "!>2".toList revisedSample = true) := by
  have hw : "2".toList = (⟨.absent, 0, 2⟩ : Text.Numeral).toText := by decide
  have hjoined : ¬IsParted ⟨true, none, "2".toList⟩ [' '] := fun h => h.2.1 rfl
  have hparted : IsParted ⟨true, some .greater, "2".toList⟩ [' '] := by
    refine ⟨rfl, ?_, ?_⟩ <;> decide
  refine ⟨⟨hjoined, ?_⟩, hparted, ?_, by decide⟩
  · exact (holds_figure_spaced .version revisedSample hw spaced_joined).1 hjoined
  · exact ((holds_figure_spaced .version revisedSample hw spaced_parted).2.1 hparted).1

/-- White space in front of an operator makes a test fail that passes without it. -/
theorem not_forall_holds_spaced_eq :
    ¬∀ (f : Figure) (b : Bundle) (op : Comparison) (inner p : Text) (w : Text.Numeral),
      op.value = w.toText → Spaced op inner p →
        (figure f).holds p b = (figure f).holds op.bare b := by
  intro h
  have hversion := h .version revisedSample _ _ _ ⟨.absent, 0, 2⟩ (by decide) spaced_parted
  revert hversion
  decide

end Criterion

end MediaNaming
