import MediaNaming.Criterion.Decision
import MediaNaming.Proofs.Parameter

/-!
Probes. A test may ask whether a placeholder shows anything. It names the placeholder more freely
than a template does, it cannot tell apart two codes that differ in case only, and it asks under
the default settings instead of those of the run. None of this changes the answer: a placeholder is
found exactly if a template shows something for it.
-/

namespace MediaNaming

/-! ### Values that are never empty -/

namespace Text

theorem upper_ne_nil {t : Text} (h : t ≠ []) : upper t ≠ [] := by
  obtain ⟨c, rest, rfl⟩ := List.exists_cons_of_ne_nil h
  rw [upper, List.flatMap_cons]
  exact List.append_ne_nil_of_left_ne_nil (upperChar_ne_nil c) _

theorem lower_ne_nil {t : Text} (h : t ≠ []) : lower t ≠ [] := by
  obtain ⟨c, rest, rfl⟩ := List.exists_cons_of_ne_nil h
  rw [lower, lowerAfter]
  refine List.append_ne_nil_of_left_ne_nil ?_ _
  split
  · exact List.cons_ne_nil _ _
  · exact lowerChar_ne_nil c

theorem ne_nil_of_nonBlank? {t : Option Text} {u : Text} (h : nonBlank? t = some u) : u ≠ [] := by
  obtain ⟨-, hu⟩ := Option.filter_eq_some_iff.mp h
  rintro rfl
  cases hu

end Text

theorem truncateTitle_ne_nil {title : Text} (h : title ≠ []) (max : Nat) :
    truncateTitle max title ≠ [] := by
  rw [truncateTitle]
  split
  · exact h
  · simp

theorem Episode.ne_nil_of_title? {e : Episode} {language : TitleLanguage} {title : Text}
    (h : e.title? language = some title) : title ≠ [] := by
  simpa using List.find?_some h

namespace Placeholder

variable {t : Text} {p : Placeholder}

/-! ### What a template shows -/

theorem isShown_iff_render_ne_nil (p : Placeholder) (s : Settings) (b : Bundle) :
    p.isShown s b = true ↔ p.render s b ≠ [] := by
  rw [isShown, render]
  cases p.value? s b with
  | none => simp
  | some u => simp

theorem any_ne_nil_map {f : Text → Text} (hf : ∀ u, u ≠ [] → f u ≠ []) {o : Option Text}
    (ho : ∀ u, o = some u → u ≠ []) : (o.map f).any (· ≠ []) = o.isSome := by
  cases o with
  | none => rfl
  | some u => simp [hf u (ho u rfl)]

/-- However short a title is cut, something of it is left. -/
theorem any_episodeTitle? (s : Settings) (b : Bundle) (language : TitleLanguage) :
    (b.episodeTitle? s language).any (· ≠ []) =
      (b.firstEpisode?.bind (·.title? language)).isSome := by
  refine any_ne_nil_map (fun u hu => truncateTitle_ne_nil hu _) fun u hu => ?_
  obtain ⟨e, -, he⟩ := Option.bind_eq_some_iff.mp hu
  exact Episode.ne_nil_of_title? he

theorem isShown_eq_of_settings (p : Placeholder) (s s' : Settings) (b : Bundle) :
    p.isShown s b = p.isShown s' b := by
  -- Only the titles of an episode read the settings, and cutting never empties them.
  cases p with
  | episodeTitleEnglish => exact (any_episodeTitle? s b _).trans (any_episodeTitle? s' b _).symm
  | episodeTitleRomaji => exact (any_episodeTitle? s b _).trans (any_episodeTitle? s' b _).symm
  | _ => rfl

/-! ### What a probe finds -/

/-- The placeholder that is found under a code. Of two codes that differ in case only it is the
first. -/
def found : Placeholder → Placeholder
  | .ed2kLower => .ed2kUpper
  | .crcLower => .crcUpper
  | p => p

/-- Both codes of a checksum show something as soon as there is a checksum. -/
theorem isShown_found (p : Placeholder) (s : Settings) (b : Bundle) :
    p.found.isShown s b = p.isShown s b := by
  have hupper (o : Option Text) :
      ((Text.nonBlank? o).map Text.upper).any (· ≠ []) = (Text.nonBlank? o).isSome :=
    any_ne_nil_map (fun _ => Text.upper_ne_nil) fun _ => Text.ne_nil_of_nonBlank?
  have hlower (o : Option Text) :
      ((Text.nonBlank? o).map Text.lower).any (· ≠ []) = (Text.nonBlank? o).isSome :=
    any_ne_nil_map (fun _ => Text.lower_ne_nil) fun _ => Text.ne_nil_of_nonBlank?
  cases p with
  | ed2kLower => exact (hupper _).trans (hlower _).symm
  | crcLower => exact (hupper _).trans (hlower _).symm
  | _ => rfl

theorem isFound_found (hcensored : p ≠ .censored) (hdeprecated : p ≠ .deprecated) (s : Settings)
    (b : Bundle) : p.found.isFound b = p.isShown s b := by
  have hfound : p.found.isFound b = p.found.isShown {} b := by
    cases p with
    | censored => exact absurd rfl hcensored
    | deprecated => exact absurd rfl hdeprecated
    | _ => rfl
  rw [hfound, isShown_found, isShown_eq_of_settings p {} s]

/-! ### Spellings of a code -/

/-- Spellings of a code: its letters in any case, percent signs in front of them, white space
around. -/
inductive Spells : Text → Placeholder → Prop
  | intro {g w g' : Text} {p : Placeholder} (n : Nat) (hg : ∀ c ∈ g, Text.isBlank c = true)
      (hw : w.sameLetters p.code = true) (hg' : ∀ c ∈ g', Text.isBlank c = true) :
      Spells (g ++ (List.replicate n '%' ++ w) ++ g') p

theorem isAlphanum_of_sameLetters_code {w : Text} (h : w.sameLetters p.code = true) :
    ∀ c ∈ w, c.isAlphanum = true :=
  Text.forall_of_sameLetters h (fun _ => Text.isAlphanum_of_isAlphanum_toLower)
    (by cases p <;> rfl)

theorem ne_nil_of_sameLetters_code {w : Text} (h : w.sameLetters p.code = true) : w ≠ [] := by
  rintro rfl
  cases p <;> cases h

theorem find?_sameLetters_code {w : Text} (h : w.sameLetters p.code = true) :
    all.find? (fun q => q.code.sameLetters w) = some p.found := by
  rw [Text.sameLetters, beq_iff_eq] at h
  simp only [Text.sameLetters, h]
  cases p <;> rfl

namespace Spells

/-- Without the white space around it a spelling begins with a percent sign or a letter. -/
theorem exists_trim_eq (h : Spells t p) :
    ∃ n w, t.trim = List.replicate n '%' ++ w ∧ w.sameLetters p.code = true ∧
      t.trim.head? ≠ some '!' := by
  cases h with
  | @intro g w g' p n hg hw hg' =>
      have hletter := isAlphanum_of_sameLetters_code hw
      -- Trimming stops at both ends of the code, and nothing in it reads as a negation.
      have hvisible : ∀ c ∈ List.replicate n '%' ++ w, Text.isBlank c = false ∧ c ≠ '!' := by
        intro c hc
        rcases List.mem_append.mp hc with hc | hc
        · rw [List.eq_of_mem_replicate hc]
          exact ⟨rfl, by decide⟩
        · refine ⟨Text.not_isBlank_of_isAlphanum (hletter c hc), ?_⟩
          rintro rfl
          exact absurd (hletter _ hc) (by decide)
      have hne : List.replicate n '%' ++ w ≠ [] :=
        List.append_ne_nil_of_right_ne_nil _ (ne_nil_of_sameLetters_code hw)
      have hframed : Text.IsFramed (List.replicate n '%' ++ w) :=
        Text.isFramed_of_forall hne fun c hc => (hvisible c hc).1
      have htrim : (g ++ (List.replicate n '%' ++ w) ++ g').trim = List.replicate n '%' ++ w := by
        rw [Text.trim_append_right hg', Text.trim_append_left hg, hframed.trim_eq]
      refine ⟨n, w, htrim, hw, ?_⟩
      rw [htrim]
      intro hhead
      exact (hvisible '!' (List.mem_of_mem_head? hhead)).2 rfl

theorem ofName?_trim (h : Spells t p) : ofName? t.trim = some p.found := by
  obtain ⟨n, w, htrim, hw, -⟩ := h.exists_trim_eq
  have hstop : (List.replicate n '%' ++ w).dropWhile (· == '%') = w := by
    rw [List.dropWhile_append_of_pos fun c hc => beq_iff_eq.mpr (List.eq_of_mem_replicate hc)]
    obtain ⟨c, rest, rfl⟩ := List.exists_cons_of_ne_nil (ne_nil_of_sameLetters_code hw)
    refine List.dropWhile_cons_of_neg fun hc => ?_
    have hletter := isAlphanum_of_sameLetters_code hw c List.mem_cons_self
    rw [beq_iff_eq.mp hc] at hletter
    cases hletter
  rw [ofName?, Text.trim_trim, htrim, hstop, find?_sameLetters_code hw]

end Spells

end Placeholder

/-! ### Probes -/

namespace Criterion

theorem ask_shown {t name : Text} {negated : Bool} {p : Placeholder} (b : Bundle)
    (hop : Comparison.ofPlainText t = ⟨negated, none, name⟩)
    (hp : Placeholder.ofName? name = some p) :
    Criterion.shown.ask t b = .ok (p.isFound b != negated) := by
  simp only [ask, hop, hp, Comparison.answer]

/-- Whatever the settings of the run, a probe passes exactly if the placeholder shows something, and
its negation turns the answer around. A text that spells two codes is right about both. -/
theorem holds_shown_iff_render_ne_nil {p : Placeholder} {t : Text} (h : Placeholder.Spells t p)
    (hcensored : p ≠ .censored) (hdeprecated : p ≠ .deprecated) (s : Settings) (b : Bundle) :
    (Criterion.shown.holds t b = true ↔ p.render s b ≠ []) ∧
      Criterion.shown.holds ('!' :: t) b = !Criterion.shown.holds t b := by
  obtain ⟨-, -, -, -, hhead⟩ := h.exists_trim_eq
  have hplain := ask_shown b (Comparison.ofPlainText_of_head? hhead) h.ofName?_trim
  have hnegated := ask_shown b (Comparison.ofPlainText_negation t) h.ofName?_trim
  have hfound := Placeholder.isFound_found hcensored hdeprecated s b
  refine ⟨?_, ?_⟩
  · rw [holds, hplain, ← Placeholder.isShown_iff_render_ne_nil, ← hfound]
    simp
  · rw [holds, holds, hplain, hnegated]
    simp

/-- A file whose checksum is known. -/
def probedSample : Bundle where
  file := { name := "a.mkv".toList, ed2k := [' '], crc32 := some "1a2B".toList, size := 1 }

/-- One text spells the codes of both forms of the checksum. -/
theorem spells_crc : Placeholder.Spells "\t%%cRc ".toList .crcLower := by
  have hbefore : ∀ c ∈ ['\t'], Text.isBlank c = true := List.forall_mem_singleton.mpr rfl
  have hword : Text.sameLetters "cRc".toList Placeholder.crcLower.code = true := rfl
  have hafter : ∀ c ∈ [' '], Text.isBlank c = true := List.forall_mem_singleton.mpr rfl
  exact .intro 2 hbefore hword hafter

theorem holds_shown_iff_render_ne_nil_crc :
    Placeholder.Spells "\t%%cRc ".toList .crcLower ∧
      Placeholder.crcLower ≠ .censored ∧ Placeholder.crcLower ≠ .deprecated ∧
      (Criterion.shown.holds "\t%%cRc ".toList probedSample = true ↔
        Placeholder.crcLower.render { maxTitleLength := 1 } probedSample ≠ []) ∧
      Criterion.shown.holds ('!' :: "\t%%cRc ".toList) probedSample =
        !Criterion.shown.holds "\t%%cRc ".toList probedSample :=
  ⟨spells_crc, by decide, by decide,
    holds_shown_iff_render_ne_nil spells_crc (by decide) (by decide) _ _⟩

end Criterion

end MediaNaming
