import MediaNaming.Proofs.Probe

/-!
Blank fields of a release. The test that compares a field with a word takes it for unknown as soon
as there is nothing but white space in it; the probe of the same field finds whatever a template
shows, white space too. The two exclude each other where nothing is stored or something visible is.
A field that is blank without being empty is unknown and found at once, and so is a list of several
blank entries, which a template shows as commas.
-/

namespace MediaNaming

/-- The fields of a release that one test compares with a word and a probe finds as they are stored.
The audio codecs are not among them: a template shows the first of them only. -/
inductive ProbedField where
  | source | videoCodec | dubLanguages | subtitleLanguages
  deriving DecidableEq

namespace ProbedField

/-- The test that compares the field with a word. -/
def criterion : ProbedField → Criterion
  | .source => .wording .source
  | .videoCodec => .wording .videoCodec
  | .dubLanguages => .listing .dubLanguages
  | .subtitleLanguages => .listing .subtitleLanguages

/-- The placeholder that shows the field. -/
def placeholder : ProbedField → Placeholder
  | .source => .source
  | .videoCodec => .videoCodec
  | .dubLanguages => .dubLanguages
  | .subtitleLanguages => .subtitleLanguages

/-- The texts that are stored in the field. -/
def entries (f : ProbedField) (r : Release) : List Text :=
  match f with
  | .source => r.source.toList
  | .videoCodec => r.videoCodec.toList
  | .dubLanguages => r.audioLanguages
  | .subtitleLanguages => r.subtitleLanguages

/-- Nothing but white space is stored. -/
def IsBlank (f : ProbedField) (r : Release) : Prop :=
  ∀ t ∈ f.entries r, Text.isBlankText t = true

/-- The word for what is not known is stored itself. -/
def SaysUnknown (f : ProbedField) (r : Release) : Prop :=
  ∃ t ∈ f.entries r, Text.sameWords t.trim unknownWord = true

end ProbedField

/-! ### What reads as unknown -/

/-- A text that is filled in keeps what is visible of it. -/
theorem answersTo_some {t word : Text} (h : t.trim ≠ []) :
    answersTo (some t) word = Text.sameWords t.trim word := by
  rw [answersTo, Option.map_some, Option.filter_some_pos (by simpa using h), Option.getD_some]

theorem answersTo_unknownWord (o : Option Text) : answersTo o unknownWord = true ↔
    (∀ t ∈ o.toList, Text.isBlankText t = true) ∨
      ∃ t ∈ o.toList, Text.sameWords t.trim unknownWord = true := by
  have hword : Text.sameWords unknownWord unknownWord = true := rfl
  cases o with
  | none => simp [answersTo, hword]
  | some t =>
      by_cases hblank : t.trim = []
      · have hmissing : answersTo (some t) unknownWord = true := by
          rw [answersTo, Option.map_some, hblank]
          exact hword
        simp [hmissing, Text.trim_eq_nil_iff.mp hblank]
      · rw [answersTo_some hblank]
        simp [← Text.trim_eq_nil_iff, hblank]

theorem Listing.unknownWord_mem_emptyWords (l : Listing) : unknownWord ∈ l.emptyWords := by
  cases l <;> exact List.mem_cons_self

theorem listAnswersTo_unknownWord (l : Listing) (items : List Text) :
    listAnswersTo l.emptyWords items unknownWord = true ↔
      (∀ t ∈ items, Text.isBlankText t = true) ∨
        ∃ t ∈ items, Text.sameWords t.trim unknownWord = true := by
  rw [listAnswersTo]
  split
  · next hblank =>
    have hword : l.emptyWords.any (Text.sameLetters · unknownWord) = true :=
      List.any_eq_true.mpr ⟨unknownWord, l.unknownWord_mem_emptyWords, rfl⟩
    exact iff_of_true hword (.inl (List.all_eq_true.mp hblank))
  · next hvisible =>
    rw [List.all_eq_true] at hvisible
    rw [List.any_eq_true, or_iff_right hvisible]

theorem Comparison.ofPlainText_unknownWord :
    ofPlainText unknownWord = ⟨false, none, unknownWord⟩ := rfl

namespace Criterion

theorem holds_wording_unknownWord {w : Wording} {b : Bundle} {o : Option Text}
    (h : w.value b = .ok o) : (wording w).holds unknownWord b = answersTo o unknownWord := by
  simp only [holds, ask, Comparison.ofPlainText_unknownWord, h]
  exact Bool.xor_false _

theorem holds_listing_unknownWord {l : Listing} {b : Bundle} {items : List Text}
    (h : l.items b = .ok items) :
    (listing l).holds unknownWord b = listAnswersTo l.emptyWords items unknownWord := by
  simp only [holds, ask, Comparison.ofPlainText_unknownWord, h]
  exact Bool.xor_false _

end Criterion

namespace ProbedField

variable {f : ProbedField} {b : Bundle} {r : Release}

theorem holds_unknownWord_iff (f : ProbedField) (hr : b.release = some r) :
    f.criterion.holds unknownWord b = true ↔ f.IsBlank r ∨ f.SaysUnknown r := by
  -- A text and a list answer to the word by the same rule once the field is looked up.
  have hvalue {w : Wording} {o : Option Text} (h : w.value b = .ok o) :=
    (Bool.eq_iff_iff.mp (Criterion.holds_wording_unknownWord h)).trans (answersTo_unknownWord o)
  have hitems {l : Listing} {items : List Text} (h : l.items b = .ok items) :=
    (Bool.eq_iff_iff.mp (Criterion.holds_listing_unknownWord h)).trans
      (listAnswersTo_unknownWord l items)
  cases f
  case source => exact hvalue (by rw [Wording.value, hr]; rfl)
  case videoCodec => exact hvalue (by rw [Wording.value, hr]; rfl)
  case dubLanguages => exact hitems (by rw [Listing.items, hr]; rfl)
  case subtitleLanguages => exact hitems (by rw [Listing.items, hr]; rfl)

/-! ### What is found -/

/-- A template shows the texts with commas between them. -/
theorem render_placeholder (f : ProbedField) (hr : b.release = some r) (s : Settings) :
    f.placeholder.render s b = List.intercalate [','] (f.entries r) := by
  have hone (o : Option Text) : o.getD [] = List.intercalate [','] o.toList := by
    cases o with
    | none => rfl
    | some t => exact (List.intercalate_singleton).symm
  cases f <;> simp only [placeholder, Placeholder.render, Placeholder.value?, hr, entries]
  case source => exact hone r.source
  case videoCodec => exact hone r.videoCodec
  all_goals rfl

theorem holds_shown_iff (f : ProbedField) (b : Bundle) (s : Settings) :
    Criterion.shown.holds f.placeholder.code b = true ↔ f.placeholder.render s b ≠ [] := by
  have hop : Comparison.ofPlainText f.placeholder.code = ⟨false, none, f.placeholder.code⟩ := by
    cases f <;> rfl
  have hname : Placeholder.ofName? f.placeholder.code = some f.placeholder := by
    cases f <;> rfl
  have hfound : f.placeholder.isFound b = f.placeholder.isShown s b := by
    cases f <;> rfl
  rw [Criterion.holds, Criterion.ask_shown b hop hname, hfound,
    ← Placeholder.isShown_iff_render_ne_nil]
  simp

/-- Texts with commas between them are nothing only if there are none, or one without characters. -/
theorem intercalate_comma_eq_nil_iff {l : List Text} :
    List.intercalate [','] l = [] ↔ l = [] ∨ l = [[]] := by
  match l with
  | [] => simp
  | [t] => simp
  | t :: u :: rest => simp

theorem isBlank_of_render_eq_nil {s : Settings} (hr : b.release = some r)
    (h : f.placeholder.render s b = []) : f.IsBlank r := by
  rw [render_placeholder f hr, intercalate_comma_eq_nil_iff] at h
  unfold IsBlank
  rcases h with h | h <;> simp [h, Text.isBlankText]

/-! ### Both together -/

/-- Where the word itself is not stored, a field reads as unknown exactly if it is blank, and is
found exactly if a template shows anything for it. One of the two is always the case; both are if
the field is blank, but is neither missing nor empty. -/
theorem unknown_found_spec (hr : b.release = some r) (hword : ¬f.SaysUnknown r) :
    (f.criterion.holds unknownWord b = true ↔ f.IsBlank r) ∧
    (∀ s, Criterion.shown.holds f.placeholder.code b = true ↔ f.placeholder.render s b ≠ []) ∧
    (f.criterion.holds unknownWord b = true ∨
      Criterion.shown.holds f.placeholder.code b = true) ∧
    (f.criterion.holds unknownWord b = !Criterion.shown.holds f.placeholder.code b ↔
      (f.IsBlank r → f.entries r = [] ∨ f.entries r = [[]])) := by
  have hunknown : f.criterion.holds unknownWord b = true ↔ f.IsBlank r := by
    rw [holds_unknownWord_iff f hr, or_iff_left hword]
  have hfound := holds_shown_iff f b {}
  have hmissed : Criterion.shown.holds f.placeholder.code b = false ↔
      f.placeholder.render {} b = [] := by
    rw [← Bool.not_eq_true, hfound, ne_eq, Decidable.not_not]
  have hblank : f.placeholder.render {} b = [] → f.IsBlank r := isBlank_of_render_eq_nil hr
  refine ⟨hunknown, holds_shown_iff f b, ?_, ?_⟩
  · by_cases hnil : f.placeholder.render {} b = []
    · exact .inl (hunknown.mpr (hblank hnil))
    · exact .inr (hfound.mpr hnil)
  · rw [Bool.eq_iff_iff, Bool.not_eq_true', hunknown, hmissed, ← intercalate_comma_eq_nil_iff,
      ← render_placeholder f hr {}]
    exact ⟨Iff.mp, fun h => ⟨h, hblank⟩⟩

/-- A release whose blank fields differ in what they hold. -/
def blankSample : Release where
  source := some [' ', ' ']
  audioLanguages := [[], []]
  subtitleLanguages := [[]]

def blankSampleBundle : Bundle where
  file := { name := "a.mkv".toList, ed2k := [], size := 1 }
  release := some blankSample

theorem not_saysUnknown_blankSample (f : ProbedField) : ¬f.SaysUnknown blankSample := by
  unfold SaysUnknown
  cases f <;> decide

/-- One empty entry is not found, two of them are. -/
theorem unknown_found_spec_blankSample :
    blankSampleBundle.release = some blankSample ∧
      ¬subtitleLanguages.SaysUnknown blankSample ∧ ¬dubLanguages.SaysUnknown blankSample ∧
      subtitleLanguages.criterion.holds unknownWord blankSampleBundle =
        !Criterion.shown.holds subtitleLanguages.placeholder.code blankSampleBundle ∧
      dubLanguages.criterion.holds unknownWord blankSampleBundle ≠
        !Criterion.shown.holds dubLanguages.placeholder.code blankSampleBundle := by
  have hword := not_saysUnknown_blankSample
  refine ⟨rfl, hword _, hword _, ?_, fun h => ?_⟩
  · exact (unknown_found_spec rfl (hword subtitleLanguages)).2.2.2.mpr fun _ => .inr rfl
  · have hempty := (unknown_found_spec rfl (hword dubLanguages)).2.2.2.mp h
    exact absurd (hempty (by unfold IsBlank; decide)) (by decide)

/-- A source that is nothing but white space is unknown, and it is found. -/
theorem not_forall_unknown_ne_found :
    ¬∀ (f : ProbedField) (b : Bundle) (r : Release), b.release = some r → ¬f.SaysUnknown r →
      f.criterion.holds unknownWord b = !Criterion.shown.holds f.placeholder.code b := by
  intro h
  have hsource := h source blankSampleBundle blankSample rfl (not_saysUnknown_blankSample source)
  revert hsource
  decide

end ProbedField

end MediaNaming
