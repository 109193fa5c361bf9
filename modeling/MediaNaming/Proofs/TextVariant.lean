import Mathlib.Data.List.Forall2
import MediaNaming.Criterion.Decision
import MediaNaming.Proofs.NumeralForm
import MediaNaming.Proofs.Parameter
import MediaNaming.Proofs.BlankField

/-!
What tests pass over. No test tells apart two parameters that differ in the case of ASCII letters
and in the white space around them. The tests that compare a text of the release, or look into one
of its lists, do not tell apart texts which differ in this way either, and for a list neither the
order of its entries counts nor how often one occurs, nor do blank entries.
-/

namespace MediaNaming

namespace Text

/-! ### Small letters -/

theorem exists_eq_ofNat_of_isUpper {c : Char} (h : c.isUpper = true) :
    ∃ n < 26, c = Char.ofNat (n + 65) := by
  have hrange := toNat_of_isUpper h
  refine ⟨c.toNat - 65, by omega, ?_⟩
  rw [Nat.sub_add_cancel hrange.1, Char.ofNat_toNat]

/-- What is the same for the two forms of every letter is not changed by making it small. -/
theorem apply_toLower {α : Type} {f : Char → α}
    (h : ∀ n < 26, f (Char.ofNat (n + 97)) = f (Char.ofNat (n + 65))) (c : Char) :
    f c.toLower = f c := by
  have hsmall : ∀ n < 26, (Char.ofNat (n + 65)).toLower = Char.ofNat (n + 97) := by decide
  rcases toLower_eq_or_isUpper c with hsame | hupper
  · rw [hsame]
  · obtain ⟨n, hn, rfl⟩ := exists_eq_ofNat_of_isUpper hupper
    rw [hsmall n hn, h n hn]

theorem isBlank_toLower (c : Char) : isBlank c.toLower = isBlank c := apply_toLower (by decide) c

theorem isCased_toLower (c : Char) : isCased c.toLower = isCased c := apply_toLower (by decide) c

theorem isCaseIgnorable_toLower (c : Char) : isCaseIgnorable c.toLower = isCaseIgnorable c :=
  apply_toLower (by decide) c

theorem lowerChar_toLower (c : Char) : lowerChar c.toLower = lowerChar c :=
  apply_toLower (by decide) c

theorem isAlpha_toLower (c : Char) : c.toLower.isAlpha = c.isAlpha := apply_toLower (by decide) c

theorem toLower_toLower (c : Char) : c.toLower.toLower = c.toLower := apply_toLower (by decide) c

/-- A character that is no letter is no other character made small. -/
theorem toLower_eq_iff {c d : Char}
    (h : ∀ n < 26, (Char.ofNat (n + 97) == d) = (Char.ofNat (n + 65) == d)) :
    c.toLower = d ↔ c = d := by
  rw [← beq_iff_eq, apply_toLower (f := (· == d)) h c, beq_iff_eq]

theorem asciiLower_cons (c : Char) (t : Text) :
    asciiLower (c :: t) = c.toLower :: asciiLower t := rfl

theorem asciiLower_asciiLower (t : Text) : t.asciiLower.asciiLower = t.asciiLower := by
  rw [asciiLower, asciiLower, List.map_map]
  exact List.map_congr_left fun c _ => toLower_toLower c

theorem sameLetters_asciiLower (s t : Text) : s.sameLetters t.asciiLower = s.sameLetters t := by
  rw [sameLetters, sameLetters, asciiLower_asciiLower]

theorem asciiLower_sameLetters (s t : Text) : s.asciiLower.sameLetters t = s.sameLetters t := by
  rw [sameLetters, sameLetters, asciiLower_asciiLower]

theorem head?_asciiLower {t : Text} {d : Char}
    (h : ∀ n < 26, (Char.ofNat (n + 97) == d) = (Char.ofNat (n + 65) == d)) :
    t.asciiLower.head? = some d ↔ t.head? = some d := by
  rw [asciiLower, List.head?_map, Option.map_eq_some_iff]
  simp only [toLower_eq_iff h, exists_eq_right]

theorem dropWhile_asciiLower {P : Char → Bool} (hP : ∀ c, P c.toLower = P c) (t : Text) :
    t.asciiLower.dropWhile P = asciiLower (t.dropWhile P) := by
  have hsame : P ∘ Char.toLower = P := funext hP
  rw [asciiLower, List.dropWhile_map, hsame, asciiLower]

theorem asciiLower_trimStart (t : Text) : t.trimStart.asciiLower = t.asciiLower.trimStart :=
  (dropWhile_asciiLower isBlank_toLower t).symm

theorem asciiLower_trimEnd (t : Text) : t.trimEnd.asciiLower = t.asciiLower.trimEnd := by
  have hrev (u : Text) : asciiLower u.reverse = u.asciiLower.reverse := List.map_reverse
  have hstart := asciiLower_trimStart t.reverse
  rw [hrev] at hstart
  rw [trimEnd, trimEnd, hrev]
  exact congrArg List.reverse hstart

theorem asciiLower_trim (t : Text) : t.trim.asciiLower = t.asciiLower.trim := by
  rw [trim, trim, asciiLower_trimEnd, asciiLower_trimStart]

theorem meetsCased_asciiLower (t : Text) : meetsCased t.asciiLower = meetsCased t := by
  rw [meetsCased, meetsCased, dropWhile_asciiLower isCaseIgnorable_toLower, asciiLower,
    List.head?_map]
  cases (t.dropWhile isCaseIgnorable).head? with
  | none => rfl
  | some c => exact isCased_toLower c

/-- A sigma looks at the letters around it, and these are letters in either form. -/
theorem lowerAfter_asciiLower (before t : Text) :
    lowerAfter before.asciiLower t.asciiLower = lowerAfter before t := by
  induction t generalizing before with
  | nil => rfl
  | cons c rest ih =>
      have hsigma : c.toLower = 'Σ' ↔ c = 'Σ' := toLower_eq_iff (by decide)
      have hrest := ih (c :: before)
      rw [asciiLower_cons] at hrest
      rw [asciiLower_cons, lowerAfter, lowerAfter, hrest, lowerChar_toLower,
        meetsCased_asciiLower, meetsCased_asciiLower]
      simp only [hsigma]

theorem lower_asciiLower (t : Text) : lower t.asciiLower = lower t := lowerAfter_asciiLower [] t

/-! ### Numerals -/

theorem asciiLower_of_not_isAlpha {t : Text} (h : ∀ c ∈ t, c.isAlpha = false) :
    t.asciiLower = t := by
  have hsame : t.map Char.toLower = t.map id := by
    refine List.map_congr_left fun c hc => ?_
    rcases toLower_eq_or_isUpper c with hsame | hupper
    · exact hsame
    · have hletter : c.isAlpha = true := Bool.or_eq_true_iff.mpr (.inl hupper)
      rw [h c hc] at hletter
      cases hletter
  rw [asciiLower, hsame, List.map_id]

theorem not_isAlpha_of_int64? {t : Text} {n : Int} (h : int64? t = some n) :
    ∀ c ∈ t, c.isAlpha = false := by
  obtain ⟨⟨w, rfl, -⟩, -⟩ := int64?_eq_some_iff.mp h
  exact fun _ => Numeral.not_isAlpha_of_mem_toText

/-- A text with letters is a numeral in neither form, and a text without any has only one. -/
theorem int64?_asciiLower (t : Text) : int64? t.asciiLower = int64? t := by
  ext n
  constructor
  · intro h
    have hletter : ∀ c ∈ t, c.isAlpha = false := by
      intro c hc
      rw [← isAlpha_toLower]
      exact not_isAlpha_of_int64? h _ (List.mem_map_of_mem hc)
    rwa [asciiLower_of_not_isAlpha hletter] at h
  · intro h
    rwa [asciiLower_of_not_isAlpha (not_isAlpha_of_int64? h)]

/-! ### Variants -/

/-- The same text in any ASCII case, with white space around it. -/
inductive IsVariant (s : Text) : Text → Prop
  | intro {g u g' : Text} (hg : ∀ c ∈ g, isBlank c = true) (hu : u.sameLetters s = true)
      (hg' : ∀ c ∈ g', isBlank c = true) : IsVariant s (g ++ u ++ g')

namespace IsVariant

variable {s t : Text}

theorem asciiLower_trim_eq (h : IsVariant s t) : t.trim.asciiLower = s.trim.asciiLower := by
  cases h with
  | intro hg hu hg' =>
      rw [sameLetters, beq_iff_eq] at hu
      rw [trim_append_right hg', trim_append_left hg, asciiLower_trim, hu, asciiLower_trim]

theorem trim_eq_nil_iff (h : IsVariant s t) : t.trim = [] ↔ s.trim = [] := by
  have hlength := congrArg List.length h.asciiLower_trim_eq
  rw [asciiLower, asciiLower, List.length_map, List.length_map] at hlength
  rw [← List.length_eq_zero_iff, hlength, List.length_eq_zero_iff]

theorem isBlankText_eq (h : IsVariant s t) : t.isBlankText = s.isBlankText := by
  rw [Bool.eq_iff_iff, ← Text.trim_eq_nil_iff, ← Text.trim_eq_nil_iff, h.trim_eq_nil_iff]

theorem sameWords_trim (h : IsVariant s t) (word : Text) :
    sameWords t.trim word = sameWords s.trim word := by
  have hlower : lower t.trim = lower s.trim := by
    rw [← lower_asciiLower t.trim, h.asciiLower_trim_eq, lower_asciiLower]
  rw [sameWords, sameWords, hlower]

end IsVariant

end Text

/-! ### Parameters -/

namespace Comparison

theorem splitNegation_asciiLower (t : Text) :
    splitNegation t.asciiLower = ((splitNegation t).1, (splitNegation t).2.asciiLower) := by
  by_cases h : t.head? = some '!'
  · obtain ⟨rest, rfl⟩ := List.head?_eq_some_iff.mp h
    rfl
  · have hlower : t.asciiLower.head? ≠ some '!' := by
      rwa [ne_eq, Text.head?_asciiLower (by decide)]
    rw [splitNegation_of_head? h, splitNegation_of_head? hlower]

theorem splitRelation_asciiLower (t : Text) :
    splitRelation t.asciiLower = ((splitRelation t).1, (splitRelation t).2.asciiLower) := by
  by_cases h : Orders t
  · obtain ⟨c, hc, hmark⟩ := h
    obtain ⟨rest, rfl⟩ := List.head?_eq_some_iff.mp hc
    by_cases heq : rest.head? = some '='
    · obtain ⟨rest, rfl⟩ := List.head?_eq_some_iff.mp heq
      rcases hmark with rfl | rfl <;> rfl
    · have hlower : (Text.asciiLower rest).head? ≠ some '=' := by
        rwa [ne_eq, Text.head?_asciiLower (by decide)]
      rcases hmark with rfl | rfl
      · have hless : splitRelation ('<' :: rest) = (some .less, rest) :=
          splitRelation_symbol_append .less heq
        rw [hless]
        exact splitRelation_symbol_append .less hlower
      · have hgreater : splitRelation ('>' :: rest) = (some .greater, rest) :=
          splitRelation_symbol_append .greater heq
        rw [hgreater]
        exact splitRelation_symbol_append .greater hlower
  · have hlower : ¬Orders t.asciiLower := by
      rintro ⟨c, hc, hmark⟩
      refine h ⟨c, ?_, hmark⟩
      rcases hmark with rfl | rfl
      · exact (Text.head?_asciiLower (by decide)).mp hc
      · exact (Text.head?_asciiLower (by decide)).mp hc
    rw [splitRelation_of_not_orders h, splitRelation_of_not_orders hlower]

theorem ofText_asciiLower (p : Text) :
    ofText p.asciiLower = { ofText p with value := (ofText p).value.asciiLower } := by
  simp only [ofText, ← Text.asciiLower_trim, splitNegation_asciiLower, splitRelation_asciiLower]

theorem ofPlainText_asciiLower (p : Text) :
    ofPlainText p.asciiLower =
      { ofPlainText p with value := (ofPlainText p).value.asciiLower } := by
  simp only [ofPlainText, ← Text.asciiLower_trim, splitNegation_asciiLower]

theorem ofPlainText_of_trim_eq {p q : Text} (h : p.trim = q.trim) :
    ofPlainText p = ofPlainText q := by
  simp only [ofPlainText, h]

end Comparison

theorem answersTo_asciiLower (t : Option Text) (word : Text) :
    answersTo t word.asciiLower = answersTo t word := by
  rw [answersTo, answersTo, Text.sameWords, Text.sameWords, Text.lower_asciiLower]

theorem listAnswersTo_asciiLower (emptyWords items : List Text) (word : Text) :
    listAnswersTo emptyWords items word.asciiLower = listAnswersTo emptyWords items word := by
  simp only [listAnswersTo, Text.sameLetters_asciiLower, Text.sameWords, Text.lower_asciiLower]

theorem Placeholder.ofName?_asciiLower (name : Text) : ofName? name.asciiLower = ofName? name := by
  have hpercent (c : Char) : (c.toLower == '%') = (c == '%') :=
    Text.apply_toLower (f := (· == '%')) (by decide) c
  simp only [ofName?, ← Text.asciiLower_trim,
    Text.dropWhile_asciiLower (P := (· == '%')) hpercent, Text.sameLetters_asciiLower]

namespace Criterion

/-- Only the message of a fault shows the case of the parameter. -/
theorem holds_asciiLower (k : Criterion) (p : Text) (b : Bundle) :
    k.holds p.asciiLower b = k.holds p b := by
  cases k with
  | figure f =>
      simp only [holds, ask, Comparison.ofText_asciiLower, Text.asciiLower_sameLetters, Figure.ask,
        Text.int64?_asciiLower]
      by_cases hword : f = .groupId ∧ (Comparison.ofText p).relation = none ∧
          (Comparison.ofText p).value.sameLetters unknownWord = true
      · rw [if_pos hword, if_pos hword]
        rfl
      · rw [if_neg hword, if_neg hword]
        cases Text.int64? (Comparison.ofText p).value <;> rfl
  | wording w =>
      simp only [holds, ask, Comparison.ofPlainText_asciiLower, answersTo_asciiLower]
      rfl
  | listing l =>
      simp only [holds, ask, Comparison.ofPlainText_asciiLower, listAnswersTo_asciiLower]
      rfl
  | shown =>
      simp only [holds, ask, Comparison.ofPlainText_asciiLower, Placeholder.ofName?_asciiLower]
      cases Placeholder.ofName? (Comparison.ofPlainText p).value <;> rfl
  | manual =>
      simp only [holds, ask, Comparison.ofPlainText_asciiLower]
      rfl
  | linked =>
      simp only [holds, ask, Comparison.ofPlainText_asciiLower]
      rfl

theorem holds_of_trim_eq {p q : Text} (h : p.trim = q.trim) (k : Criterion) (b : Bundle) :
    k.holds p b = k.holds q b := by
  have htext := Comparison.ofText_of_trim_eq h
  have hplain := Comparison.ofPlainText_of_trim_eq h
  cases k <;> simp only [holds, ask, htext, hplain]

/-- No test tells a parameter from its variants. -/
theorem holds_of_isVariant {p p' : Text} (h : Text.IsVariant p p') (k : Criterion) (b : Bundle) :
    k.holds p' b = k.holds p b :=
  calc
    k.holds p' b = k.holds p'.trim.asciiLower b := by
      rw [holds_asciiLower, holds_of_trim_eq (Text.trim_trim p')]
    _ = k.holds p b := by
      rw [h.asciiLower_trim_eq, holds_asciiLower, holds_of_trim_eq (Text.trim_trim p)]

end Criterion

/-! ### Stored texts -/

/-- Two lists whose entries say the same: their order and their number do not count, nor do blank
entries. -/
inductive SameEntries : List Text → List Text → Prop
  | perm {l l' : List Text} (h : l.Perm l') : SameEntries l l'
  | duplicate {l : List Text} {t : Text} (h : t ∈ l) : SameEntries l (t :: l)
  | blank {l : List Text} {t : Text} (h : t.isBlankText = true) : SameEntries l (t :: l)
  | variants {l l' : List Text} (h : List.Forall₂ Text.IsVariant l l') : SameEntries l l'
  | symm {l l' : List Text} (h : SameEntries l l') : SameEntries l' l
  | trans {l l' l'' : List Text} (h : SameEntries l l') (h' : SameEntries l' l'') :
      SameEntries l l''

theorem answersTo_of_isVariant {o o' : Option Text} (h : Option.Rel Text.IsVariant o o')
    (word : Text) : answersTo o' word = answersTo o word := by
  cases h with
  | none => rfl
  | @some s t h =>
      by_cases hblank : s.trim = []
      · rw [answersTo, answersTo, Option.map_some, Option.map_some, hblank,
          h.trim_eq_nil_iff.mpr hblank]
      · have hvisible : t.trim ≠ [] := fun ht => hblank (h.trim_eq_nil_iff.mp ht)
        rw [answersTo_some hblank, answersTo_some hvisible, h.sameWords_trim]

/-- A blank entry answers to no word. -/
theorem not_sameWords_of_isBlankText {t word : Text} (h : t.isBlankText = true) (hword : word ≠ []) :
    Text.sameWords t.trim word = false := by
  rw [Text.trim_eq_nil_iff.mpr h, Text.sameWords, beq_eq_false_iff_ne]
  exact (Text.lower_ne_nil hword).symm

namespace SameEntries

variable {l l' : List Text}

/-- Whether some entry passes is the same for both lists if variants pass together and blank entries
do not pass. -/
theorem any_eq {P : Text → Bool} (h : SameEntries l l')
    (hvariant : ∀ s t, Text.IsVariant s t → P t = P s)
    (hblank : ∀ t, t.isBlankText = true → P t = false) : l'.any P = l.any P := by
  induction h with
  | perm h => exact h.symm.any_eq
  | @duplicate l t h =>
      rw [List.any_cons, Bool.or_eq_right_iff_imp, List.any_eq_true]
      exact fun hpass => ⟨t, h, hpass⟩
  | @blank l t h => rw [List.any_cons, hblank t h, Bool.false_or]
  | variants h =>
      induction h with
      | nil => rfl
      | cons h _ ih => rw [List.any_cons, List.any_cons, hvariant _ _ h, ih]
  | symm _ ih => exact ih.symm
  | trans _ _ ih ih' => exact ih'.trans ih

theorem all_isBlankText_eq (h : SameEntries l l') :
    l'.all Text.isBlankText = l.all Text.isBlankText := by
  have hvisible : (l'.any fun t => !t.isBlankText) = l.any fun t => !t.isBlankText := by
    refine h.any_eq (fun s t hvariant => ?_) (fun t hblank => ?_)
    · rw [hvariant.isBlankText_eq]
    · rw [hblank, Bool.not_true]
  rw [List.all_eq_not_any_not, hvisible, ← List.all_eq_not_any_not]

theorem any_sameWords_eq (h : SameEntries l l') {word : Text} (hword : word ≠ []) :
    (l'.any fun t => Text.sameWords t.trim word) = l.any fun t => Text.sameWords t.trim word := by
  refine h.any_eq (fun s t hvariant => ?_) (fun t hblank => ?_)
  · exact hvariant.sameWords_trim word
  · exact not_sameWords_of_isBlankText hblank hword

theorem listAnswersTo_eq (h : SameEntries l l') {word : Text} (hword : word ≠ [])
    (emptyWords : List Text) :
    listAnswersTo emptyWords l' word = listAnswersTo emptyWords l word := by
  rw [listAnswersTo, listAnswersTo, h.all_isBlankText_eq, h.any_sameWords_eq hword]

end SameEntries

/-- Two releases whose texts say the same to a test. -/
structure Release.SaysSame (r r' : Release) : Prop where
  source : Option.Rel Text.IsVariant r.source r'.source
  videoCodec : Option.Rel Text.IsVariant r.videoCodec r'.videoCodec
  audioCodecs : SameEntries r.audioCodecs r'.audioCodecs
  audioLanguages : SameEntries r.audioLanguages r'.audioLanguages
  subtitleLanguages : SameEntries r.subtitleLanguages r'.subtitleLanguages

/-! ### Tests on releases -/

namespace Criterion

/-- The tests that compare a text of the release or look into one of its lists. -/
inductive ComparesRelease : Criterion → Prop
  | source : ComparesRelease (.wording .source)
  | videoCodec : ComparesRelease (.wording .videoCodec)
  | listing (l : Listing) : ComparesRelease (.listing l)

variable {k : Criterion} {b b' : Bundle} {p p' : Text}

theorem holds_of_saysSame (hk : k.ComparesRelease) (hp : (Comparison.ofPlainText p).value ≠ [])
    (h : Option.Rel Release.SaysSame b.release b'.release) : k.holds p b' = k.holds p b := by
  generalize hr : b.release = o at h
  generalize hr' : b'.release = o' at h
  cases hk with
  | source =>
      simp only [holds, ask, Wording.value, hr, hr']
      cases h with
      | none => rfl
      | some h => simp only [orMissing, Except.map, answersTo_of_isVariant h.source]
  | videoCodec =>
      simp only [holds, ask, Wording.value, hr, hr']
      cases h with
      | none => rfl
      | some h => simp only [orMissing, Except.map, answersTo_of_isVariant h.videoCodec]
  | listing l =>
      simp only [holds, ask, Listing.items, hr, hr']
      cases h with
      | none => rfl
      | some h =>
          cases l with
          | dubLanguages => simp only [orMissing, Except.map, h.audioLanguages.listAnswersTo_eq hp]
          | subtitleLanguages =>
              simp only [orMissing, Except.map, h.subtitleLanguages.listAnswersTo_eq hp]
          | audioCodecs => simp only [orMissing, Except.map, h.audioCodecs.listAnswersTo_eq hp]

/-- A list of blank entries is as good as an empty one. -/
theorem holds_of_all_isBlankText {l : Listing} {items : List Text} (h : l.items b = .ok [])
    (h' : l.items b' = .ok items) (hblank : ∀ t ∈ items, t.isBlankText = true) :
    (listing l).holds p b' = (listing l).holds p b := by
  have hall : items.all Text.isBlankText = true := List.all_eq_true.mpr hblank
  simp only [holds, ask, h, h', Except.map, listAnswersTo, hall, List.all_nil, if_true]

/-- A parameter may be written in any ASCII case and with white space around it. Where a test
compares texts of the release with something that is not blank, these may be written so too, and the
entries of a list may be put in another order, repeated, and mixed with blank ones. A list of nothing
but blank entries answers as an empty one does. -/
theorem holds_variant (k : Criterion) (b b' : Bundle) (h : Text.IsVariant p p') :
    k.holds p' b = k.holds p b ∧
    (k.ComparesRelease → (Comparison.ofPlainText p).value ≠ [] →
      Option.Rel Release.SaysSame b.release b'.release → k.holds p' b' = k.holds p b) ∧
    (∀ (l : Listing) (items : List Text), l.items b = .ok [] → l.items b' = .ok items →
      (∀ t ∈ items, t.isBlankText = true) → (listing l).holds p' b' = (listing l).holds p b) := by
  refine ⟨holds_of_isVariant h k b, fun hk hp hrelease => ?_, fun l items hnil hitems hblank => ?_⟩
  · rw [holds_of_isVariant h, holds_of_saysSame hk hp hrelease]
  · rw [holds_of_isVariant h, holds_of_all_isBlankText hnil hitems hblank]

/-- A file with a dub of one language and without subtitles. -/
def dubbedSample : Bundle where
  file := { name := "a.mkv".toList, ed2k := [], size := 1 }
  release := some { audioLanguages := ["japanese".toList] }

/-- The same file as a careless hand would describe it. -/
def carelessSample : Bundle where
  file := { name := "a.mkv".toList, ed2k := [], size := 1 }
  release := some {
    audioLanguages := [" ".toList, " JAPANESE\t".toList, " JAPANESE\t".toList]
    subtitleLanguages := [[], " ".toList] }

theorem isVariant_japanese : Text.IsVariant "japanese".toList " JAPANESE\t".toList := by
  have hbefore : ∀ c ∈ [' '], Text.isBlank c = true := List.forall_mem_singleton.mpr rfl
  have hword : Text.sameLetters "JAPANESE".toList "japanese".toList = true := rfl
  have hafter : ∀ c ∈ ['\t'], Text.isBlank c = true := List.forall_mem_singleton.mpr rfl
  exact .intro hbefore hword hafter

theorem isVariant_none : Text.IsVariant "none".toList "\tNone ".toList := by
  have hbefore : ∀ c ∈ ['\t'], Text.isBlank c = true := List.forall_mem_singleton.mpr rfl
  have hword : Text.sameLetters "None".toList "none".toList = true := rfl
  have hafter : ∀ c ∈ [' '], Text.isBlank c = true := List.forall_mem_singleton.mpr rfl
  exact .intro hbefore hword hafter

theorem saysSame_carelessSample :
    Option.Rel Release.SaysSame dubbedSample.release carelessSample.release := by
  have hdub : SameEntries ["japanese".toList]
      [" ".toList, " JAPANESE\t".toList, " JAPANESE\t".toList] :=
    ((SameEntries.variants (.cons isVariant_japanese .nil)).trans
      (.duplicate List.mem_cons_self)).trans (.blank rfl)
  have hsubtitles : SameEntries [] [[], " ".toList] :=
    (SameEntries.blank rfl).trans (.blank rfl)
  exact .some ⟨.none, .none, .perm .nil, hdub, hsubtitles⟩

theorem holds_variant_carelessSample :
    (Text.IsVariant "japanese".toList " JAPANESE\t".toList ∧
      (listing .dubLanguages).ComparesRelease ∧
      (Comparison.ofPlainText "japanese".toList).value ≠ [] ∧
      Option.Rel Release.SaysSame dubbedSample.release carelessSample.release ∧
      (listing .dubLanguages).holds " JAPANESE\t".toList carelessSample =
        (listing .dubLanguages).holds "japanese".toList dubbedSample) ∧
    (Text.IsVariant "none".toList "\tNone ".toList ∧
      Listing.subtitleLanguages.items dubbedSample = .ok [] ∧
      Listing.subtitleLanguages.items carelessSample = .ok [[], " ".toList] ∧
      (∀ t ∈ [[], " ".toList], Text.isBlankText t = true) ∧
      (listing .subtitleLanguages).holds "\tNone ".toList carelessSample =
        (listing .subtitleLanguages).holds "none".toList dubbedSample) := by
  have hk : (listing .dubLanguages).ComparesRelease := .listing .dubLanguages
  have hvalue : (Comparison.ofPlainText "japanese".toList).value ≠ [] := by decide
  have hblank : ∀ t ∈ [[], " ".toList], Text.isBlankText t = true := by decide
  refine ⟨⟨isVariant_japanese, hk, hvalue, saysSame_carelessSample, ?_⟩, isVariant_none, rfl, rfl,
    hblank, ?_⟩
  · exact (holds_variant _ _ _ isVariant_japanese).2.1 hk hvalue saysSame_carelessSample
  · exact (holds_variant (listing .subtitleLanguages) _ _ isVariant_none).2.2 _ _ rfl rfl hblank

end Criterion

end MediaNaming
