import Mathlib.Data.List.Infix
import MediaNaming.Proofs.Comment

/-!
How scripts are spelled. Each relation below says which texts spell a part of a script. Keywords
and the letters of tests stand in either case, white space of any kind stands where two parts meet,
and what stands between quotes is free. One part may have many spellings.
-/

namespace MediaNaming

inductive Keyword where
  | act | when | append | replace | reject

def Keyword.word : Keyword → Text
  | .act => ['D', 'O']
  | .when => ['I', 'F']
  | .append => "ADD".toList
  | .replace => "REPLACE".toList
  | .reject => "FAIL".toList

/-- A text spells a keyword if it has its letters in any case. -/
def Keyword.Spells (t : Text) (k : Keyword) : Prop := t.sameLetters k.word = true

instance (t : Text) (k : Keyword) : Decidable (Keyword.Spells t k) :=
  inferInstanceAs (Decidable (t.sameLetters k.word = true))

/-- White space inside a line. -/
def IsGap (t : Text) : Prop := ∀ c ∈ t, Text.isBlank c = true ∧ c ≠ '\n'

instance (t : Text) : Decidable (IsGap t) := List.decidableBAll _ t

/-- White space inside a line where some is needed. -/
structure IsBreak (t : Text) : Prop where
  gap : IsGap t
  ne_nil : t ≠ []

instance (t : Text) : Decidable (IsBreak t) :=
  decidable_of_iff (IsGap t ∧ t ≠ []) ⟨fun ⟨hg, hne⟩ => ⟨hg, hne⟩, fun h => ⟨h.gap, h.ne_nil⟩⟩

/-- A text that can stand between quotes. -/
structure IsQuotable (t : Text) : Prop where
  no_quote : '\'' ∉ t
  no_lineFeed : '\n' ∉ t

instance (t : Text) : Decidable (IsQuotable t) :=
  decidable_of_iff ('\'' ∉ t ∧ '\n' ∉ t)
    ⟨fun ⟨hquote, hfeed⟩ => ⟨hquote, hfeed⟩, fun h => ⟨h.no_quote, h.no_lineFeed⟩⟩

/-- A text that can stand between the parentheses of a test. -/
structure IsParameter (p : Text) : Prop extends IsQuotable p where
  trim_eq : p.trim = p
  no_closing : ')' ∉ p
  no_slashes : ¬ ['/', '/'] <:+: p

instance (p : Text) : Decidable (IsParameter p) :=
  decidable_of_iff (IsQuotable p ∧ p.trim = p ∧ ')' ∉ p ∧ ¬ ['/', '/'] <:+: p)
    ⟨fun ⟨hquotable, htrim, hclosing, hslashes⟩ => ⟨hquotable, htrim, hclosing, hslashes⟩,
      fun h => ⟨h.toIsQuotable, h.trim_eq, h.no_closing, h.no_slashes⟩⟩

def Text.inQuotes (t : Text) : Text := '\'' :: t ++ ['\'']

inductive Test.Spells : Text → Test → Prop
  | intro {g₁ g₂ g₃ g₄ p : Text} {letter : Char} (hg₁ : IsGap g₁) (hg₂ : IsGap g₂) (hg₃ : IsGap g₃)
      (hg₄ : IsGap g₄) (hletter : letter.isAlpha = true) (hp : IsParameter p) :
      Test.Spells (g₁ ++ letter :: g₂ ++ '(' :: g₃ ++ p ++ g₄ ++ [')']) ⟨letter, p⟩

/-- The tests after a first one, those after semicolons apart from those after commas. -/
inductive Joint.Spells : Text → List Test → List Test → Prop
  | nil : Joint.Spells [] [] []
  | also {g t rest : Text} {x : Test} {xs ys : List Test} (hg : IsGap g) (ht : Test.Spells t x)
      (hrest : Joint.Spells rest xs ys) : Joint.Spells (g ++ ';' :: t ++ rest) (x :: xs) ys
  | orElse {g t rest : Text} {y : Test} {xs ys : List Test} (hg : IsGap g) (ht : Test.Spells t y)
      (hrest : Joint.Spells rest xs ys) : Joint.Spells (g ++ ',' :: t ++ rest) xs (y :: ys)

/-- The letter of the first test has to name a criterion. -/
inductive Guard.Spells : Text → Guard → Prop
  | intro {t rest : Text} {x : Test} {xs ys : List Test} {k : Criterion} (ht : Test.Spells t x)
      (hletter : k.letter = x.letter.toUpper) (hrest : Joint.Spells rest xs ys) :
      Guard.Spells (t ++ rest) ⟨x, xs, ys⟩

inductive Step.Spells : Text → Step → Prop
  | append {w g t : Text} (hw : Keyword.Spells w .append) (hg : IsBreak g)
      (ht : IsQuotable t) : Step.Spells (w ++ g ++ t.inQuotes) (.append (Template.ofText t))
  | replace {w g old g' new : Text} {o : Char} (hw : Keyword.Spells w .replace)
      (hg : IsBreak g) (hold : IsQuotable (o :: old)) (hg' : IsGap g') (hnew : IsQuotable new) :
      Step.Spells (w ++ g ++ Text.inQuotes (o :: old) ++ g' ++ new.inQuotes) (.replace o old new)
  | reject {w : Text} (hw : Keyword.Spells w .reject) : Step.Spells w .reject

inductive Statement.Spells : Text → Statement → Prop
  | always {w g t : Text} {step : Step} (hw : Keyword.Spells w .act)
      (hg : IsBreak g) (ht : Step.Spells t step) : Statement.Spells (w ++ g ++ t) ⟨none, step⟩
  | guarded {w g t g' w' g'' u : Text} {guard : Guard} {step : Step}
      (hw : Keyword.Spells w .when) (hg : IsBreak g) (ht : Guard.Spells t guard)
      (hg' : IsGap g') (hw' : Keyword.Spells w' .act) (hg'' : IsBreak g'')
      (hu : Step.Spells u step) :
      Statement.Spells (w ++ g ++ t ++ g' ++ w' ++ g'' ++ u) ⟨some guard, step⟩

/-- A script with one statement on each line. -/
inductive Script.Spells : Text → List Statement → Prop
  | nil : Script.Spells [] []
  | cons {g t g' e rest : Text} {st : Statement} {sts : List Statement} (hg : IsGap g)
      (ht : Statement.Spells t st) (hg' : IsGap g') (he : e = ['\n'] ∨ e = ['\r', '\n'])
      (hrest : Script.Spells rest sts) :
      Script.Spells (g ++ t ++ g' ++ e ++ rest) (st :: sts)

/-! ### Spelled texts are clear -/

/-- A text made of letters. -/
structure IsWord (t : Text) : Prop where
  ne_nil : t ≠ []
  isAlpha : ∀ c ∈ t, c.isAlpha = true

theorem Keyword.Spells.length_eq {t : Text} {k : Keyword} (h : Keyword.Spells t k) :
    t.length = k.word.length := by
  rw [Keyword.Spells, Text.sameLetters, beq_iff_eq] at h
  simpa [Text.asciiLower] using congrArg List.length h

theorem Keyword.Spells.isWord {t : Text} {k : Keyword} (h : Keyword.Spells t k) : IsWord t where
  ne_nil := by
    have hlength := h.length_eq
    rintro rfl
    cases k <;> cases hlength
  isAlpha := by
    refine Text.forall_of_sameLetters h (fun _ => Text.isAlpha_of_isAlpha_toLower) ?_
    cases k <;> rfl

/-- A spelling of one word is no spelling of another. -/
theorem Keyword.Spells.not_sameLetters {t word : Text} {k : Keyword} (h : Keyword.Spells t k)
    (hword : k.word.sameLetters word = false) : ¬ t.sameLetters word = true := by
  rw [Text.sameLetters_congr h, hword]
  exact Bool.false_ne_true

theorem IsWord.isClear {t : Text} (h : IsWord t) : IsClear t := by
  refine .of_no_slash fun c hc hmem => ?_
  have hletter := h.isAlpha c hc
  simp only [List.mem_cons, List.not_mem_nil, or_false] at hmem
  rcases hmem with rfl | rfl | rfl <;> exact absurd hletter (by decide)

theorem IsGap.not_mem {g : Text} (h : IsGap g) {c : Char} (hc : Text.isBlank c = false) :
    c ∉ g := by
  intro hmem
  rw [(h c hmem).1] at hc
  cases hc

theorem IsGap.isClear {g : Text} (h : IsGap g) : IsClear g := by
  refine .of_no_slash fun c hc hmem => ?_
  simp only [List.mem_cons, List.not_mem_nil, or_false] at hmem
  rcases hmem with rfl | rfl | rfl
  · exact (h _ hc).2 rfl
  · exact h.not_mem rfl hc
  · exact h.not_mem rfl hc

theorem IsQuotable.isClear {t : Text} (h : IsQuotable t) : IsClear t.inQuotes :=
  .quoted h.no_lineFeed h.no_quote

/-- A parameter may end with a slash, which what comes next must not double. -/
theorem IsParameter.isClear {p g : Text} (hp : IsParameter p) (hg : IsGap g) :
    IsClear (p ++ (g ++ [')'])) := by
  have hend : IsClear [')'] := .cons (by decide) .nil
  refine .append_of_not_slashes hp.no_lineFeed hp.no_quote hp.no_slashes (hg.isClear.append hend) ?_
  cases g with
  | nil => exact ⟨')', rfl, by decide⟩
  | cons c g =>
      refine ⟨c, rfl, ?_⟩
      rintro rfl
      exact hg.not_mem rfl List.mem_cons_self

theorem Test.Spells.isClear {t : Text} {x : Test} (h : Test.Spells t x) : IsClear t := by
  cases h with
  | @intro g₁ g₂ g₃ g₄ p letter hg₁ hg₂ hg₃ hg₄ hletter hp =>
      have hword : IsWord [letter] := ⟨List.cons_ne_nil _ _, by simpa using hletter⟩
      have hletter : IsClear (letter :: g₂) := hword.isClear.append hg₂.isClear
      have hopen : IsClear ('(' :: g₃) := .cons (by decide) hg₃.isClear
      have h := hg₁.isClear.append (hletter.append (hopen.append (hp.isClear hg₄)))
      simpa only [List.append_assoc] using h

theorem Joint.Spells.isClear {t : Text} {xs ys : List Test} (h : Joint.Spells t xs ys) :
    IsClear t := by
  induction h with
  | nil => exact .nil
  | also hg ht hrest ih =>
      have hsymbol := IsClear.cons (c := ';') (by decide) ht.isClear
      exact (hg.isClear.append hsymbol).append ih
  | orElse hg ht hrest ih =>
      have hsymbol := IsClear.cons (c := ',') (by decide) ht.isClear
      exact (hg.isClear.append hsymbol).append ih

theorem Guard.Spells.isClear {t : Text} {guard : Guard} (h : Guard.Spells t guard) :
    IsClear t := by
  obtain ⟨ht, hletter, hrest⟩ := h
  exact ht.isClear.append hrest.isClear

theorem Step.Spells.isClear {t : Text} {step : Step} (h : Step.Spells t step) : IsClear t := by
  cases h with
  | append hw hg ht =>
      exact (hw.isWord.isClear.append hg.gap.isClear).append ht.isClear
  | replace hw hg hold hg' hnew =>
      have hverb := hw.isWord.isClear.append hg.gap.isClear
      exact ((hverb.append hold.isClear).append hg'.isClear).append hnew.isClear
  | reject hw => exact hw.isWord.isClear

theorem Statement.Spells.isClear {t : Text} {st : Statement} (h : Statement.Spells t st) :
    IsClear t := by
  cases h with
  | always hw hg ht =>
      exact (hw.isWord.isClear.append hg.gap.isClear).append ht.isClear
  | guarded hw hg ht hg' hw' hg'' hu =>
      have hguard := (hw.isWord.isClear.append hg.gap.isClear).append ht.isClear
      have hverb := (hg'.isClear.append hw'.isWord.isClear).append hg''.gap.isClear
      have h := hguard.append (hverb.append hu.isClear)
      simpa only [List.append_assoc] using h

/-! ### White space around a spelled text does not belong to it -/

theorem IsWord.isFramed {t : Text} (h : IsWord t) : t.IsFramed :=
  Text.isFramed_of_forall h.ne_nil fun c hc => Text.not_isBlank_of_isAlpha (h.isAlpha c hc)

theorem Text.isFramed_inQuotes (t : Text) : t.inQuotes.IsFramed where
  head := ⟨'\'', rfl, by decide⟩
  last := ⟨'\'', List.getLast?_concat, by decide⟩

theorem Step.Spells.isFramed {t : Text} {step : Step} (h : Step.Spells t step) :
    t.IsFramed := by
  cases h with
  | append hw hg ht =>
      exact hw.isWord.isFramed.append (Text.isFramed_inQuotes _) _
  | @replace w g old g' new o hw hg hold hg' hnew =>
      have hframed := hw.isWord.isFramed.append (Text.isFramed_inQuotes (o :: old)) g
      exact hframed.append (Text.isFramed_inQuotes new) g'
  | reject hw => exact hw.isWord.isFramed

theorem Statement.Spells.isFramed {t : Text} {st : Statement} (h : Statement.Spells t st) :
    t.IsFramed := by
  cases h with
  | always hw hg ht =>
      exact hw.isWord.isFramed.append ht.isFramed _
  | @guarded w g t g' w' g'' u guard step hw hg ht hg' hw' hg'' hu =>
      have h := hw.isWord.isFramed.append hu.isFramed (g ++ t ++ g' ++ w' ++ g'')
      simpa only [List.append_assoc] using h

end MediaNaming
