import MediaNaming.Proofs.GuardGrammar
import MediaNaming.Proofs.Spelling

/-!
Scripts are read as they are spelled. Each part of a spelled script is found at the beginning of
the text, whatever follows it, and the statements of a script come back in order, each under the
number of its line.
-/

namespace MediaNaming

theorem IsGap.isBlank {g : Text} (h : IsGap g) : ∀ c ∈ g, Text.isBlank c = true :=
  fun c hc => (h c hc).1

theorem IsGap.trimStart_append {g t : Text} (hg : IsGap g)
    (ht : ∃ c ∈ t.head?, Text.isBlank c = false) : (g ++ t).trimStart = t :=
  Text.trimStart_append_of_visible hg.isBlank ht

theorem IsGap.append {g g' : Text} (hg : IsGap g) (hg' : IsGap g') : IsGap (g ++ g') := by
  intro c hc
  rcases List.mem_append.mp hc with hc | hc
  · exact hg c hc
  · exact hg' c hc

/-! ### Tests -/

theorem Test.Spells.exists_form {t : Text} {x : Test} (h : Test.Spells t x) :
    ∃ f : Test.Form, f.toText = t ∧ f.test = x := by
  cases h with
  | @intro g₁ g₂ g₃ g₄ p letter hg₁ hg₂ hg₃ hg₄ hletter hp =>
      have hclosing : ')' ∉ g₃ ++ p ++ g₄ := by
        simp [hg₃.not_mem (c := ')') rfl, hp.no_closing, hg₄.not_mem (c := ')') rfl]
      have htrim : (g₃ ++ p ++ g₄).trim = p := by
        rw [Text.trim_append_right hg₄.isBlank, Text.trim_append_left hg₃.isBlank, hp.trim_eq]
      refine ⟨⟨g₁, letter, g₂, g₃ ++ p ++ g₄, hg₁.isBlank, hletter, hg₂.isBlank, hclosing⟩, ?_, ?_⟩
      · simp [Test.Form.toText]
      · rw [Test.Form.test, htrim]

theorem Test.Spells.gap_append {g t : Text} {x : Test} (h : Test.Spells t x) (hg : IsGap g) :
    Test.Spells (g ++ t) x := by
  cases h with
  | intro hg₁ hg₂ hg₃ hg₄ hletter hp =>
      simpa only [List.append_assoc] using
        Test.Spells.intro (hg.append hg₁) hg₂ hg₃ hg₄ hletter hp

/-! ### Guards -/

theorem Joint.Spells.exists_forms {t : Text} {xs ys : List Test} (h : Joint.Spells t xs ys) :
    ∃ fs : List Joint.Form, fs.flatMap Joint.Form.toText = t ∧
      Joint.testsAfter .also fs = xs ∧ Joint.testsAfter .orElse fs = ys := by
  induction h with
  | nil => exact ⟨[], rfl, rfl, rfl⟩
  | @also g t u x xs ys hg ht hu ih =>
      obtain ⟨f, rfl, rfl⟩ := ht.exists_form
      obtain ⟨fs, rfl, rfl, rfl⟩ := ih
      exact ⟨⟨g, .also, f, hg.isBlank⟩ :: fs, rfl, rfl, rfl⟩
  | @orElse g t u y xs ys hg ht hu ih =>
      obtain ⟨f, rfl, rfl⟩ := ht.exists_form
      obtain ⟨fs, rfl, rfl, rfl⟩ := ih
      exact ⟨⟨g, .orElse, f, hg.isBlank⟩ :: fs, rfl, rfl, rfl⟩

/-- A spelled guard has the form of one, so it is read up to where nothing more is joined. -/
theorem Guard.Spells.read {t : Text} {guard : Guard} (h : Guard.Spells t guard) {rest : Text}
    (hrest : Joint.read? rest = none) : Guard.read (t ++ rest) = .ok (guard, rest) := by
  cases h with
  | @intro t u x xs ys k ht hletter hu =>
      obtain ⟨f, rfl, rfl⟩ := ht.exists_form
      obtain ⟨fs, rfl, rfl, rfl⟩ := hu.exists_forms
      have hsplits : Guard.Form.Splits ⟨f, fs, ⟨k, hletter⟩⟩ _ rest :=
        ⟨rfl, Joint.read?_eq_none_iff.mp hrest⟩
      exact hsplits.read_eq

theorem Guard.Spells.gap_append {g t : Text} {guard : Guard} (hg : IsGap g)
    (h : Guard.Spells t guard) : Guard.Spells (g ++ t) guard := by
  cases h with
  | intro ht hletter hu =>
      rw [← List.append_assoc]
      exact .intro (ht.gap_append hg) hletter hu

/-! ### Steps -/

theorem Step.readQuoted?_inQuotes {t : Text} (h : '\'' ∉ t) (rest : Text) :
    Step.readQuoted? (t.inQuotes ++ rest) = some (t, rest) := by
  rw [Text.inQuotes, List.append_assoc, List.cons_append, List.singleton_append, Step.readQuoted?,
    Text.takeWhile_ne_append h, Text.dropWhile_ne_append h]

theorem Step.readPair?_inQuotes {g old new : Text} (hg : IsGap g) (hold : '\'' ∉ old)
    (hnew : '\'' ∉ new) :
    Step.readPair? (old.inQuotes ++ g ++ new.inQuotes) = some (old, new) := by
  have hnext : (g ++ new.inQuotes).dropWhile (· ≠ '\'') = new.inQuotes :=
    Text.dropWhile_ne_append (hg.not_mem rfl) _
  have hread := Step.readQuoted?_inQuotes hnew []
  rw [List.append_nil] at hread
  rw [Step.readPair?, List.append_assoc, Step.readQuoted?_inQuotes hold]
  simp only [bind, Option.bind, hnext, hread]
  rfl

theorem IsWord.splitVerb_append {w : Text} (hw : IsWord w) {t : Text}
    (ht : ∀ c ∈ t.head?, Text.isBlank c = true) : Step.splitVerb (w ++ t) = (w, t.trim) := by
  have hword : ∀ c ∈ w, (!Text.isBlank c) = true := by
    intro c hc
    rw [Text.not_isBlank_of_isAlpha (hw.isAlpha c hc), Bool.not_false]
  have hstop : t.takeWhile (!Text.isBlank ·) = [] ∧ t.dropWhile (!Text.isBlank ·) = t := by
    cases t with
    | nil => exact ⟨rfl, rfl⟩
    | cons c t => simp [ht c rfl]
  rw [Step.splitVerb, List.takeWhile_append_of_pos hword, List.dropWhile_append_of_pos hword,
    hstop.1, hstop.2, List.append_nil]

theorem IsWord.splitVerb_break {w g t : Text} (hw : IsWord w) (hg : IsBreak g)
    (ht : t.IsFramed) : Step.splitVerb (w ++ g ++ t) = (w, t) := by
  have hhead : ∀ c ∈ (g ++ t).head?, Text.isBlank c = true := by
    obtain ⟨c, g, rfl⟩ := List.exists_cons_of_ne_nil hg.ne_nil
    rintro d ⟨⟩
    exact hg.gap.isBlank c List.mem_cons_self
  rw [List.append_assoc, hw.splitVerb_append hhead, Text.trim_append_left hg.gap.isBlank,
    ht.trim_eq]

theorem IsWord.splitVerb {w : Text} (hw : IsWord w) : Step.splitVerb w = (w, []) := by
  have hsplit := hw.splitVerb_append (t := []) (by simp)
  rwa [List.append_nil] at hsplit

theorem Step.filter_inQuotes {t : Text} (h : '\'' ∉ t) : t.inQuotes.filter (· ≠ '\'') = t := by
  have hkeep : t.filter (· ≠ '\'') = t := by
    rw [List.filter_eq_self]
    intro c hc
    rw [decide_eq_true_eq]
    rintro rfl
    exact h hc
  rw [Text.inQuotes, List.filter_append, List.filter_cons_of_neg (by simp), hkeep,
    List.filter_cons_of_neg (by simp), List.filter_nil, List.append_nil]

theorem Step.Spells.ofTrimmed? {t : Text} {step : Step} (h : Step.Spells t step) :
    Step.ofTrimmed? t = some step := by
  cases h with
  | @append w g t hw hg ht =>
      have hverb := hw.isWord.splitVerb_break hg (Text.isFramed_inQuotes t)
      rw [Step.ofTrimmed?, hverb]
      refine (if_pos hw).trans ?_
      rw [Step.filter_inQuotes ht.no_quote]
  | @replace w g old g' new o hw hg hold hg' hnew =>
      have hframed := (Text.isFramed_inQuotes (o :: old)).append (Text.isFramed_inQuotes new) g'
      have hverb := hw.isWord.splitVerb_break hg hframed
      have hpair := Step.readPair?_inQuotes hg' hold.no_quote hnew.no_quote
      have hadd : ¬ w.sameLetters "ADD".toList = true := hw.not_sameLetters rfl
      rw [← List.append_assoc, ← List.append_assoc] at hverb
      rw [Step.ofTrimmed?, hverb]
      refine (if_neg hadd).trans ((if_pos hw).trans ?_)
      rw [hpair]
  | reject hw =>
      have hadd : ¬ t.sameLetters "ADD".toList = true := hw.not_sameLetters rfl
      have hreplace : ¬ t.sameLetters "REPLACE".toList = true := hw.not_sameLetters rfl
      rw [Step.ofTrimmed?, hw.isWord.splitVerb]
      exact (if_neg hadd).trans ((if_neg hreplace).trans (if_pos ⟨hw, rfl⟩))

theorem Step.Spells.ofText {g t : Text} {step : Step} (h : Step.Spells t step) (hg : IsGap g) :
    Step.ofText (g ++ t) = .ok step := by
  rw [Step.ofText, Text.trim_append_left hg.isBlank, h.isFramed.trim_eq, h.ofTrimmed?]

/-! ### Statements -/

theorem Keyword.Spells.exists_pair {w : Text} {k : Keyword} (hw : Keyword.Spells w k)
    (hk : k.word.length = 2) : ∃ a b, w = [a, b] := by
  have hlength := hw.length_eq
  rw [hk] at hlength
  match w, hlength with
  | [a, b], _ => exact ⟨a, b, rfl⟩

theorem Keyword.Spells.afterKeyword?_word {w g : Text} {k : Keyword} (hw : Keyword.Spells w k)
    (hk : k.word.length = 2) (hg : IsBreak g) (rest : Text) :
    afterKeyword? k.word (w ++ g ++ rest) = some (g ++ rest) := by
  obtain ⟨a, b, rfl⟩ := hw.exists_pair hk
  obtain ⟨c, g, rfl⟩ := List.exists_cons_of_ne_nil hg.ne_nil
  exact if_pos ⟨hw, hg.gap.isBlank c List.mem_cons_self⟩

theorem Keyword.Spells.afterKeyword?_of_ne {w g word : Text} {k : Keyword}
    (hw : Keyword.Spells w k) (hk : k.word.length = 2) (hword : k.word.sameLetters word = false)
    (hg : IsBreak g) (rest : Text) : afterKeyword? word (w ++ g ++ rest) = none := by
  obtain ⟨a, b, rfl⟩ := hw.exists_pair hk
  obtain ⟨c, g, rfl⟩ := List.exists_cons_of_ne_nil hg.ne_nil
  exact if_neg fun h => hw.not_sameLetters hword h.1

/-- A keyword joins nothing, so the tests end in front of it. -/
theorem IsWord.joint_read? {g w : Text} (hw : IsWord w) (hg : IsGap g) (rest : Text) :
    Joint.read? (g ++ (w ++ rest)) = none := by
  obtain ⟨c, w, rfl⟩ := List.exists_cons_of_ne_nil hw.ne_nil
  have hc := hw.isAlpha c List.mem_cons_self
  have hstart : (g ++ (c :: w ++ rest)).trimStart = c :: w ++ rest :=
    hg.trimStart_append ⟨c, rfl, Text.not_isBlank_of_isAlpha hc⟩
  rw [Joint.read?, hstart]
  split
  · next h =>
    cases h
    exact absurd hc (by decide)
  · next h =>
    cases h
    exact absurd hc (by decide)
  · rfl

theorem Statement.Spells.ofTrimmed {t : Text} {st : Statement} (h : Statement.Spells t st) :
    Statement.ofTrimmed t = .ok st := by
  cases h with
  | @always w g t step hw hg ht =>
      have hdo : afterKeyword? ['D', 'O'] (w ++ g ++ t) = some (g ++ t) :=
        hw.afterKeyword?_word rfl hg t
      rw [Statement.ofTrimmed, hdo]
      simp only [ht.ofText hg.gap]
      rfl
  | @guarded w g t g' w' g'' u guard step hw hg ht hg' hw' hg'' hu =>
      have htext : w ++ g ++ t ++ g' ++ w' ++ g'' ++ u =
          w ++ g ++ (t ++ (g' ++ (w' ++ g'' ++ u))) := by
        simp only [List.append_assoc]
      -- The line is tried as one without a guard first.
      have hdo : afterKeyword? ['D', 'O'] (w ++ g ++ (t ++ (g' ++ (w' ++ g'' ++ u)))) = none :=
        hw.afterKeyword?_of_ne rfl (by decide) hg _
      have hif : afterKeyword? ['I', 'F'] (w ++ g ++ (t ++ (g' ++ (w' ++ g'' ++ u)))) =
          some (g ++ (t ++ (g' ++ (w' ++ g'' ++ u)))) :=
        hw.afterKeyword?_word rfl hg _
      have hguard : Guard.read (g ++ (t ++ (g' ++ (w' ++ g'' ++ u)))) =
          .ok (guard, g' ++ (w' ++ g'' ++ u)) := by
        rw [← List.append_assoc]
        refine (ht.gap_append hg.gap).read ?_
        rw [List.append_assoc]
        exact hw'.isWord.joint_read? hg' _
      have hstart : (g' ++ (w' ++ g'' ++ u)).trimStart = w' ++ g'' ++ u :=
        hg'.trimStart_append (hw'.isWord.isFramed.append hu.isFramed g'').head
      have hdo' : afterKeyword? ['D', 'O'] (w' ++ g'' ++ u) = some (g'' ++ u) :=
        hw'.afterKeyword?_word rfl hg'' u
      rw [htext, Statement.ofTrimmed, hdo, hif]
      simp only [bind, Except.bind, hguard, hstart, hdo', hu.ofText hg''.gap]
      rfl

/-! ### Scripts -/

/-- White space around a statement does not matter. -/
theorem Statement.Spells.line_ofText {g t g' : Text} {st : Statement}
    (h : Statement.Spells t st) (hg : IsGap g) (hg' : IsGap g') :
    Line.ofText (g ++ t ++ g') = .statement st := by
  have hclear := (hg.isClear.append h.isClear).append hg'.isClear
  have htrim : (g ++ t ++ g').trim = t := by
    rw [Text.trim_append_right hg'.isBlank, Text.trim_append_left hg.isBlank, h.isFramed.trim_eq]
  obtain ⟨c, hc, -⟩ := h.isFramed.head
  obtain ⟨rest, rfl⟩ := List.head?_eq_some_iff.mp hc
  rw [Line.ofText, hclear.stripComment_eq, htrim]
  simp only [h.ofTrimmed]

namespace Script

theorem Spells.map_ofText_lines {t : Text} {sts : List Statement} (h : Script.Spells t sts) :
    t.lines.map Line.ofText = sts.map Line.statement := by
  induction h with
  | nil => rfl
  | cons hg ht hg' he hrest ih =>
      have hclear := (hg.isClear.append ht.isClear).append hg'.isClear
      rw [map_ofText_lines_append hclear.no_lineFeed he, ht.line_ofText hg hg', ih, List.map_cons]

theorem pickFrom_statement? (sts : List Statement) (n : Nat) :
    pickFrom Line.statement? n (sts.map Line.statement) = sts.mapIdx fun k st => ⟨k + n, st⟩ := by
  induction sts generalizing n with
  | nil => rfl
  | cons st sts ih =>
      have hpick := ih (n + 1)
      simp only [← Nat.add_assoc, Nat.add_right_comm _ n 1] at hpick
      rw [List.map_cons, List.mapIdx_cons, Nat.zero_add, ← hpick]
      rfl

theorem pickFrom_skipped? (sts : List Statement) (n : Nat) :
    pickFrom Line.skipped? n (sts.map Line.statement) = [] := by
  induction sts generalizing n with
  | nil => rfl
  | cons st sts ih => exact ih (n + 1)

/-- Whatever the spelling, the statements of a script are read back with their numbers, and no line
is skipped. -/
theorem ofText_of_spells {t : Text} {sts : List Statement} (h : Script.Spells t sts) :
    (Script.ofText t).statements = sts.mapIdx (fun k st => ⟨k + 1, st⟩) ∧
      (Script.ofText t).skipped = [] := by
  rw [Script.ofText, h.map_ofText_lines]
  exact ⟨pickFrom_statement? sts 1, pickFrom_skipped? sts 1⟩

/-- Two statements, with what looks like a comment inside quotes and a joined test that asks
nothing. -/
def spelledSample : Text :=
  "\tdo \tAdd 'A // ; IF(x)'\r\niF g( 7/ );q(a) ,i(%epi)Do Replace 'a, b' ''\n".toList

def spelledStatements : List Statement :=
  [⟨none, .append (Template.ofText "A // ; IF(x)".toList)⟩,
    ⟨some ⟨⟨'g', "7/".toList⟩, [⟨'q', ['a']⟩], [⟨'i', "%epi".toList⟩]⟩,
      .replace 'a' ", b".toList []⟩]

theorem spells_spelledSample : Script.Spells spelledSample spelledStatements := by
  have hnone : IsGap [] := by decide
  have hspace : IsBreak [' '] := by decide
  have happend : Step.Spells ("Add".toList ++ [' '] ++ Text.inQuotes "A // ; IF(x)".toList)
      (.append (Template.ofText "A // ; IF(x)".toList)) :=
    .append (by decide) hspace (by decide)
  have halways : Statement.Spells ("do".toList ++ [' ', '\t'] ++ _) _ :=
    .always (by decide) (by decide) happend
  have hfirst : Test.Spells ([] ++ 'g' :: [] ++ '(' :: [' '] ++ "7/".toList ++ [' '] ++ [')'])
      ⟨'g', "7/".toList⟩ :=
    .intro hnone hnone hspace.gap hspace.gap rfl (by decide)
  have hsecond : Test.Spells ([] ++ 'q' :: [] ++ '(' :: [] ++ ['a'] ++ [] ++ [')'])
      ⟨'q', ['a']⟩ :=
    .intro hnone hnone hnone hnone rfl (by decide)
  have hthird : Test.Spells ([] ++ 'i' :: [] ++ '(' :: [] ++ "%epi".toList ++ [] ++ [')'])
      ⟨'i', "%epi".toList⟩ :=
    .intro hnone hnone hnone hnone rfl (by decide)
  have hguard := Guard.Spells.intro (k := .figure .groupId) hfirst rfl
    (.also hnone hsecond (.orElse hspace.gap hthird .nil))
  have hreplace : Step.Spells
      ("Replace".toList ++ [' '] ++ Text.inQuotes "a, b".toList ++ [' '] ++ Text.inQuotes [])
      (.replace 'a' ", b".toList []) :=
    .replace (by decide) hspace (by decide) hspace.gap (by decide)
  have hguarded : Statement.Spells
      ("iF".toList ++ [' '] ++ _ ++ [] ++ "Do".toList ++ [' '] ++ _) _ :=
    .guarded (by decide) hspace hguard hnone (by decide) hspace hreplace
  exact .cons (g := ['\t']) (by decide) halways hnone (.inr rfl)
    (.cons hnone hguarded hnone (.inl rfl) .nil)

theorem ofText_spelledSample : Script.Spells spelledSample spelledStatements ∧
    (Script.ofText spelledSample).statements =
      spelledStatements.mapIdx (fun k st => ⟨k + 1, st⟩) ∧
    (Script.ofText spelledSample).skipped = [] :=
  ⟨spells_spelledSample, ofText_of_spells spells_spelledSample⟩

end Script

end MediaNaming
