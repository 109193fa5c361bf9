import Mathlib.Data.List.TakeWhile
import MediaNaming.Proofs.Text
import MediaNaming.Script.Guard

/-!
The grammar of guards. A guard is written as a test and any number of joined tests, with white space
of any kind in front of each part. A form holds all parts of such a text, so that the text splits
into a form and a rest in one way only. Reading follows the forms: it gives the guard of the form
that the text begins with, or it says which test asks nothing or from where on a test is missing.
-/

namespace MediaNaming

/-- Whether a letter, in either case, asks something. -/
def Criterion.IsLetter (c : Char) : Prop := ∃ k : Criterion, k.letter = c.toUpper

theorem Criterion.ofLetter?_of_letter_eq {c : Char} {k : Criterion} (h : k.letter = c.toUpper) :
    Criterion.ofLetter? c = some k := by
  rw [Criterion.ofLetter?, ← h]
  cases k with
  | figure f => cases f <;> rfl
  | wording w => cases w <;> rfl
  | listing l => cases l <;> rfl
  | shown => rfl
  | manual => rfl
  | linked => rfl

theorem Criterion.ofLetter?_eq_none_iff {c : Char} : ofLetter? c = none ↔ ¬IsLetter c := by
  refine ⟨fun h ⟨k, hk⟩ => ?_, fun h => ?_⟩
  · rw [ofLetter?_of_letter_eq hk] at h
    cases h
  · cases hk : ofLetter? c with
    | none => rfl
    | some k =>
        have hletter := List.find?_some hk
        exact absurd ⟨k, beq_iff_eq.mp hletter⟩ h

/-! ### Tests -/

namespace Test

theorem readParameter?_append {p : Text} (h : ')' ∉ p) (rest : Text) :
    readParameter? ('(' :: (p ++ ')' :: rest)) = some (p.trim, rest) := by
  rw [readParameter?, Text.takeWhile_ne_append h, Text.dropWhile_ne_append h]

/-- A test as it is written: a letter and a text in parentheses, with white space before both. -/
@[ext]
structure Form where
  lead : Text
  letter : Char
  gap : Text
  body : Text
  lead_isBlank : ∀ c ∈ lead, Text.isBlank c = true
  letter_isAlpha : letter.isAlpha = true
  gap_isBlank : ∀ c ∈ gap, Text.isBlank c = true
  closing_not_mem : ')' ∉ body

namespace Form

def toText (f : Form) : Text := f.lead ++ f.letter :: (f.gap ++ '(' :: (f.body ++ [')']))

def test (f : Form) : Test := ⟨f.letter, f.body.trim⟩

theorem toText_append (f : Form) (rest : Text) :
    f.toText ++ rest = f.lead ++ f.letter :: (f.gap ++ '(' :: (f.body ++ ')' :: rest)) := by
  simp [toText]

/-- A test at the beginning of a text is read, whatever follows it. -/
theorem read_append (f : Form) (rest : Text) :
    Test.read (f.toText ++ rest) = .ok (f.test, rest) := by
  have hstart : (f.toText ++ rest).trimStart =
      f.letter :: (f.gap ++ '(' :: (f.body ++ ')' :: rest)) := by
    rw [toText_append]
    exact Text.trimStart_append_of_visible f.lead_isBlank
      ⟨f.letter, rfl, Text.not_isBlank_of_isAlpha f.letter_isAlpha⟩
  have hopen : (f.gap ++ '(' :: (f.body ++ ')' :: rest)).trimStart =
      '(' :: (f.body ++ ')' :: rest) :=
    Text.trimStart_append_of_visible f.gap_isBlank ⟨'(', rfl, by decide⟩
  rw [Test.read, read?, hstart]
  simp only [f.letter_isAlpha, if_true]
  rw [hopen, readParameter?_append f.closing_not_mem]
  rfl

/-- Each part of a test ends at the first character that cannot belong to it. -/
theorem append_inj {f f' : Form} {rest rest' : Text} (h : f.toText ++ rest = f'.toText ++ rest') :
    f = f' ∧ rest = rest' := by
  rw [toText_append, toText_append] at h
  obtain ⟨hlead, hletter, h⟩ := Text.append_cons_inj_of_forall f.lead_isBlank
    (Text.not_isBlank_of_isAlpha f.letter_isAlpha) f'.lead_isBlank
    (Text.not_isBlank_of_isAlpha f'.letter_isAlpha) h
  obtain ⟨hgap, -, h⟩ :=
    Text.append_cons_inj_of_forall f.gap_isBlank rfl f'.gap_isBlank rfl h
  have hopen (g : Form) : ∀ c ∈ g.body, (c != ')') = true := by
    intro c hc
    rw [bne_iff_ne]
    rintro rfl
    exact g.closing_not_mem hc
  obtain ⟨hbody, -, h⟩ := Text.append_cons_inj_of_forall (hopen f) rfl (hopen f') rfl h
  exact ⟨Form.ext hlead hletter hgap hbody, h⟩

end Form

/-- A text that begins with no test. -/
def Misses (t : Text) : Prop := ∀ (f : Form) (rest : Text), f.toText ++ rest ≠ t

theorem exists_body_of_readParameter? {t p rest : Text} (h : readParameter? t = some (p, rest)) :
    ∃ body, ')' ∉ body ∧ t = '(' :: (body ++ ')' :: rest) := by
  unfold readParameter? at h
  split at h
  · next u =>
    by_cases hmem : ')' ∈ u
    · obtain ⟨body, after, rfl, hbody⟩ := List.eq_append_cons_of_mem hmem
      rw [Text.dropWhile_ne_append hbody] at h
      cases h
      exact ⟨body, hbody, rfl⟩
    · have hnil : u.dropWhile (· ≠ ')') = [] := by
        rw [List.dropWhile_eq_nil_iff]
        intro c hc
        rw [decide_eq_true_eq]
        rintro rfl
        exact hmem hc
      rw [hnil] at h
      cases h
  · cases h

/-- Whatever is read as a test has the form of one. -/
theorem exists_form_of_read? {t rest : Text} {x : Test} (h : read? t = some (x, rest)) :
    ∃ f : Form, f.toText ++ rest = t := by
  unfold read? at h
  split at h
  · next letter u hu =>
    split at h
    · next hletter =>
      obtain ⟨⟨p, rest'⟩, hp, hx⟩ := Option.map_eq_some_iff.mp h
      cases hx
      obtain ⟨body, hbody, hopen⟩ := exists_body_of_readParameter? hp
      obtain ⟨lead, hlead, ht⟩ := Text.exists_eq_append_trimStart t
      obtain ⟨gap, hgap, hugap⟩ := Text.exists_eq_append_trimStart u
      refine ⟨⟨lead, letter, gap, body, hlead, hletter, hgap, hbody⟩, ?_⟩
      rw [Form.toText_append, ← hopen, ← hugap, ← hu, ← ht]
    · cases h
  · cases h

theorem read_of_misses {t : Text} (h : Misses t) : read t = .error (.malformedLine t.trim) := by
  unfold read
  split
  · next r hr =>
    obtain ⟨f, hf⟩ := exists_form_of_read? hr
    exact absurd hf (h f _)
  · rfl

theorem misses_of_read_eq_error {t : Text} {fault : LineFault} (h : read t = .error fault) :
    Misses t := by
  rintro f rest rfl
  rw [f.read_append] at h
  cases h

theorem exists_form_of_read {t rest : Text} {x : Test} (h : read t = .ok (x, rest)) :
    ∃ f : Form, f.toText ++ rest = t := by
  unfold read at h
  split at h
  · next hr =>
    cases h
    exact exists_form_of_read? hr
  · cases h

end Test

/-! ### Joints -/

namespace Joint

theorem read?_append {g : Text} (hg : ∀ c ∈ g, Text.isBlank c = true) (j : Joint)
    (rest : Text) : read? (g ++ j.symbol :: rest) = some (j, rest) := by
  have hstart : (g ++ j.symbol :: rest).trimStart = j.symbol :: rest :=
    Text.trimStart_append_of_visible hg ⟨j.symbol, rfl, by cases j <;> decide⟩
  rw [read?, hstart]
  cases j <;> rfl

/-- A joined test as it is written. -/
@[ext]
structure Form where
  lead : Text
  joint : Joint
  test : Test.Form
  lead_isBlank : ∀ c ∈ lead, Text.isBlank c = true

def Form.toText (f : Form) : Text := f.lead ++ f.joint.symbol :: f.test.toText

/-- The tests after a joint, in order. -/
def testsAfter (j : Joint) (fs : List Form) : List Test :=
  (fs.filter (·.joint = j)).map (·.test.test)

/-- A text at the beginning of which nothing is joined. -/
def Stops (t : Text) : Prop := ∀ c ∈ t.trimStart.head?, c ≠ ';' ∧ c ≠ ','

theorem isBlank_symbol (j : Joint) : Text.isBlank j.symbol = false := by
  cases j <;> rfl

theorem symbol_inj {j j' : Joint} (h : j.symbol = j'.symbol) : j = j' := by
  revert h
  cases j <;> cases j' <;> decide

theorem Form.append_inj {f f' : Form} {rest rest' : Text}
    (h : f.toText ++ rest = f'.toText ++ rest') : f = f' ∧ rest = rest' := by
  rw [toText, toText, List.append_assoc, List.append_assoc, List.cons_append,
    List.cons_append] at h
  obtain ⟨hlead, hsymbol, h⟩ := Text.append_cons_inj_of_forall f.lead_isBlank
    (isBlank_symbol f.joint) f'.lead_isBlank (isBlank_symbol f'.joint) h
  obtain ⟨htest, hrest⟩ := Test.Form.append_inj h
  exact ⟨Form.ext hlead (symbol_inj hsymbol) htest, hrest⟩

theorem read?_eq_none_iff {t : Text} : read? t = none ↔ Stops t := by
  unfold read? Stops
  split
  · next h => simp [h]
  · next h => simp [h]
  · next hsemicolon hcomma =>
    refine ⟨fun _ c hc => ?_, fun _ => rfl⟩
    obtain ⟨rest, hrest⟩ := List.head?_eq_some_iff.mp hc
    refine ⟨?_, ?_⟩
    · rintro rfl
      exact hsemicolon rest hrest
    · rintro rfl
      exact hcomma rest hrest

theorem exists_gap_of_read? {t after : Text} {j : Joint} (h : read? t = some (j, after)) :
    ∃ g, (∀ c ∈ g, Text.isBlank c = true) ∧ t = g ++ j.symbol :: after := by
  obtain ⟨g, hg, ht⟩ := Text.exists_eq_append_trimStart t
  refine ⟨g, hg, ht.trans ?_⟩
  unfold read? at h
  split at h
  · next hstart =>
    cases h
    rw [hstart]
    rfl
  · next hstart =>
    cases h
    rw [hstart]
    rfl
  · cases h

theorem Form.read?_append (f : Form) (rest : Text) :
    read? (f.toText ++ rest) = some (f.joint, f.test.toText ++ rest) := by
  rw [toText, List.append_assoc, List.cons_append]
  exact Joint.read?_append f.lead_isBlank f.joint _

theorem Form.not_stops_append (f : Form) (rest : Text) : ¬Stops (f.toText ++ rest) := by
  rw [← read?_eq_none_iff, f.read?_append]
  exact Option.some_ne_none _

/-- A list of joined tests ends where nothing more is joined. -/
theorem forms_append_inj {fs fs' : List Form} {rest rest' : Text} (hrest : Stops rest)
    (hrest' : Stops rest')
    (h : fs.flatMap Form.toText ++ rest = fs'.flatMap Form.toText ++ rest') :
    fs = fs' ∧ rest = rest' := by
  induction fs generalizing fs' with
  | nil =>
      cases fs' with
      | nil => exact ⟨rfl, h⟩
      | cons f' fs' =>
          rw [List.flatMap_nil, List.nil_append, List.flatMap_cons, List.append_assoc] at h
          rw [h] at hrest
          exact absurd hrest (f'.not_stops_append _)
  | cons f fs ih =>
      rw [List.flatMap_cons, List.append_assoc] at h
      cases fs' with
      | nil =>
          rw [List.flatMap_nil, List.nil_append] at h
          rw [← h] at hrest'
          exact absurd hrest' (f.not_stops_append _)
      | cons f' fs' =>
          rw [List.flatMap_cons, List.append_assoc] at h
          obtain ⟨rfl, htail⟩ := Form.append_inj h
          obtain ⟨rfl, hends⟩ := ih htail
          exact ⟨rfl, hends⟩

end Joint

/-! ### Guards -/

namespace Guard

/-- A guard as it is written. Only the first test must ask something. -/
@[ext]
structure Form where
  first : Test.Form
  joined : List Joint.Form
  first_isLetter : Criterion.IsLetter first.letter

namespace Form

def toText (w : Form) : Text := w.first.toText ++ w.joined.flatMap Joint.Form.toText

def guard (w : Form) : Guard where
  first := w.first.test
  required := Joint.testsAfter .also w.joined
  alternatives := Joint.testsAfter .orElse w.joined

/-- A text that is a written guard and a rest to which nothing is joined. -/
structure Splits (w : Form) (t rest : Text) : Prop where
  toText_append : w.toText ++ rest = t
  stops : Joint.Stops rest

theorem Splits.unique {w w' : Form} {t rest rest' : Text} (h : w.Splits t rest)
    (h' : w'.Splits t rest') : w = w' ∧ rest = rest' := by
  have htext := h.toText_append.trans h'.toText_append.symm
  rw [toText, toText, List.append_assoc, List.append_assoc] at htext
  obtain ⟨hfirst, htext⟩ := Test.Form.append_inj htext
  obtain ⟨hjoined, hrest⟩ := Joint.forms_append_inj h.stops h'.stops htext
  exact ⟨Form.ext hfirst hjoined, hrest⟩

end Form

/-- One step of reading what is joined. -/
theorem readJoined_eq (t : Text) :
    readJoined t =
      match Joint.read? t with
      | none => .ok ([], t)
      | some (j, after) =>
        match Test.read after with
        | .error fault => .error fault
        | .ok (x, rest) =>
          (readJoined rest).map fun (joined, rest) => ((j, x) :: joined, rest) := by
  rw [readJoined]
  split
  · next hj => rw [hj]
  · next hj =>
    rw [hj]
    split
    · next hx => simp only [hx]
    · next hx => simp only [hx]

theorem readJoined_of_stops {t : Text} (h : Joint.Stops t) : readJoined t = .ok ([], t) := by
  rw [readJoined_eq, Joint.read?_eq_none_iff.mpr h]

theorem readJoined_of_misses {g u : Text} (j : Joint) (hg : ∀ c ∈ g, Text.isBlank c = true)
    (hu : Test.Misses u) :
    readJoined (g ++ j.symbol :: u) = .error (.malformedLine u.trim) := by
  rw [readJoined_eq, Joint.read?_append hg j u]
  simp only [Test.read_of_misses hu]

/-- Joined tests are read one by one, each in front of the tests that follow it. -/
theorem readJoined_forms_append (fs : List Joint.Form) (rest : Text) :
    readJoined (fs.flatMap Joint.Form.toText ++ rest) =
      (readJoined rest).map fun (joined, rest) =>
        (fs.map (fun f => (f.joint, f.test.test)) ++ joined, rest) := by
  induction fs with
  | nil => cases h : readJoined rest <;> simp [h, Except.map]
  | cons f fs ih =>
      rw [List.flatMap_cons, List.append_assoc, readJoined_eq, f.read?_append]
      simp only [f.test.read_append, ih]
      cases readJoined rest <;> rfl

theorem ofTests_forms (w : Form) :
    ofTests w.first.test (w.joined.map fun f => (f.joint, f.test.test)) = w.guard := by
  simp [ofTests, Form.guard, Joint.testsAfter, List.filter_map, Function.comp_def]

theorem read_unknown_append {f : Test.Form} (h : ¬Criterion.IsLetter f.letter) (rest : Text) :
    read (f.toText ++ rest) = .error (.unknownTest f.letter) := by
  have hcriterion : f.test.criterion? = none := Criterion.ofLetter?_eq_none_iff.mpr h
  rw [read, f.read_append]
  simp only [bind, Except.bind, hcriterion]
  rfl

/-- A written guard is read, and then what else is joined to it. -/
theorem Form.read_append (w : Form) (rest : Text) :
    read (w.toText ++ rest) =
      (readJoined rest).map fun (joined, rest) =>
        (ofTests w.first.test (w.joined.map (fun f => (f.joint, f.test.test)) ++ joined), rest) := by
  obtain ⟨k, hk⟩ := w.first_isLetter
  have hcriterion : w.first.test.criterion? = some k := Criterion.ofLetter?_of_letter_eq hk
  rw [toText, List.append_assoc, read, w.first.read_append]
  simp only [bind, Except.bind, hcriterion, readJoined_forms_append]
  cases readJoined rest <;> rfl

/-- What reading a text comes to. -/
inductive Reads : Text → Except LineFault (Guard × Text) → Prop
  | guard (w : Form) {rest : Text} (hrest : Joint.Stops rest) :
      Reads (w.toText ++ rest) (.ok (w.guard, rest))
  | unknownTest (f : Test.Form) (rest : Text) (hletter : ¬Criterion.IsLetter f.letter) :
      Reads (f.toText ++ rest) (.error (.unknownTest f.letter))
  | noTest {t : Text} (ht : Test.Misses t) : Reads t (.error (.malformedLine t.trim))
  | noJoinedTest (w : Form) {g u : Text} (j : Joint) (hg : ∀ c ∈ g, Text.isBlank c = true)
      (hu : Test.Misses u) :
      Reads (w.toText ++ (g ++ j.symbol :: u)) (.error (.malformedLine u.trim))

theorem Reads.read_eq {t : Text} {r : Except LineFault (Guard × Text)} (h : Reads t r) :
    read t = r := by
  cases h with
  | guard w hrest =>
      rw [w.read_append, readJoined_of_stops hrest]
      simp only [Except.map, List.append_nil, ofTests_forms]
  | unknownTest f rest hletter => exact read_unknown_append hletter rest
  | noTest ht =>
      rw [read, Test.read_of_misses ht]
      rfl
  | noJoinedTest w j hg hu =>
      rw [w.read_append, readJoined_of_misses j hg hu]
      rfl

/-- Every text is a list of joined tests in front of a text to which nothing is joined, or in front
of a joint that lacks its test. -/
theorem exists_forms (t : Text) :
    ∃ (fs : List Joint.Form) (rest : Text), t = fs.flatMap Joint.Form.toText ++ rest ∧
      (Joint.Stops rest ∨ ∃ (g u : Text) (j : Joint), (∀ c ∈ g, Text.isBlank c = true) ∧
        Test.Misses u ∧ rest = g ++ j.symbol :: u) := by
  fun_induction readJoined t with
  | case1 t hj => exact ⟨[], t, rfl, .inl (Joint.read?_eq_none_iff.mp hj)⟩
  | case2 t j after hj fault hx =>
      obtain ⟨g, hg, ht⟩ := Joint.exists_gap_of_read? hj
      exact ⟨[], t, rfl, .inr ⟨g, after, j, hg, Test.misses_of_read_eq_error hx, ht⟩⟩
  | case3 t j after hj x rest hx ih =>
      obtain ⟨g, hg, rfl⟩ := Joint.exists_gap_of_read? hj
      obtain ⟨f, rfl⟩ := Test.exists_form_of_read hx
      obtain ⟨fs, rest', rfl, hends⟩ := ih
      refine ⟨⟨g, j, f, hg⟩ :: fs, rest', ?_, hends⟩
      simp [Joint.Form.toText]

theorem reads_read (t : Text) : Reads t (read t) := by
  suffices h : ∃ r, Reads t r by
    obtain ⟨r, hr⟩ := h
    rwa [hr.read_eq]
  cases hx : Test.read t with
  | error fault => exact ⟨_, .noTest (Test.misses_of_read_eq_error hx)⟩
  | ok r =>
      obtain ⟨x, after⟩ := r
      obtain ⟨f, rfl⟩ := Test.exists_form_of_read hx
      by_cases hletter : Criterion.IsLetter f.letter
      · obtain ⟨fs, rest, rfl, hends⟩ := exists_forms after
        rw [← List.append_assoc]
        obtain hrest | ⟨g, u, j, hg, hu, rfl⟩ := hends
        · exact ⟨_, .guard ⟨f, fs, hletter⟩ hrest⟩
        · exact ⟨_, .noJoinedTest ⟨f, fs, hletter⟩ j hg hu⟩
      · exact ⟨_, .unknownTest f after hletter⟩

theorem read_eq_iff_reads {t : Text} {r : Except LineFault (Guard × Text)} :
    read t = r ↔ Reads t r := by
  refine ⟨?_, Reads.read_eq⟩
  rintro rfl
  exact reads_read t

theorem Form.Splits.read_eq {w : Form} {t rest : Text} (h : w.Splits t rest) :
    read t = .ok (w.guard, rest) := by
  rw [← h.toText_append]
  exact (Reads.guard w h.stops).read_eq

theorem read_eq_ok_iff {t rest : Text} {guard : Guard} :
    read t = .ok (guard, rest) ↔ ∃ w : Form, w.Splits t rest ∧ w.guard = guard := by
  refine ⟨fun h => ?_, ?_⟩
  · cases read_eq_iff_reads.mp h with
    | guard w hrest => exact ⟨w, ⟨rfl, hrest⟩, rfl⟩
  · rintro ⟨w, hw, rfl⟩
    exact hw.read_eq

theorem read_eq_unknownTest_iff {t : Text} {c : Char} :
    read t = .error (.unknownTest c) ↔
      ∃ (f : Test.Form) (rest : Text),
        f.toText ++ rest = t ∧ f.letter = c ∧ ¬Criterion.IsLetter c := by
  refine ⟨fun h => ?_, ?_⟩
  · cases read_eq_iff_reads.mp h with
    | unknownTest f rest hletter => exact ⟨f, rest, rfl, rfl, hletter⟩
  · rintro ⟨f, rest, rfl, rfl, hletter⟩
    exact (Reads.unknownTest f rest hletter).read_eq

theorem exists_read_eq_malformedLine_iff {t : Text} :
    (∃ u : Text, read t = .error (.malformedLine u)) ↔
      (¬∃ (w : Form) (rest : Text), w.Splits t rest) ∧
        ¬∃ (f : Test.Form) (rest : Text),
          f.toText ++ rest = t ∧ ¬Criterion.IsLetter f.letter := by
  refine ⟨fun ⟨u, h⟩ => ⟨fun ⟨w, rest, hw⟩ => ?_, fun ⟨f, rest, hf, hletter⟩ => ?_⟩, ?_⟩
  · rw [hw.read_eq] at h
    cases h
  · rw [read_eq_unknownTest_iff.mpr ⟨f, rest, hf, rfl, hletter⟩] at h
    cases h
  · rintro ⟨hform, hfirst⟩
    have hreads := reads_read t
    generalize read t = r at hreads ⊢
    cases hreads with
    | guard w hrest => exact absurd ⟨w, _, rfl, hrest⟩ hform
    | unknownTest f rest hletter => exact absurd ⟨f, rest, rfl, hletter⟩ hfirst
    | noTest ht => exact ⟨_, rfl⟩
    | noJoinedTest w j hg hu => exact ⟨_, rfl⟩

/-- A guard is read from exactly the texts that a form splits, which it does in one way only. A text
is refused for a letter exactly if it begins with a test that asks nothing, whatever follows, and
for its shape in all other cases. -/
theorem read_grammar (t : Text) :
    (∀ (guard : Guard) (rest : Text),
        read t = .ok (guard, rest) ↔ ∃ w : Form, w.Splits t rest ∧ w.guard = guard) ∧
      (∀ (w w' : Form) (rest rest' : Text),
        w.Splits t rest → w'.Splits t rest' → w = w' ∧ rest = rest') ∧
      (∀ c : Char, read t = .error (.unknownTest c) ↔
        ∃ (f : Test.Form) (rest : Text),
          f.toText ++ rest = t ∧ f.letter = c ∧ ¬Criterion.IsLetter c) ∧
      ((∃ u : Text, read t = .error (.malformedLine u)) ↔
        (¬∃ (w : Form) (rest : Text), w.Splits t rest) ∧
          ¬∃ (f : Test.Form) (rest : Text),
            f.toText ++ rest = t ∧ ¬Criterion.IsLetter f.letter) ∧
      ∀ x : Test, x.criterion? = none ↔ ¬Criterion.IsLetter x.letter :=
  ⟨fun _ _ => read_eq_ok_iff, fun _ _ _ _ => Form.Splits.unique,
    fun _ => read_eq_unknownTest_iff, exists_read_eq_malformedLine_iff,
    fun _ => Criterion.ofLetter?_eq_none_iff⟩

/-- A guard with both joints, a joined letter that asks nothing and separators in a parameter. -/
def writtenSample : Form where
  first := {
    lead := [' '], letter := 'F', gap := [], body := "!1".toList
    lead_isBlank := List.forall_mem_singleton.mpr rfl
    letter_isAlpha := rfl
    gap_isBlank := List.forall_mem_nil _
    closing_not_mem := by decide }
  joined := [
    { lead := [' '], joint := .also
      lead_isBlank := List.forall_mem_singleton.mpr rfl
      test := {
        lead := ['\t'], letter := 'r', gap := [], body := " DVD ".toList
        lead_isBlank := List.forall_mem_singleton.mpr rfl
        letter_isAlpha := rfl
        gap_isBlank := List.forall_mem_nil _
        closing_not_mem := by decide } },
    { lead := [], joint := .orElse
      lead_isBlank := List.forall_mem_nil _
      test := {
        lead := [], letter := 'q', gap := ['\u3000'], body := ";,(".toList
        lead_isBlank := List.forall_mem_nil _
        letter_isAlpha := rfl
        gap_isBlank := List.forall_mem_singleton.mpr rfl
        closing_not_mem := by decide } }]
  first_isLetter := ⟨.figure .version, rfl⟩

theorem splits_writtenSample :
    writtenSample.Splits " F(!1) ;\tr( DVD ),q\u3000(;,() DO".toList " DO".toList where
  toText_append := rfl
  stops := by
    rintro c ⟨⟩
    decide

theorem read_grammar_writtenSample :
    writtenSample.Splits " F(!1) ;\tr( DVD ),q\u3000(;,() DO".toList " DO".toList ∧
      read " F(!1) ;\tr( DVD ),q\u3000(;,() DO".toList =
        .ok (⟨⟨'F', "!1".toList⟩, [⟨'r', "DVD".toList⟩], [⟨'q', ";,(".toList⟩]⟩, " DO".toList) :=
  ⟨splits_writtenSample, ((read_grammar _).1 _ _).mpr ⟨writtenSample, splits_writtenSample, rfl⟩⟩

end Guard

end MediaNaming
