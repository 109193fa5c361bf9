import MediaNaming.Proofs.GuardGrammar

/-!
What a chain of tests means as it is written. A semicolon anywhere in the chain makes the first test
and the tests after semicolons count, all of them, and silences the tests after commas; without one
the chain asks for any of its tests. So only the first test and the set of the joined ones matter: a
chain can be rearranged behind its first test, and a test can be repeated.
-/

namespace MediaNaming

/-- A letter that asks nothing is never answered with yes. -/
theorem Test.holds_of_not_isLetter {x : Test} (h : ¬Criterion.IsLetter x.letter) (b : Bundle) :
    x.holds b = false := by
  have hnone : x.criterion? = none := Criterion.ofLetter?_eq_none_iff.mpr h
  simp [Test.holds, hnone]

/-! ### The two lists of joined tests -/

namespace Joint

theorem mem_testsAfter {j : Joint} {fs : List Form} {x : Test} :
    x ∈ testsAfter j fs ↔ ∃ f ∈ fs, f.joint = j ∧ f.test.test = x := by
  simp [testsAfter, and_assoc]

theorem testsAfter_eq_nil_iff {j : Joint} {fs : List Form} :
    testsAfter j fs = [] ↔ ∀ f ∈ fs, f.joint ≠ j := by
  simp [testsAfter]

end Joint

namespace Guard

namespace Form

variable {w w' : Form}

/-- Some test of the chain stands after a semicolon. -/
def HasAlso (w : Form) : Prop := ∃ f ∈ w.joined, f.joint = .also

/-- The joined tests, each with its separator. -/
def links (w : Form) : List (Joint × Test) := w.joined.map fun f => (f.joint, f.test.test)

/-- Two chains with the same first test and the same joined tests, each after the same separator, in
any order and any number of times. -/
structure SameLinks (w w' : Form) : Prop where
  first : w.first.test = w'.first.test
  mem_iff : ∀ link, link ∈ w.links ↔ link ∈ w'.links

theorem mem_links {j : Joint} {x : Test} :
    (j, x) ∈ w.links ↔ ∃ f ∈ w.joined, f.joint = j ∧ f.test.test = x := by
  simp [links]

/-! ### What a chain asks for -/

theorem required_eq_nil_iff : w.guard.required = [] ↔ ¬w.HasAlso := by
  simp [guard, Joint.testsAfter_eq_nil_iff, HasAlso]

/-- After a semicolon every test on that side counts, and no other. -/
theorem holds_guard_of_hasAlso (h : w.HasAlso) (b : Bundle) :
    w.guard.holds b = true ↔ w.first.test.holds b = true ∧
      ∀ f ∈ w.joined, f.joint = .also → f.test.test.holds b = true := by
  have hne : w.guard.required.isEmpty = false := by
    simpa using mt required_eq_nil_iff.mp (not_not_intro h)
  rw [Guard.holds, hne]
  simp only [Bool.false_eq_true, if_false, Bool.and_eq_true, List.all_eq_true]
  refine and_congr_right fun _ => ⟨fun hall f hf hj => ?_, fun hall x hx => ?_⟩
  · exact hall _ (Joint.mem_testsAfter.mpr ⟨f, hf, hj, rfl⟩)
  · obtain ⟨f, hf, hj, rfl⟩ := Joint.mem_testsAfter.mp hx
    exact hall f hf hj

/-- Without a semicolon all joined tests stand after commas. -/
theorem holds_guard_of_not_hasAlso (h : ¬w.HasAlso) (b : Bundle) :
    w.guard.holds b = true ↔ w.first.test.holds b = true ∨
      ∃ f ∈ w.joined, f.test.test.holds b = true := by
  have hnil : w.guard.required.isEmpty = true := by
    simpa using required_eq_nil_iff.mpr h
  have hcomma : ∀ f ∈ w.joined, f.joint = .orElse := by
    intro f hf
    cases hj : f.joint with
    | also => exact absurd ⟨f, hf, hj⟩ h
    | orElse => rfl
  rw [Guard.holds, if_pos hnil]
  simp only [Bool.or_eq_true, List.any_eq_true]
  refine or_congr_right ⟨?_, ?_⟩
  · rintro ⟨x, hx, hpass⟩
    obtain ⟨f, hf, -, rfl⟩ := Joint.mem_testsAfter.mp hx
    exact ⟨f, hf, hpass⟩
  · rintro ⟨f, hf, hpass⟩
    exact ⟨_, Joint.mem_testsAfter.mpr ⟨f, hf, hcomma f hf, rfl⟩, hpass⟩

/-! ### Chains that ask for the same -/

namespace SameLinks

theorem symm (h : SameLinks w w') : SameLinks w' w :=
  ⟨h.first.symm, fun link => (h.mem_iff link).symm⟩

/-- A joined test of one chain has its like in the other. -/
theorem exists_form (h : SameLinks w w') {f : Joint.Form} (hf : f ∈ w.joined) :
    ∃ f' ∈ w'.joined, f'.joint = f.joint ∧ f'.test.test = f.test.test :=
  mem_links.mp ((h.mem_iff _).mp (mem_links.mpr ⟨f, hf, rfl, rfl⟩))

theorem hasAlso (h : SameLinks w w') (hw : w.HasAlso) : w'.HasAlso := by
  obtain ⟨f, hf, hj⟩ := hw
  obtain ⟨f', hf', hj', -⟩ := h.exists_form hf
  exact ⟨f', hf', hj'.trans hj⟩

theorem holds_of_holds (h : SameLinks w w') {b : Bundle} (hw : w.guard.holds b = true) :
    w'.guard.holds b = true := by
  by_cases hmode : w.HasAlso
  · rw [holds_guard_of_hasAlso hmode] at hw
    rw [holds_guard_of_hasAlso (h.hasAlso hmode), ← h.first]
    refine ⟨hw.1, fun f' hf' hj' => ?_⟩
    obtain ⟨f, hf, hj, htest⟩ := h.symm.exists_form hf'
    rw [← htest]
    exact hw.2 f hf (hj.trans hj')
  · have hmode' : ¬w'.HasAlso := fun hw' => hmode (h.symm.hasAlso hw')
    rw [holds_guard_of_not_hasAlso hmode] at hw
    rw [holds_guard_of_not_hasAlso hmode', ← h.first]
    refine hw.imp_right ?_
    rintro ⟨f, hf, hpass⟩
    obtain ⟨f', hf', -, htest⟩ := h.exists_form hf
    exact ⟨f', hf', by rw [htest, hpass]⟩

theorem holds_eq (h : SameLinks w w') (b : Bundle) : w'.guard.holds b = w.guard.holds b :=
  Bool.eq_iff_iff.mpr ⟨h.symm.holds_of_holds, h.holds_of_holds⟩

end SameLinks

end Form

/-- Whatever chain is read from a text, its answer follows from the tests and separators of the text
as they stand there: with a semicolon the first test and those after semicolons must pass, without
one any test is enough, and a joined letter that asks nothing fails. Rearranging the joined tests
with their separators or repeating some gives a chain that is read too and has the same answer. -/
theorem read_holds_chain {t rest : Text} {g : Guard} (h : read t = .ok (g, rest)) (b : Bundle) :
    ∃ w : Form, w.Splits t rest ∧
      (w.HasAlso → (g.holds b = true ↔ w.first.test.holds b = true ∧
        ∀ f ∈ w.joined, f.joint = .also → f.test.test.holds b = true)) ∧
      (¬w.HasAlso → (g.holds b = true ↔ w.first.test.holds b = true ∨
        ∃ f ∈ w.joined, f.test.test.holds b = true)) ∧
      (∀ f ∈ w.joined, ¬Criterion.IsLetter f.test.letter → f.test.test.holds b = false) ∧
      ∀ (w' : Form) (rest' : Text), w.SameLinks w' → Joint.Stops rest' →
        ∃ g', read (w'.toText ++ rest') = .ok (g', rest') ∧ g'.holds b = g.holds b := by
  obtain ⟨w, hw, rfl⟩ := read_eq_ok_iff.mp h
  refine ⟨w, hw, fun hmode => Form.holds_guard_of_hasAlso hmode b,
    fun hmode => Form.holds_guard_of_not_hasAlso hmode b,
    fun f _ hletter => Test.holds_of_not_isLetter hletter b, ?_⟩
  intro w' rest' hlinks hrest'
  exact ⟨w'.guard, (Reads.guard w' hrest').read_eq, hlinks.holds_eq b⟩

/-- The tests of `writtenSample` behind its first one backwards, and then once more. -/
def rearrangedSample : Form :=
  { writtenSample with joined := writtenSample.joined.reverse ++ writtenSample.joined }

theorem sameLinks_rearrangedSample : writtenSample.SameLinks rearrangedSample where
  first := rfl
  mem_iff := by simp [rearrangedSample, Form.links]

/-- A file whose second release came from a disc. -/
def chainedSample : Bundle where
  file := { name := "a.mkv".toList, ed2k := [], size := 1 }
  release := some { version := 2, source := some "dvd".toList }

theorem read_holds_chain_rearrangedSample :
    read " F(!1) ;\tr( DVD ),q\u3000(;,() DO".toList =
        .ok (writtenSample.guard, " DO".toList) ∧
      writtenSample.SameLinks rearrangedSample ∧ Joint.Stops " DO".toList ∧
      writtenSample.guard.holds chainedSample = true ∧
      ∃ g', read (rearrangedSample.toText ++ " DO".toList) = .ok (g', " DO".toList) ∧
        g'.holds chainedSample = writtenSample.guard.holds chainedSample := by
  have hread := splits_writtenSample.read_eq
  obtain ⟨w, hw, hmode, -, -, hrearranged⟩ := read_holds_chain hread chainedSample
  obtain ⟨rfl, -⟩ := hw.unique splits_writtenSample
  have hstops := splits_writtenSample.stops
  refine ⟨hread, sameLinks_rearrangedSample, hstops, ?_,
    hrearranged _ _ sameLinks_rearrangedSample hstops⟩
  have halso : writtenSample.HasAlso := ⟨_, List.mem_cons_self, rfl⟩
  rw [hmode halso]
  decide

end Guard

end MediaNaming
