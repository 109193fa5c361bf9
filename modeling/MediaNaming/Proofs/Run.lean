import MediaNaming.Naming
import MediaNaming.Proofs.Text

/-!
The law of a run. A guard looks at the bundle and never at the name under construction, so the
statements of a script can be judged before any of them is performed: either one of them gives the
renaming up, and the first that does decides the run, or all that write are performed in order.
-/

namespace MediaNaming

/-- A step as a change of the name. Giving up changes nothing. -/
def Step.apply (s : Settings) (b : Bundle) (name : Text) : Step → Text
  | .append t => name ++ t.render s b
  | .replace o old new => Text.replaceAll o old new name
  | .reject => name

namespace Statement

/-- Whether the statement gives the renaming up. Without a guard it never does. -/
def givesUp (st : Statement) (b : Bundle) : Bool :=
  match st.guard with
  | none => false
  | some g => g.holds b && st.step = .reject

/-- Whether the statement appends or replaces, alone or behind a guard that holds. -/
def writes (st : Statement) (b : Bundle) : Bool := st.isActive b && st.step ≠ .reject

theorem givesUp_eq_true_iff {st : Statement} {b : Bundle} :
    st.givesUp b = true ↔ ∃ g, st = ⟨some g, .reject⟩ ∧ g.holds b = true := by
  rcases st with ⟨guard, step⟩
  cases guard with
  | none => simp [givesUp]
  | some g =>
      constructor
      · intro h
        have hg : g.holds b = true ∧ step = .reject := by simpa [givesUp] using h
        exact ⟨g, by rw [hg.2], hg.1⟩
      · rintro ⟨g', hst, hg⟩
        cases hst
        simp [givesUp, hg]

end Statement

/-- The name after the statements that write. -/
def writeAll (s : Settings) (b : Bundle) (name : Text) (sts : List (Numbered Statement)) : Text :=
  (sts.filter (·.item.writes b)).foldl (fun name st => st.item.step.apply s b name) name

namespace Script

/-- The first statement that gives the renaming up stands on that line. -/
def GivesUpAt (script : Script) (b : Bundle) (line : Nat) : Prop :=
  ∃ before st after, script.statements = before ++ st :: after ∧ st.number = line ∧
    st.item.givesUp b = true ∧ ∀ x ∈ before, x.item.givesUp b = false

/-- The text that the statements build up from nothing, in the form in which it becomes a stem. -/
def stem (script : Script) (s : Settings) (b : Bundle) : Text :=
  let quoted := Text.replaceAll '\x60' [] ['\''] (writeAll s b [] script.statements)
  if s.safeNames then SafeName.ofText quoted else quoted

end Script

/-! ### One statement -/

section Statements

variable {s : Settings} {b : Bundle}

theorem Numbered.run_of_givesUp {st : Numbered Statement} (h : st.item.givesUp b = true)
    (name : Text) : Numbered.run s b name st = .error st.number := by
  obtain ⟨g, hst, hg⟩ := Statement.givesUp_eq_true_iff.mp h
  simp [Numbered.run, Statement.isActive, Step.perform?, hst, hg]

theorem Numbered.run_of_not_givesUp {st : Numbered Statement} (h : st.item.givesUp b = false)
    (name : Text) : Numbered.run s b name st = .ok (writeAll s b name [st]) := by
  rcases st with ⟨number, guard, step⟩
  cases guard with
  | none => cases step <;>
      simp [Numbered.run, writeAll, Statement.isActive, Statement.writes, Step.perform?, Step.apply]
  | some g =>
      cases hg : g.holds b with
      | false => simp [Numbered.run, writeAll, Statement.isActive, Statement.writes, hg]
      | true =>
          have hstep : step ≠ .reject := by simpa [Statement.givesUp, hg] using h
          cases step with
          | reject => exact absurd rfl hstep
          | append t =>
              simp [Numbered.run, writeAll, Statement.isActive, Statement.writes, Step.perform?,
                Step.apply, hg]
          | replace o old new =>
              simp [Numbered.run, writeAll, Statement.isActive, Statement.writes, Step.perform?,
                Step.apply, hg]

/-! ### A list of statements -/

theorem writeAll_append (name : Text) (sts later : List (Numbered Statement)) :
    writeAll s b name (sts ++ later) = writeAll s b (writeAll s b name sts) later := by
  simp [writeAll]

theorem foldlM_run_of_not_givesUp {sts : List (Numbered Statement)}
    (h : ∀ st ∈ sts, st.item.givesUp b = false) (name : Text) :
    sts.foldlM (Numbered.run s b) name = .ok (writeAll s b name sts) := by
  induction sts generalizing name with
  | nil => rfl
  | cons st rest ih =>
      have hst := h st List.mem_cons_self
      have hrest : ∀ x ∈ rest, x.item.givesUp b = false := fun x hx =>
        h x (List.mem_cons_of_mem _ hx)
      rw [List.foldlM_cons, Numbered.run_of_not_givesUp hst,
        show st :: rest = [st] ++ rest from rfl, writeAll_append]
      exact ih hrest _

/-- Whatever has been written by then, the first statement that gives up ends the run. -/
theorem foldlM_run_of_givesUp {before after : List (Numbered Statement)} {st : Numbered Statement}
    (hst : st.item.givesUp b = true) (hbefore : ∀ x ∈ before, x.item.givesUp b = false)
    (name : Text) :
    (before ++ st :: after).foldlM (Numbered.run s b) name = .error st.number := by
  rw [List.foldlM_append, foldlM_run_of_not_givesUp hbefore]
  change (st :: after).foldlM (Numbered.run s b) _ = _
  rw [List.foldlM_cons, Numbered.run_of_givesUp hst]
  rfl

end Statements

/-! ### A script -/

namespace Script

variable {script : Script} {s : Settings} {b : Bundle}

theorem GivesUpAt.find?_eq {line : Nat} (h : script.GivesUpAt b line) :
    (script.statements.find? (·.item.givesUp b)).map (·.number) = some line := by
  obtain ⟨before, st, after, hscript, rfl, hst, hbefore⟩ := h
  have hfind : script.statements.find? (·.item.givesUp b) = some st :=
    List.find?_eq_some_iff_append.mpr ⟨hst, before, after, hscript, by simpa using hbefore⟩
  rw [hfind, Option.map_some]

theorem GivesUpAt.unique {line line' : Nat} (h : script.GivesUpAt b line)
    (h' : script.GivesUpAt b line') : line = line' := by
  have heq := h.find?_eq.symm.trans h'.find?_eq
  exact Option.some.inj heq

theorem build_of_givesUpAt {line : Nat} (h : script.GivesUpAt b line) :
    script.build s b = .error line := by
  obtain ⟨before, st, after, hscript, rfl, hst, hbefore⟩ := h
  rw [build, hscript]
  exact foldlM_run_of_givesUp hst hbefore []

theorem build_of_forall_not_givesUpAt (h : ∀ line, ¬script.GivesUpAt b line) :
    script.build s b = .ok (writeAll s b [] script.statements) := by
  apply foldlM_run_of_not_givesUp
  cases hfind : script.statements.find? (·.item.givesUp b) with
  | none => simpa using hfind
  | some st =>
      obtain ⟨hst, before, after, hscript, hbefore⟩ := List.find?_eq_some_iff_append.mp hfind
      exact absurd ⟨before, st, after, hscript, rfl, hst, by simpa using hbefore⟩ (h st.number)

theorem finish_writeAll : finish s (writeAll s b [] script.statements) = script.stem s b := by
  rw [stem, Text.replaceAll_character]
  rfl

/-! ### A run -/

theorem eq_ok_of_toOption {α ε : Type} {x : Except ε α} {a : α} (h : x.toOption = some a) :
    x = .ok a := by
  cases x with
  | error e => cases h
  | ok a' =>
      cases h
      rfl

theorem run_of_unlinked (h : b.episodes = []) : script.run s b = .ok .unlinked := by
  simp [run, Bundle.hasEpisode, h]

theorem run_of_seriesMissing (hep : b.episodes ≠ []) (h : b.series = none) :
    script.run s b = .ok .seriesMissing := by
  simp [run, Bundle.hasEpisode, hep, h]

theorem run_of_extensionMissing (hep : b.episodes ≠ []) (hseries : b.series ≠ none)
    (h : b.file.extension = .ok none) : script.run s b = .ok .extensionMissing := by
  simp [run, Bundle.hasEpisode, hep, hseries, h, Except.map]

theorem run_of_givesUpAt (hep : b.episodes ≠ []) (hseries : b.series ≠ none) {e : Text}
    (hext : b.file.extension = .ok (some e)) {line : Nat} (h : script.GivesUpAt b line) :
    script.run s b = .ok (.failed line) := by
  simp [run, Bundle.hasEpisode, hep, hseries, hext, Except.map, build_of_givesUpAt h]

theorem run_of_forall_not_givesUpAt (hep : b.episodes ≠ []) (hseries : b.series ≠ none) {e : Text}
    (hext : b.file.extension = .ok (some e)) (h : ∀ line, ¬script.GivesUpAt b line) :
    script.run s b =
      .ok (if script.stem s b = [] then .empty else .renamed (script.stem s b ++ e)) := by
  simp only [run, Bundle.hasEpisode, hep, hseries, hext, Except.map,
    build_of_forall_not_givesUpAt h, finish_writeAll, List.isEmpty_iff, Option.isNone_iff_eq_none,
    Bool.not_not, if_false]
  cases script.stem s b with
  | nil => rfl
  | cons c rest => rfl

/-- A run either stops in front of its script, or the script gives up, or it makes the stem of a
name. -/
theorem run_cases {outcome : Outcome} (h : script.run s b = .ok outcome) :
    outcome ∈ [.unlinked, .seriesMissing, .extensionMissing] ∨
      ∃ e, b.file.extension = .ok (some e) ∧
        ((∃ line, script.GivesUpAt b line ∧ outcome = .failed line) ∨
          script.stem s b = [] ∧ outcome = .empty ∨
          script.stem s b ≠ [] ∧ outcome = .renamed (script.stem s b ++ e)) := by
  by_cases hep : b.episodes = []
  · cases (run_of_unlinked hep).symm.trans h
    exact .inl (by decide)
  by_cases hseries : b.series = none
  · cases (run_of_seriesMissing hep hseries).symm.trans h
    exact .inl (by decide)
  cases hext : b.file.extension with
  | error fault => simp [run, Bundle.hasEpisode, hep, hseries, hext, Except.map] at h
  | ok extension =>
      cases extension with
      | none =>
          cases (run_of_extensionMissing hep hseries hext).symm.trans h
          exact .inl (by decide)
      | some e =>
          refine .inr ⟨e, rfl, ?_⟩
          by_cases hline : ∃ line, script.GivesUpAt b line
          · obtain ⟨line, hline⟩ := hline
            cases (run_of_givesUpAt hep hseries hext hline).symm.trans h
            exact .inl ⟨line, hline, rfl⟩
          · rw [run_of_forall_not_givesUpAt hep hseries hext fun line h => hline ⟨line, h⟩] at h
            split at h
            · next hstem =>
              cases h
              exact .inr (.inl ⟨hstem, rfl⟩)
            · next hstem =>
              cases h
              exact .inr (.inr ⟨hstem, rfl⟩)

/-- The whole law: which of the six outcomes a run has, in the order in which they are decided. -/
theorem run_outcome (script : Script) (s : Settings) (b : Bundle) {extension : Option Text}
    (hext : b.file.extension = .ok extension) :
    ∃ outcome, script.run s b = .ok outcome ∧
      (outcome = .unlinked ↔ b.episodes = []) ∧
      (b.episodes ≠ [] →
        (outcome = .seriesMissing ↔ b.series = none) ∧
        (b.series ≠ none →
          (outcome = .extensionMissing ↔ extension = none) ∧
          ∀ e, extension = some e →
            (∀ line, outcome = .failed line ↔ script.GivesUpAt b line) ∧
            ((∀ line, ¬script.GivesUpAt b line) →
              (outcome = .empty ↔ script.stem s b = []) ∧
              (script.stem s b ≠ [] → outcome = .renamed (script.stem s b ++ e))))) := by
  by_cases hep : b.episodes = []
  · exact ⟨.unlinked, run_of_unlinked hep, by simp [hep], fun h => absurd hep h⟩
  by_cases hseries : b.series = none
  · exact ⟨.seriesMissing, run_of_seriesMissing hep hseries, by simp [hep],
      fun _ => ⟨by simp [hseries], fun h => absurd hseries h⟩⟩
  cases extension with
  | none =>
      exact ⟨.extensionMissing, run_of_extensionMissing hep hseries hext, by simp [hep],
        fun _ => ⟨by simp [hseries], fun _ => ⟨by simp, fun e he => by cases he⟩⟩⟩
  | some e =>
      by_cases hline : ∃ line, script.GivesUpAt b line
      · obtain ⟨line, hline⟩ := hline
        refine ⟨.failed line, run_of_givesUpAt hep hseries hext hline, by simp [hep],
          fun _ => ⟨by simp [hseries], fun _ => ⟨by simp, fun _ _ => ⟨?_, ?_⟩⟩⟩⟩
        · intro line'
          constructor
          · intro h
            cases h
            exact hline
          · intro hline'
            rw [hline.unique hline']
        · intro h
          exact absurd hline (h line)
      · have hnone : ∀ line, ¬script.GivesUpAt b line := fun line h => hline ⟨line, h⟩
        have hrun := run_of_forall_not_givesUpAt (s := s) hep hseries hext hnone
        by_cases hstem : script.stem s b = []
        · rw [if_pos hstem] at hrun
          refine ⟨.empty, hrun, by simp [hep], fun _ => ⟨by simp [hseries], fun _ =>
            ⟨by simp, fun _ _ => ⟨?_, ?_⟩⟩⟩⟩
          · intro line
            simp [hnone line]
          · intro _
            simp [hstem]
        · rw [if_neg hstem] at hrun
          refine ⟨.renamed (script.stem s b ++ e), hrun, by simp [hep], fun _ =>
            ⟨by simp [hseries], fun _ => ⟨by simp, fun e' he => ⟨?_, ?_⟩⟩⟩⟩
          · intro line
            simp [hnone line]
          · intro _
            cases he
            simp [hstem]

/-- A file with one episode of a series, on which the laws of a run are tried. -/
def linkedSample : Bundle where
  file := { name := "old.name.mkv".toList, ed2k := "abc".toList, size := 1 }
  release := some { id := 10, version := 1, groupName := some "a:b".toList }
  episodes := [{ id := 5, seriesId := 1, number := 7, kind := .normal }]
  series := some { id := 1, mainTitle := "Show".toList, normalCount := 12 }

/-- Statements that write, that do not hold, and that give up in vain. -/
def mixedSample : Script := ofText ("DO ADD '.x`'\nDO FAIL\nIF E(8) DO FAIL\n" ++
  "IF E(7) DO ADD '%enr'\nIF M() DO REPLACE 'x' 'z'\nDO REPLACE 'x' '?'").toList

theorem run_outcome_mixedSample :
    linkedSample.file.extension = .ok (some ".mkv".toList) ∧
      mixedSample.run {} linkedSample = .ok (.renamed "․？'07.mkv".toList) := by
  have hext : linkedSample.file.extension = .ok (some ".mkv".toList) := by rfl
  refine ⟨hext, ?_⟩
  obtain ⟨outcome, hrun, -, hlinked⟩ := run_outcome mixedSample {} linkedSample hext
  obtain ⟨-, hseries⟩ := hlinked (by decide)
  obtain ⟨-, hextension⟩ := hseries (by decide)
  obtain ⟨-, hname⟩ := hextension _ rfl
  have hfind : mixedSample.statements.find? (·.item.givesUp linkedSample) = none := by
    decide +kernel
  have hstem : mixedSample.stem {} linkedSample = "․？'07".toList := by decide +kernel
  have hnone : ∀ line, ¬mixedSample.GivesUpAt linkedSample line := by
    intro line h
    simpa [hfind] using h.find?_eq
  rw [hstem] at hname
  have hrenamed := (hname hnone).2 (by decide)
  rw [hrun, hrenamed]
  rfl

end Script

end MediaNaming
