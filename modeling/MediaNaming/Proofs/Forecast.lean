import MediaNaming.Proofs.Run

/-!
What can be told of a name before the run. The bundle decides which guards hold and what the
placeholders show, but a fact about the name can be followed through the steps of a script without
it: each step brings the fact about, keeps it, or may destroy it, and a step behind a guard counts
on neither being performed nor being passed over. What is sure at the end holds in every run.
-/

namespace MediaNaming

/-- A fact about names and how sure it is from step to step. -/
structure Forecast where
  Fact : Text → Prop
  /-- Whether the fact is sure after a step, where `sure` tells whether it is before. -/
  after : Step → Bool → Bool
  sound : ∀ (s : Settings) (b : Bundle) {step : Step} {sure : Bool} {name : Text},
    (sure = true → Fact name) → after step sure = true → Fact (step.apply s b name)

/-- One statement changes the name by its step or not at all. -/
theorem writeAll_singleton (s : Settings) (b : Bundle) (name : Text) (st : Numbered Statement) :
    writeAll s b name [st] =
      if st.item.isActive b then st.item.step.apply s b name else name := by
  rcases st with ⟨number, guard, step⟩
  cases hactive : Statement.isActive ⟨guard, step⟩ b with
  | false => simp [writeAll, Statement.writes, hactive]
  | true => cases step <;> simp [writeAll, Statement.writes, hactive, Step.apply]

/-- Whether a template shows a character at its end whatever the bundle holds. -/
def Template.endsIn (c : Char) (t : Template) : Bool :=
  match t.getLast? with
  | some (.literal u) => u.getLast? = some c
  | _ => false

theorem Template.getLast?_render {c : Char} {t : Template} (h : t.endsIn c = true) (s : Settings)
    (b : Bundle) : (t.render s b).getLast? = some c := by
  unfold Template.endsIn at h
  split at h
  · next u hu =>
    obtain ⟨before, rfl⟩ := List.getLast?_eq_some_iff.mp hu
    obtain ⟨v, rfl⟩ := List.getLast?_eq_some_iff.mp (of_decide_eq_true h)
    rw [Template.render, List.flatMap_append, List.flatMap_singleton, Piece.render,
      ← List.append_assoc, List.getLast?_concat]
  · cases h

namespace Forecast

/-- Whether the fact is sure after a statement, which may or may not be performed if it has a
guard. -/
def afterStatement (F : Forecast) (sure : Bool) (st : Numbered Statement) : Bool :=
  F.after st.item.step sure && (st.item.guard.isNone || sure)

def afterAll (F : Forecast) (sure : Bool) (sts : List (Numbered Statement)) : Bool :=
  sts.foldl F.afterStatement sure

section Soundness

variable (F : Forecast) {s : Settings} {b : Bundle} {sure : Bool} {name : Text}

theorem fact_of_afterStatement {st : Numbered Statement} (hname : sure = true → F.Fact name)
    (h : F.afterStatement sure st = true) : F.Fact (writeAll s b name [st]) := by
  rw [afterStatement, Bool.and_eq_true, Bool.or_eq_true, Option.isNone_iff_eq_none] at h
  obtain ⟨hstep, hguard⟩ := h
  rw [writeAll_singleton]
  split
  · exact F.sound s b hname hstep
  · next hactive =>
    -- Passed over, a statement has a guard, and the fact counted as sure in front of it.
    rcases hguard with hnone | hsure
    · exact absurd (by rw [Statement.isActive, hnone]) hactive
    · exact hname hsure

/-- What is sure after all statements holds of the name in every run. -/
theorem fact_of_afterAll {sts : List (Numbered Statement)} (hname : sure = true → F.Fact name)
    (h : F.afterAll sure sts = true) : F.Fact (writeAll s b name sts) := by
  induction sts generalizing sure name with
  | nil => exact hname h
  | cons st sts ih =>
      rw [show st :: sts = [st] ++ sts from rfl, writeAll_append]
      exact ih (fun hst => F.fact_of_afterStatement hname hst) h

end Soundness

/-! ### Facts -/

/-- A character is not in the name. A step that replaces it by other ones makes sure of that. -/
def lacks (c : Char) : Forecast where
  Fact name := c ∉ name
  after
    | .append _, _ => false
    | .replace o old new, sure => !new.contains c && (sure || (o == c && old.isEmpty))
    | .reject, sure => sure
  sound := by
    intro s b step sure name hname h
    cases step with
    | append t => cases h
    | replace o old new =>
        simp only [Bool.and_eq_true, Bool.or_eq_true, Bool.not_eq_true', List.contains_eq_mem,
          decide_eq_false_iff_not, beq_iff_eq, List.isEmpty_iff] at h
        -- Either the character was away before, or it is what the step replaces.
        obtain ⟨hnew, hsure | ⟨rfl, rfl⟩⟩ := h
        · intro hmem
          exact (Text.mem_of_mem_replaceAll hmem).elim (hname hsure) hnew
        · exact Text.not_mem_replaceAll_singleton hnew name
    | reject => exact hname h

/-- A character stands at the beginning of the name. -/
def begins (c : Char) : Forecast where
  Fact name := name.head? = some c
  after
    | .replace o old _, sure => sure && !(o :: old).contains c
    | _, sure => sure
  sound := by
    intro s b step sure name hname h
    cases step with
    | append t =>
        obtain ⟨rest, hrest⟩ := List.head?_eq_some_iff.mp (hname h)
        rw [Step.apply, hrest, List.cons_append, List.head?_cons]
    | replace o old new =>
        simp only [Bool.and_eq_true, Bool.not_eq_true', List.contains_eq_mem,
          decide_eq_false_iff_not] at h
        exact Text.head?_replaceAll h.2 new (hname h.1)
    | reject => exact hname h

/-- A character stands at the end of the name. -/
def ends (c : Char) : Forecast where
  Fact name := name.getLast? = some c
  after
    | .append t, _ => t.endsIn c
    | .replace o old _, sure => sure && !(o :: old).contains c
    | .reject, sure => sure
  sound := by
    intro s b step sure name hname h
    cases step with
    | append t =>
        obtain ⟨rest, hrest⟩ := List.getLast?_eq_some_iff.mp (Template.getLast?_render h s b)
        rw [Step.apply, hrest, ← List.append_assoc, List.getLast?_concat]
    | replace o old new =>
        simp only [Bool.and_eq_true, Bool.not_eq_true', List.contains_eq_mem,
          decide_eq_false_iff_not] at h
        exact Text.getLast?_replaceAll h.2 new (hname h.1)
    | reject => exact hname h

end Forecast

end MediaNaming
