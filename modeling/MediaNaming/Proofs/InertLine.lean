import MediaNaming.Proofs.Comment
import MediaNaming.Proofs.Run

/-!
Lines that have no part in a run. A line that is blank or not understood, and one that gives up
without a guard, can stand anywhere in a script: all it does is to push the lines after it down by
one. A line that gives up for good decides the run, whatever is added after it.
-/

namespace MediaNaming

/-- The same item on another line. -/
def Numbered.relabel {α : Type} (f : Nat → Nat) (x : Numbered α) : Numbered α :=
  ⟨f x.number, x.item⟩

/-- The same outcome where the lines have other numbers. -/
def Outcome.relabel (f : Nat → Nat) : Outcome → Outcome
  | .failed line => .failed (f line)
  | o => o

/-- A line that has no part in a run. -/
inductive Line.IsInert : Line → Prop
  | blank : IsInert .blank
  | skipped (t : Text) (reason : LineFault) : IsInert (.skipped t reason)
  | unguarded : IsInert (.statement ⟨none, .reject⟩)

/-- The number of a line once another one is put in after the first `n`. -/
def pushedDown (n line : Nat) : Nat := if n < line then line + 1 else line

theorem Numbered.run_relabel (s : Settings) (b : Bundle) (f : Nat → Nat) (st : Numbered Statement)
    (name : Text) :
    Numbered.run s b name (st.relabel f) = (Numbered.run s b name st).mapError f := by
  rcases st with ⟨number, item⟩
  change Numbered.run s b name ⟨f number, item⟩ = _
  rw [Numbered.run, Numbered.run]
  split
  · rfl
  split
  · rfl
  cases item.step.perform? s b name with
  | none => rfl
  | some name => rfl

/-! ### Numbers of lines -/

namespace Script

section Picking

variable {α : Type} (pick : Line → Option α)

theorem pickFrom_append (n : Nat) (ls ls' : List Line) :
    pickFrom pick n (ls ++ ls') = pickFrom pick n ls ++ pickFrom pick (n + ls.length) ls' := by
  induction ls generalizing n with
  | nil => rfl
  | cons l ls ih =>
      rw [List.cons_append, pickFrom, pickFrom, ih, List.length_cons, Nat.add_right_comm,
        Nat.add_assoc]
      cases pick l with
      | none => rfl
      | some a => rfl

/-- Items keep their places where their lines get other numbers. -/
theorem map_relabel_pickFrom {f : Nat → Nat} {n m : Nat} {ls : List Line}
    (h : ∀ i < ls.length, f (n + i) = m + i) :
    (pickFrom pick n ls).map (Numbered.relabel f) = pickFrom pick m ls := by
  induction ls generalizing n m with
  | nil => rfl
  | cons l ls ih =>
      have hrest :
          (pickFrom pick (n + 1) ls).map (Numbered.relabel f) = pickFrom pick (m + 1) ls := by
        refine ih fun i hi => ?_
        have hnext := h (i + 1) (Nat.succ_lt_succ hi)
        rwa [Nat.add_comm i 1, ← Nat.add_assoc, ← Nat.add_assoc] at hnext
      rw [pickFrom, pickFrom]
      cases pick l with
      | none => exact hrest
      | some a =>
          have hfirst := h 0 (Nat.zero_lt_succ _)
          simp only [List.map_cons, hrest]
          rw [Numbered.relabel, show f n = m from hfirst]

end Picking

/-! ### Runs under other numbers -/

variable {s : Settings} {b : Bundle}

theorem foldlM_run_relabel (f : Nat → Nat) (sts : List (Numbered Statement)) (name : Text) :
    (sts.map (Numbered.relabel f)).foldlM (Numbered.run s b) name =
      (sts.foldlM (Numbered.run s b) name).mapError f := by
  -- No statement looks at its number except to give up, so the names in between are the same.
  induction sts generalizing name with
  | nil => rfl
  | cons st sts ih =>
      rw [List.map_cons, List.foldlM_cons, List.foldlM_cons, Numbered.run_relabel]
      cases Numbered.run s b name st with
      | error line => rfl
      | ok name => exact ih name

theorem run_of_build {script script' : Script} {f : Nat → Nat}
    (h : script'.build s b = (script.build s b).mapError f) :
    script'.run s b = (script.run s b).map (Outcome.relabel f) := by
  rw [run, run, h]
  split
  · rfl
  split
  · rfl
  cases b.file.extension with
  | error fault => rfl
  | ok extension =>
      cases extension with
      | none => rfl
      | some e =>
          cases script.build s b with
          | error line => rfl
          | ok built =>
              rw [show (Except.ok built : Except Nat Text).mapError f = .ok built from rfl]
              simp only [Except.map]
              cases finish s built <;> rfl

theorem run_eq_of_build_eq {script script' : Script} (h : script'.build s b = script.build s b) :
    script'.run s b = script.run s b := by
  rw [run, run, h]

theorem build_of_run_failed {script : Script} {line : Nat}
    (h : script.run s b = .ok (.failed line)) : script.build s b = .error line := by
  rcases run_cases h with h | ⟨e, -, ⟨line', hline, h⟩ | ⟨-, h⟩ | ⟨-, h⟩⟩
  · simp at h
  · cases h
    exact build_of_givesUpAt hline
  · cases h
  · cases h

/-! ### Lines that have no part in a run -/

theorem foldlM_run_of_inert {n : Nat} {l : Line} (h : l.IsInert) (name : Text) :
    (pickFrom Line.statement? n [l]).foldlM (Numbered.run s b) name = .ok name := by
  cases h with
  | blank => rfl
  | skipped t reason => rfl
  | unguarded => rfl

theorem build_insert {ls ls' : List Line} {l : Line} (h : l.IsInert) :
    (ofLines (ls ++ l :: ls')).build s b = ((ofLines (ls ++ ls')).build s b).mapError
      (pushedDown ls.length) := by
  -- The first lines keep their numbers, and the last ones are one further down than without `l`.
  have hbefore : (pickFrom Line.statement? 1 ls).map
      (Numbered.relabel (pushedDown ls.length)) =
      pickFrom Line.statement? 1 ls :=
    map_relabel_pickFrom _ fun i hi => if_neg (by omega)
  have hafter : (pickFrom Line.statement? (1 + ls.length) ls').map
      (Numbered.relabel (pushedDown ls.length)) =
      pickFrom Line.statement? (1 + ls.length + 1) ls' :=
    map_relabel_pickFrom _ fun i hi => (if_pos (by omega)).trans (by omega)
  have hparts : ls ++ l :: ls' = ls ++ ([l] ++ ls') := rfl
  rw [build, build, ← foldlM_run_relabel]
  simp only [ofLines]
  rw [hparts, pickFrom_append, pickFrom_append, pickFrom_append, List.map_append, hbefore, hafter,
    List.foldlM_append, List.foldlM_append]
  congr 1
  funext name
  rw [List.foldlM_append, foldlM_run_of_inert h]
  rfl

/-- What gives up on the first lines gives up on all of them. -/
theorem build_append_of_error {ls : List Line} {line : Nat}
    (h : (ofLines ls).build s b = .error line) (ls' : List Line) :
    (ofLines (ls ++ ls')).build s b = .error line := by
  rw [build] at h ⊢
  simp only [ofLines] at h ⊢
  rw [pickFrom_append, List.foldlM_append, h]
  rfl

theorem map_ofText_lines_insert {a x : Text} (ha : a.EndsLine) (hx : '\n' ∉ x) (c : Text) :
    (a ++ x ++ '\n' :: c).lines.map Line.ofText =
      a.lines.map Line.ofText ++ Line.ofText x :: c.lines.map Line.ofText := by
  have hline := map_ofText_lines_append hx (.inl rfl) c
  rw [List.append_assoc, List.singleton_append] at hline
  rw [List.append_assoc, Text.lines_append ha, List.map_append, hline]

/-- A line that has no part in a run can be put in after any line: the outcome is the same, except
that later lines have moved down by one. And what is added after lines that give up changes nothing
any more. -/
theorem run_insert_inert (s : Settings) (b : Bundle) {a : Text} (ha : a.EndsLine) (c : Text) :
    (∀ x, '\n' ∉ x → (Line.ofText x).IsInert →
      (ofText (a ++ x ++ '\n' :: c)).run s b = ((ofText (a ++ c)).run s b).map
        (Outcome.relabel (pushedDown a.lines.length))) ∧
      ∀ line, (ofText a).run s b = .ok (.failed line) →
        (ofText (a ++ c)).run s b = .ok (.failed line) := by
  have happend : (a ++ c).lines.map Line.ofText =
      a.lines.map Line.ofText ++ c.lines.map Line.ofText := by
    rw [Text.lines_append ha, List.map_append]
  refine ⟨fun x hx hinert => ?_, fun line h => ?_⟩
  · refine run_of_build ?_
    rw [ofText, ofText, map_ofText_lines_insert ha hx, happend, build_insert hinert,
      List.length_map]
  · have hbuild : (ofText a).build s b = .error line := build_of_run_failed h
    refine (run_eq_of_build_eq ?_).trans h
    rw [hbuild, ofText, happend]
    exact build_append_of_error hbuild _

/-- A line that writes, one that asks an unknown test, and one that gives up. -/
def writingLine : Text := "DO ADD 'a'\r\n".toList

def unreadableLine : Text := "IF Q(1) DO FAIL // no such test".toList

def failingLine : Text := "IF E(7) DO FAIL\n".toList

theorem run_failingLine : (ofText failingLine).run {} linkedSample = .ok (.failed 1) :=
  eq_ok_of_toOption (by decide +kernel)

theorem isInert_unreadableLine : (Line.ofText unreadableLine).IsInert := by
  have hread : Line.ofText unreadableLine =
      .skipped "IF Q(1) DO FAIL".toList (.unknownTest 'Q') := by decide +kernel
  rw [hread]
  exact .skipped _ _

theorem run_insert_inert_lines :
    writingLine.EndsLine ∧ '\n' ∉ unreadableLine ∧ (Line.ofText unreadableLine).IsInert ∧
      (ofText (writingLine ++ unreadableLine ++ '\n' :: failingLine)).run {} linkedSample =
        ((ofText (writingLine ++ failingLine)).run {} linkedSample).map
          (Outcome.relabel (pushedDown writingLine.lines.length)) ∧
      failingLine.EndsLine ∧ (ofText failingLine).run {} linkedSample = .ok (.failed 1) ∧
      (ofText (failingLine ++ writingLine)).run {} linkedSample = .ok (.failed 1) :=
  ⟨.inr rfl, by decide, isInert_unreadableLine,
    (run_insert_inert {} linkedSample (.inr rfl) failingLine).1 unreadableLine (by decide)
      isInert_unreadableLine,
    .inr rfl, run_failingLine,
    (run_insert_inert {} linkedSample (.inr rfl) writingLine).2 1 run_failingLine⟩

end Script

end MediaNaming
