import MediaNaming.Criterion.Comparison
import MediaNaming.Proofs.Text

/-!
How the parameter of a test is written and taken apart. White space may stand at its ends and in
front of the value, but not between the exclamation mark and the operator. Every parameter is a
spelling of what is read from it, and a spelling is read as what it spells as soon as its value
cannot be mistaken for one of the marks before it.
-/

namespace MediaNaming.Comparison

variable {p : Text} {op : Comparison}

/-- The mark of a negation. -/
def mark (negated : Bool) : Text := if negated then ['!'] else []

/-- The operator, if there is one. -/
def symbol (r : Option Relation) : Text := r.elim [] Relation.symbol

@[simp] theorem mark_true : mark true = ['!'] := rfl

@[simp] theorem mark_false : mark false = [] := rfl

@[simp] theorem symbol_none : symbol none = [] := rfl

@[simp] theorem symbol_some (r : Relation) : symbol (some r) = r.symbol := rfl

/-- A text that begins with an operator. -/
def Orders (p : Text) : Prop := ∃ c ∈ p.head?, c = '<' ∨ c = '>'

/-! ### Marks in front of a text -/

theorem splitNegation_of_head? (h : p.head? ≠ some '!') : splitNegation p = (false, p) := by
  unfold splitNegation
  split
  · exact absurd rfl h
  · rfl

/-- The mark that was taken off and the rest make up the text. -/
theorem mark_splitNegation (p : Text) : mark (splitNegation p).1 ++ (splitNegation p).2 = p := by
  unfold splitNegation
  split <;> rfl

theorem symbol_splitRelation (p : Text) :
    symbol (splitRelation p).1 ++ (splitRelation p).2 = p := by
  unfold splitRelation
  split <;> rfl

theorem isFramed_symbol (r : Relation) : Text.IsFramed r.symbol := by
  cases r <;> exact ⟨⟨_, rfl, rfl⟩, ⟨_, rfl, rfl⟩⟩

/-- An operator is read unless an equality sign behind it would make another one of it. -/
theorem splitRelation_symbol_append (r : Relation) (h : p.head? ≠ some '=') :
    splitRelation (r.symbol ++ p) = (some r, p) := by
  cases p with
  | nil => cases r <;> rfl
  | cons c rest =>
      have hc : c ≠ '=' := fun hc => h (by rw [hc, List.head?_cons])
      cases r with
      | greater => simp [splitRelation, Relation.symbol, hc]
      | greaterOrEqual => rfl
      | less => simp [splitRelation, Relation.symbol, hc]
      | lessOrEqual => rfl

theorem splitRelation_eq_none_iff : (splitRelation p).1 = none ↔ ¬Orders p := by
  unfold splitRelation Orders
  split
  · simp
  · simp
  · simp
  · simp
  · next hgreater _ hless =>
    simp only [true_iff]
    rintro ⟨c, hc, hmark⟩
    obtain ⟨rest, rfl⟩ := List.head?_eq_some_iff.mp hc
    rcases hmark with rfl | rfl
    · exact hless rest rfl
    · exact hgreater rest rfl

theorem splitRelation_of_not_orders (h : ¬Orders p) : splitRelation p = (none, p) := by
  have hnone := splitRelation_eq_none_iff.mpr h
  have hrest := symbol_splitRelation p
  rw [hnone, symbol_none, List.nil_append] at hrest
  exact Prod.ext hnone hrest

/-! ### Negated parameters -/

theorem ofPlainText_of_head? (h : p.trim.head? ≠ some '!') :
    ofPlainText p = ⟨false, none, p.trim⟩ := by
  simp only [ofPlainText, splitNegation_of_head? h, Text.trim_trim]

theorem ofPlainText_negation (p : Text) : ofPlainText ('!' :: p) = ⟨true, none, p.trim⟩ := by
  have hmark : Text.isBlank '!' = false := rfl
  simp only [ofPlainText, Text.trim_cons hmark, splitNegation, Text.trim_trimEnd]

theorem ofText_of_head? (h : p.trim.head? ≠ some '!') :
    ofText p = ⟨false, (splitRelation p.trim).1, (splitRelation p.trim).2.trim⟩ := by
  simp only [ofText, splitNegation_of_head? h]

theorem ofText_negation (p : Text) :
    ofText ('!' :: p) =
      ⟨true, (splitRelation p.trimEnd).1, (splitRelation p.trimEnd).2.trim⟩ := by
  have hmark : Text.isBlank '!' = false := rfl
  simp only [ofText, Text.trim_cons hmark, splitNegation]

/-! ### Spellings -/

/-- The texts that spell a parameter. -/
inductive Spells (p : Text) (op : Comparison) : Prop
  | intro {lead gap trail : Text} (hlead : ∀ c ∈ lead, Text.isBlank c = true)
      (hgap : ∀ c ∈ gap, Text.isBlank c = true) (htrail : ∀ c ∈ trail, Text.isBlank c = true)
      (htext : p = lead ++ (mark op.negated ++ symbol op.relation ++ gap ++ op.value) ++ trail) :
      Spells p op

/-- A comparison written without white space. -/
def bare (op : Comparison) : Text := mark op.negated ++ symbol op.relation ++ op.value

theorem spells_bare (op : Comparison) : Spells op.bare op :=
  .intro (List.forall_mem_nil _) (List.forall_mem_nil _) (List.forall_mem_nil _) (by simp [bare])

/-- An operator and a value are what was read of them. -/
theorem exists_eq_symbol_append (t : Text) : ∃ gap trail, (∀ c ∈ gap, Text.isBlank c = true) ∧
    (∀ c ∈ trail, Text.isBlank c = true) ∧
    t = symbol (splitRelation t).1 ++ gap ++ (splitRelation t).2.trim ++ trail := by
  obtain ⟨gap, trail, hgap, htrail, hvalue⟩ :=
    Text.exists_eq_append_trim_append (splitRelation t).2
  refine ⟨gap, trail, hgap, htrail, ?_⟩
  rw [List.append_assoc, List.append_assoc, ← List.append_assoc gap, ← hvalue,
    symbol_splitRelation]

theorem spells_ofText (p : Text) : Spells p (ofText p) := by
  obtain ⟨lead, trail, hlead, htrail, hp⟩ := Text.exists_eq_append_trim_append p
  obtain ⟨gap, trail', hgap, htrail', hrest⟩ := exists_eq_symbol_append (splitNegation p.trim).2
  refine .intro hlead hgap (List.forall_mem_append.mpr ⟨htrail', htrail⟩) ?_
  calc
    p = lead ++ (mark (splitNegation p.trim).1 ++ (splitNegation p.trim).2) ++ trail := by
      rw [mark_splitNegation, ← hp]
    _ = lead ++ (mark (ofText p).negated ++ symbol (ofText p).relation ++ gap ++
        (ofText p).value) ++ (trail' ++ trail) := by
      rw [hrest]
      simp [ofText]

/-- Without the exclamation mark in front of it a parameter spells the same, not negated. -/
theorem spells_of_negation (p : Text) :
    Spells p { ofText ('!' :: p) with negated := false } := by
  obtain ⟨trail, htrail, hp⟩ := Text.exists_eq_trimEnd_append p
  obtain ⟨gap, trail', hgap, htrail', hrest⟩ := exists_eq_symbol_append p.trimEnd
  refine .intro (List.forall_mem_nil _) hgap (List.forall_mem_append.mpr ⟨htrail', htrail⟩) ?_
  rw [ofText_negation, mark_false]
  calc
    p = p.trimEnd ++ trail := hp
    _ = symbol (splitRelation p.trimEnd).1 ++ gap ++ (splitRelation p.trimEnd).2.trim ++ trail' ++
        trail := congrArg (· ++ trail) hrest
    _ = [] ++ ([] ++ symbol (splitRelation p.trimEnd).1 ++ gap ++
        (splitRelation p.trimEnd).2.trim) ++ (trail' ++ trail) := by simp

/-! ### Plain values -/

/-- A value that loses nothing by trimming and cannot be mistaken for a mark before it. -/
structure IsPlain (v : Text) : Prop where
  framed : Text.IsFramed v
  unmarked : ∀ c ∈ v.head?, c ∉ ['!', '<', '>', '=']

variable {v gap : Text}

theorem isPlain_of_forall (hne : v ≠ []) (hvisible : ∀ c ∈ v, Text.isBlank c = false)
    (hmark : ∀ c ∈ v, c ∉ ['!', '<', '>', '=']) : IsPlain v where
  framed := Text.isFramed_of_forall hne hvisible
  unmarked c hc := hmark c (List.mem_of_mem_head? hc)

theorem not_mem_marks_of_isAlphanum {c : Char} (h : c.isAlphanum = true) :
    c ∉ ['!', '<', '>', '='] := by
  intro hmark
  simp only [List.mem_cons, List.not_mem_nil, or_false] at hmark
  rcases hmark with rfl | rfl | rfl | rfl <;> cases h

/-- White space in front of a plain value begins with no mark either. -/
theorem IsPlain.unmarked_append (hv : IsPlain v) (hgap : ∀ c ∈ gap, Text.isBlank c = true) :
    ∀ c ∈ (gap ++ v).head?, c ∉ ['!', '<', '>', '='] := by
  cases gap with
  | nil => exact hv.unmarked
  | cons d rest =>
      -- The first character is white space, and none of the marks is.
      intro c hc hmark
      obtain rfl : d = c := Option.some.inj hc
      have hblank := hgap d List.mem_cons_self
      simp only [List.mem_cons, List.not_mem_nil, or_false] at hmark
      rcases hmark with rfl | rfl | rfl | rfl <;> cases hblank

theorem IsPlain.trim_append (hv : IsPlain v) (hgap : ∀ c ∈ gap, Text.isBlank c = true) :
    (gap ++ v).trim = v := by
  rw [Text.trim_append_left hgap, hv.framed.trim_eq]

/-- The operator in front of a plain value is read, whether there is one or not. -/
theorem IsPlain.splitRelation_append (hv : IsPlain v) (hgap : ∀ c ∈ gap, Text.isBlank c = true)
    (r : Option Relation) : splitRelation (symbol r ++ (gap ++ v)) = (r, gap ++ v) := by
  have hhead := hv.unmarked_append hgap
  cases r with
  | some r =>
      refine splitRelation_symbol_append r fun hc => ?_
      exact hhead '=' hc (by decide)
  | none =>
      refine splitRelation_of_not_orders ?_
      rintro ⟨c, hc, rfl | rfl⟩
      · exact hhead '<' hc (by decide)
      · exact hhead '>' hc (by decide)

/-- Trimming an operator and a plain value leaves them both, and white space between them at most. -/
theorem IsPlain.exists_trim_eq (hv : IsPlain v) (hgap : ∀ c ∈ gap, Text.isBlank c = true)
    (r : Option Relation) : ∃ gap', (∀ c ∈ gap', Text.isBlank c = true) ∧
      (symbol r ++ (gap ++ v)).trim = symbol r ++ (gap' ++ v) := by
  cases r with
  | none => exact ⟨[], List.forall_mem_nil _, hv.trim_append hgap⟩
  | some r =>
      refine ⟨gap, hgap, ?_⟩
      have hframed := (isFramed_symbol r).append hv.framed gap
      rw [List.append_assoc] at hframed
      exact hframed.trim_eq

theorem ofText_of_trim_eq {q : Text} (h : p.trim = q.trim) : ofText p = ofText q := by
  simp only [ofText, h]

/-- An operator and a plain value without an exclamation mark. -/
theorem IsPlain.ofText_append (hv : IsPlain v) (hgap : ∀ c ∈ gap, Text.isBlank c = true)
    (r : Option Relation) : ofText (symbol r ++ (gap ++ v)) = ⟨false, r, v⟩ := by
  obtain ⟨gap', hgap', htrim⟩ := hv.exists_trim_eq hgap r
  have hhead : (symbol r ++ (gap' ++ v)).head? ≠ some '!' := by
    cases r with
    | none => exact fun hc => hv.unmarked_append hgap' '!' hc (by decide)
    | some r => cases r <;> simp [Relation.symbol]
  rw [ofText_of_head? (by rwa [htrim]), htrim, hv.splitRelation_append hgap',
    hv.trim_append hgap']

/-- An operator and a plain value after an exclamation mark. -/
theorem IsPlain.ofText_negation_append (hv : IsPlain v) (hgap : ∀ c ∈ gap, Text.isBlank c = true)
    (r : Option Relation) : ofText ('!' :: (symbol r ++ (gap ++ v))) = ⟨true, r, v⟩ := by
  have hlast : (symbol r ++ (gap ++ v)).trimEnd = symbol r ++ (gap ++ v) := by
    rw [← List.append_assoc]
    exact hv.framed.trimEnd_append _
  rw [ofText_negation, hlast, hv.splitRelation_append hgap, hv.trim_append hgap]

/-- A spelling is read as what it spells. -/
theorem Spells.ofText_eq (h : Spells p op) (hv : IsPlain op.value) : ofText p = op := by
  cases h with
  | @intro lead gap trail hlead hgap htrail htext =>
      have htrim : p.trim = (mark op.negated ++ (symbol op.relation ++ (gap ++ op.value))).trim := by
        rw [htext, Text.trim_append_right htrail, Text.trim_append_left hlead, List.append_assoc,
          List.append_assoc]
      rw [ofText_of_trim_eq htrim]
      obtain ⟨negated, relation, v⟩ := op
      cases negated with
      | true => exact hv.ofText_negation_append hgap relation
      | false => exact hv.ofText_append hgap relation

end MediaNaming.Comparison
