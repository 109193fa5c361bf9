import MediaNaming.Proofs.LineByLine
import Mathlib.Algebra.Group.Nat.Even
import Mathlib.Order.Bounds.Basic
import Mathlib.Order.Nat

/-!
Where a comment starts: at the first two slashes in front of which every quote is closed by another
one. Slashes inside quotes, and two slashes with a quote between them, start none. What is put
behind a line as a comment is therefore not seen by the reader of a script, as long as the line
leaves no quote open.
-/

namespace MediaNaming

/-- Two slashes stand at that place of a line, and the quotes in front of them close each other. -/
def StartsComment (t : Text) (i : Nat) : Prop :=
  t[i]? = some '/' ∧ t[i + 1]? = some '/' ∧ Even ((t.take i).count '\'')

instance (t : Text) (i : Nat) : Decidable (StartsComment t i) :=
  inferInstanceAs (Decidable (_ ∧ _ ∧ _))

/-- The same in a text that begins inside quotes where `quoted` holds. -/
def StartsCommentFrom (quoted : Bool) (t : Text) (i : Nat) : Prop :=
  t[i]? = some '/' ∧ t[i + 1]? = some '/' ∧ (Even ((t.take i).count '\'') ↔ quoted = false)

/-- What is left of a text that is cut at its first comment. -/
inductive CutFrom (quoted : Bool) (t : Text) : Text → Prop
  | cut {i : Nat} (h : IsLeast {i | StartsCommentFrom quoted t i} i) : CutFrom quoted t (t.take i)
  | whole (h : ∀ i, ¬StartsCommentFrom quoted t i) : CutFrom quoted t t

theorem startsCommentFrom_false_iff {line : Text} {i : Nat} :
    StartsCommentFrom false line i ↔ StartsComment line i := by
  simp [StartsCommentFrom, StartsComment]

/-! ### One character at a time -/

section Step

variable {quoted : Bool} {c : Char} {t : Text} {i : Nat}

theorem startsCommentFrom_zero :
    StartsCommentFrom quoted (c :: t) 0 ↔ c = '/' ∧ t.head? = some '/' ∧ quoted = false := by
  simp [StartsCommentFrom, List.head?_eq_getElem?]

theorem startsCommentFrom_quote_cons :
    StartsCommentFrom quoted ('\'' :: t) (i + 1) ↔ StartsCommentFrom (!quoted) t i := by
  simp only [StartsCommentFrom, List.getElem?_cons_succ, List.take_succ_cons, List.count_cons_self,
    Nat.even_add_one]
  cases quoted <;> simp

theorem startsCommentFrom_cons (hc : c ≠ '\'') :
    StartsCommentFrom quoted (c :: t) (i + 1) ↔ StartsCommentFrom quoted t i := by
  simp only [StartsCommentFrom, List.getElem?_cons_succ, List.take_succ_cons,
    List.count_cons_of_ne hc]

/-- A character at which no comment starts is kept, and the first comment is one place further. -/
theorem CutFrom.cons {quoted' : Bool} {s : Text} (hzero : ¬StartsCommentFrom quoted (c :: t) 0)
    (hsucc : ∀ i, StartsCommentFrom quoted (c :: t) (i + 1) ↔ StartsCommentFrom quoted' t i)
    (h : CutFrom quoted' t s) : CutFrom quoted (c :: t) (c :: s) := by
  cases h with
  | @cut i h =>
      refine .cut (i := i + 1) ⟨(hsucc i).mpr h.1, fun j hj => ?_⟩
      cases j with
      | zero => exact absurd hj hzero
      | succ j => exact Nat.succ_le_succ (h.2 ((hsucc j).mp hj))
  | whole h =>
      refine .whole fun i hi => ?_
      cases i with
      | zero => exact hzero hi
      | succ i => exact h i ((hsucc i).mp hi)

end Step

theorem cutFrom_stripCommentFrom (quoted : Bool) (t : Text) :
    CutFrom quoted t (stripCommentFrom quoted t) := by
  fun_induction stripCommentFrom quoted t with
  | case1 quoted => exact .whole fun i hi => absurd hi.1 (by simp)
  | case2 quoted rest ih =>
      refine ih.cons (fun h => ?_) fun i => startsCommentFrom_quote_cons
      exact absurd (startsCommentFrom_zero.mp h).1 (by decide)
  | case3 rest ih =>
      refine ih.cons (fun h => ?_) fun i => startsCommentFrom_cons (by decide)
      exact absurd (startsCommentFrom_zero.mp h).2.2 (by decide)
  | case4 quoted rest hq =>
      refine .cut (i := 0) ⟨startsCommentFrom_zero.mpr ⟨rfl, rfl, ?_⟩, fun j _ => Nat.zero_le j⟩
      exact Bool.eq_false_iff.mpr hq
  | case5 quoted c rest hquote hslash ih =>
      refine ih.cons (fun h => ?_) fun i => startsCommentFrom_cons hquote
      obtain ⟨hc, hhead, -⟩ := startsCommentFrom_zero.mp h
      obtain ⟨u, rfl⟩ := List.head?_eq_some_iff.mp hhead
      exact hslash u hc rfl

theorem CutFrom.eq_take {quoted : Bool} {t s : Text} {i : Nat} (h : CutFrom quoted t s)
    (hi : IsLeast {i | StartsCommentFrom quoted t i} i) : s = t.take i := by
  cases h with
  | cut h => rw [h.unique hi]
  | whole h => exact absurd hi.1 (h i)

theorem CutFrom.eq_self {quoted : Bool} {t s : Text} (h : CutFrom quoted t s)
    (hnone : ∀ i, ¬StartsCommentFrom quoted t i) : s = t := by
  cases h with
  | cut h => exact absurd h.1 (hnone _)
  | whole h => rfl

/-! ### Lines -/

variable {line : Text} {i : Nat}

theorem stripComment_of_isLeast (h : IsLeast {i | StartsComment line i} i) :
    stripComment line = line.take i := by
  simp only [← startsCommentFrom_false_iff] at h
  exact (cutFrom_stripCommentFrom false line).eq_take h

theorem stripComment_of_forall_not (h : ∀ i, ¬StartsComment line i) :
    stripComment line = line := by
  simp only [← startsCommentFrom_false_iff] at h
  exact (cutFrom_stripCommentFrom false line).eq_self h

theorem StartsComment.lt_length (h : StartsComment line i) : i + 1 < line.length :=
  (List.getElem?_eq_some_iff.mp h.2.1).1

/-- Whether a comment starts does not depend on what follows its two slashes. -/
theorem startsComment_append_iff (h : i + 1 < line.length) (rest : Text) :
    StartsComment (line ++ rest) i ↔ StartsComment line i := by
  rw [StartsComment, StartsComment, List.getElem?_append_left (Nat.lt_of_succ_lt h),
    List.getElem?_append_left h, List.take_append_of_le_length (by omega)]

theorem isLeast_startsComment_append (h : IsLeast {i | StartsComment line i} i) (rest : Text) :
    IsLeast {i | StartsComment (line ++ rest) i} i := by
  have hi := h.1.lt_length
  refine ⟨(startsComment_append_iff hi rest).mpr h.1, fun j hj => Nat.le_of_not_lt fun hlt => ?_⟩
  have hj : StartsComment line j := (startsComment_append_iff (by omega) rest).mp hj
  exact absurd (h.2 hj) (Nat.not_le_of_lt hlt)

/-- Behind a line that starts no comment and leaves no quote open, two slashes start one. -/
theorem isLeast_startsComment_comment (h : ∀ i, ¬StartsComment line i)
    (hquotes : Even (line.count '\'')) (comment : Text) :
    IsLeast {i | StartsComment (line ++ ' ' :: '/' :: '/' :: comment) i} (line.length + 1) := by
  refine ⟨⟨?_, ?_, ?_⟩, fun j hj => Nat.le_of_not_lt fun hlt => ?_⟩
  · rw [List.getElem?_append_right (by omega), Nat.add_sub_cancel_left]
    rfl
  · rw [Nat.add_assoc, List.getElem?_append_right (by omega), Nat.add_sub_cancel_left]
    rfl
  · rw [List.take_length_add_append, List.count_append]
    exact hquotes
  · -- Up to here no place has two slashes that are not in the line already.
    rcases Nat.lt_trichotomy (j + 1) line.length with hj' | hj' | hj'
    · exact h j ((startsComment_append_iff hj' _).mp hj)
    · have hblank := hj.2.1
      simp [hj'] at hblank
    · have hblank := hj.1
      simp [show j = line.length by omega] at hblank

theorem Line.content_append_comment (hquotes : Even (line.count '\'')) (comment : Text) :
    Line.content (line ++ ' ' :: '/' :: '/' :: comment) = Line.content line := by
  rw [Line.content, Line.content]
  by_cases h : ∃ i, StartsComment line i
  · have hleast := Nat.isLeast_find h
    have hlen := hleast.1.lt_length
    rw [stripComment_of_isLeast hleast,
      stripComment_of_isLeast (isLeast_startsComment_append hleast _),
      List.take_append_of_le_length (by omega)]
  · rw [not_exists] at h
    have htake : (line ++ ' ' :: '/' :: '/' :: comment).take (line.length + 1) = line ++ [' '] := by
      rw [List.take_length_add_append]
      rfl
    rw [stripComment_of_forall_not h,
      stripComment_of_isLeast (isLeast_startsComment_comment h hquotes comment), htake,
      Text.trim_append_right (List.forall_mem_singleton.mpr rfl)]

theorem Line.ofText_congr {raw raw' : Text} (h : Line.content raw = Line.content raw') :
    Line.ofText raw = Line.ofText raw' := by
  rw [Line.content, Line.content] at h
  rw [Line.ofText, Line.ofText, h]

theorem Script.ofText_single {raw : Text} (h : '\n' ∉ raw) :
    Script.ofText raw = .ofLines [Line.ofText raw] := by
  rw [Script.ofText_eq_ofLines, Text.splitOn_single h, List.map_singleton]

/-- The law of comments. A line is cut at the first place where two slashes stand outside quotes,
and kept whole where there is none; so a comment behind a line that leaves no quote open does not
change what a script of that line holds. -/
theorem stripComment_firstUnquoted (line : Text) :
    (∀ i, IsLeast {i | StartsComment line i} i → stripComment line = line.take i) ∧
      ((∀ i, ¬StartsComment line i) → stripComment line = line) ∧
      ('\n' ∉ line → Even (line.count '\'') → ∀ comment : Text, '\n' ∉ comment →
        Script.ofText (line ++ " //".toList ++ comment) = Script.ofText line) := by
  refine ⟨fun i h => stripComment_of_isLeast h, fun h => stripComment_of_forall_not h,
    fun hline hquotes comment hcomment => ?_⟩
  have htext : line ++ " //".toList ++ comment = line ++ ' ' :: '/' :: '/' :: comment := by simp
  have hsingle : '\n' ∉ line ++ ' ' :: '/' :: '/' :: comment := by simp [hline, hcomment]
  rw [htext, Script.ofText_single hsingle, Script.ofText_single hline,
    Line.ofText_congr (Line.content_append_comment hquotes comment)]

/-- Slashes inside quotes, slashes with a quote between them, and three slashes at last. -/
def slashedLine : Text := "DO REPLACE '//' '_' /'/'/ /// old".toList

theorem isLeast_slashedLine : IsLeast {i | StartsComment slashedLine i} 26 := by decide

theorem stripComment_firstUnquoted_slashedLine :
    IsLeast {i | StartsComment slashedLine i} 26 ∧
      stripComment slashedLine = "DO REPLACE '//' '_' /'/'/ ".toList ∧
      '\n' ∉ slashedLine ∧ Even (slashedLine.count '\'') ∧ '\n' ∉ "it's here".toList ∧
      Script.ofText (slashedLine ++ " //".toList ++ "it's here".toList) =
        Script.ofText slashedLine ∧
      (∀ i, ¬StartsComment "a'//'".toList i) ∧ stripComment "a'//'".toList = "a'//'".toList := by
  have hline : '\n' ∉ slashedLine := by decide
  have hquotes : Even (slashedLine.count '\'') := by decide
  have hcomment : '\n' ∉ "it's here".toList := by decide
  have hplaces : ∀ i < 5, ¬StartsComment "a'//'".toList i := by decide
  have hnone : ∀ i, ¬StartsComment "a'//'".toList i := fun i hi =>
    hplaces i (Nat.lt_of_succ_lt hi.lt_length) hi
  obtain ⟨hcut, -, hscript⟩ := stripComment_firstUnquoted slashedLine
  exact ⟨isLeast_slashedLine, hcut 26 isLeast_slashedLine, hline, hquotes, hcomment,
    hscript hline hquotes _ hcomment, hnone, (stripComment_firstUnquoted _).2.1 hnone⟩

end MediaNaming
