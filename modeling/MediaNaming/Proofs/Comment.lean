import MediaNaming.Proofs.Text
import MediaNaming.Script.Basic

/-!
Lines and their comments. A clear text holds no line feed, starts no comment and leaves no quote
open, so that whatever stands after it is read as if it stood alone. A carriage return at the end
of a line does not count, whether it belongs to the end of the line or to the line.
-/

namespace MediaNaming

theorem stripCommentFrom_cons {c : Char} {rest : Text} {quoted : Bool} (hquote : c ≠ '\'')
    (hslash : c = '/' → rest.head? ≠ some '/') :
    stripCommentFrom quoted (c :: rest) = c :: stripCommentFrom quoted rest := by
  rw [stripCommentFrom]
  · exact hquote
  · intro u hc hu
    exact hslash hc (by rw [hu, List.head?_cons])

/-- Inside quotes no comment starts. -/
theorem stripCommentFrom_true_cons {c : Char} (hquote : c ≠ '\'') (rest : Text) :
    stripCommentFrom true (c :: rest) = c :: stripCommentFrom true rest := by
  by_cases hslash : c = '/' → rest.head? ≠ some '/'
  · exact stripCommentFrom_cons hquote hslash
  · simp only [Classical.not_imp, Decidable.not_not] at hslash
    obtain ⟨rfl, hrest⟩ := hslash
    obtain ⟨u, rfl⟩ := List.head?_eq_some_iff.mp hrest
    rw [stripCommentFrom, if_pos rfl]

theorem stripCommentFrom_true_append {t : Text} (h : '\'' ∉ t) (rest : Text) :
    stripCommentFrom true (t ++ '\'' :: rest) = t ++ '\'' :: stripCommentFrom false rest := by
  induction t with
  | nil => rfl
  | cons c t ih =>
      rw [List.mem_cons, not_or] at h
      rw [List.cons_append, stripCommentFrom_true_cons (Ne.symm h.1), ih h.2, List.cons_append]

theorem stripCommentFrom_append {s t : Text} (hquote : '\'' ∉ s)
    (hslashes : ¬ ['/', '/'] <:+: s) (ht : t.head? ≠ some '/') :
    stripCommentFrom false (s ++ t) = s ++ stripCommentFrom false t := by
  induction s with
  | nil => rfl
  | cons c s ih =>
      rw [List.mem_cons, not_or] at hquote
      have hinfix : ¬ ['/', '/'] <:+: s := fun h =>
        hslashes (h.trans (List.suffix_cons c s).isInfix)
      rw [List.cons_append, stripCommentFrom_cons (Ne.symm hquote.1), ih hquote.2 hinfix,
        List.cons_append]
      rintro rfl hhead
      cases s with
      | nil => exact ht hhead
      | cons d s =>
          rw [List.cons_append, List.head?_cons, Option.some.injEq] at hhead
          subst hhead
          exact hslashes ⟨[], s, rfl⟩

/-- A text without line feed, comment and open quote. -/
structure IsClear (t : Text) : Prop where
  no_lineFeed : '\n' ∉ t
  strip : ∀ rest, stripCommentFrom false (t ++ rest) = t ++ stripCommentFrom false rest

namespace IsClear

variable {s t : Text} {c : Char}

theorem nil : IsClear [] where
  no_lineFeed := List.not_mem_nil
  strip _ := rfl

theorem append (hs : IsClear s) (ht : IsClear t) : IsClear (s ++ t) where
  no_lineFeed := by
    rw [List.mem_append, not_or]
    exact ⟨hs.no_lineFeed, ht.no_lineFeed⟩
  strip rest := by
    rw [List.append_assoc, hs.strip, ht.strip, List.append_assoc]

theorem stripComment_eq (h : IsClear t) : stripComment t = t := by
  have hstrip := h.strip []
  rwa [List.append_nil, stripCommentFrom, List.append_nil] at hstrip

theorem cons (hc : c ∉ ['\n', '\'', '/']) (h : IsClear t) : IsClear (c :: t) where
  no_lineFeed := by
    rw [List.mem_cons, not_or]
    exact ⟨fun hfeed => hc (by simp [← hfeed]), h.no_lineFeed⟩
  strip rest := by
    rw [List.cons_append, stripCommentFrom_cons, h.strip, List.cons_append]
    · rintro rfl
      exact hc (by decide)
    · rintro rfl
      exact absurd (by decide) hc

theorem of_no_slash (h : ∀ c ∈ t, c ∉ ['\n', '\'', '/']) : IsClear t := by
  induction t with
  | nil => exact .nil
  | cons c t ih =>
      rw [List.forall_mem_cons] at h
      exact .cons h.1 (ih h.2)

/-- Slashes start no comment where no two of them stand together. -/
theorem append_of_not_slashes (hfeed : '\n' ∉ s) (hquote : '\'' ∉ s)
    (hslashes : ¬ ['/', '/'] <:+: s) (ht : IsClear t) (hhead : ∃ c ∈ t.head?, c ≠ '/') :
    IsClear (s ++ t) where
  no_lineFeed := by
    rw [List.mem_append, not_or]
    exact ⟨hfeed, ht.no_lineFeed⟩
  strip rest := by
    obtain ⟨c, hc, hne⟩ := hhead
    obtain ⟨t, rfl⟩ := List.head?_eq_some_iff.mp hc
    rw [List.append_assoc, stripCommentFrom_append hquote hslashes (by simpa using hne), ht.strip,
      List.append_assoc]

theorem quoted (hfeed : '\n' ∉ t) (hquote : '\'' ∉ t) : IsClear ('\'' :: t ++ ['\'']) where
  no_lineFeed := by simp [hfeed]
  strip rest := by
    rw [List.append_assoc, List.cons_append, stripCommentFrom, Bool.not_false,
      List.singleton_append, stripCommentFrom_true_append hquote]
    simp

end IsClear

/-! ### Line ends -/

theorem stripCommentFrom_append_return (quoted : Bool) (t : Text) :
    stripCommentFrom quoted (t ++ ['\r']) = stripCommentFrom quoted t ++ ['\r'] ∨
      stripCommentFrom quoted (t ++ ['\r']) = stripCommentFrom quoted t := by
  fun_induction stripCommentFrom quoted t with
  | case1 quoted => exact .inl rfl
  | case2 quoted rest ih =>
      rw [List.cons_append, stripCommentFrom]
      exact ih.imp (congrArg _) (congrArg _)
  | case3 rest ih =>
      rw [List.cons_append, stripCommentFrom_true_cons (by decide)]
      exact ih.imp (congrArg _) (congrArg _)
  | case4 quoted rest hq =>
      rw [List.cons_append, List.cons_append, stripCommentFrom, if_neg hq]
      exact .inr rfl
  | case5 quoted c rest hquote hslash ih =>
      rw [List.cons_append, stripCommentFrom_cons hquote]
      · exact ih.imp (congrArg _) (congrArg _)
      · intro hc hhead
        cases rest with
        | nil => cases hhead
        | cons d rest =>
            rw [List.cons_append, List.head?_cons, Option.some.injEq] at hhead
            exact hslash rest hc (by rw [hhead])

/-- A carriage return at the end of a line changes nothing. -/
theorem Line.ofText_append_return (t : Text) : Line.ofText (t ++ ['\r']) = Line.ofText t := by
  have htrim : (stripComment (t ++ ['\r'])).trim = (stripComment t).trim := by
    rcases stripCommentFrom_append_return false t with h | h
    · rw [stripComment, h, Text.trim_append_right (List.forall_mem_singleton.mpr rfl), stripComment]
    · rw [stripComment, h, stripComment]
  rw [Line.ofText, htrim, Line.ofText]

theorem Line.ofText_dropReturn (t : Text) : Line.ofText t.dropReturn = Line.ofText t := by
  rw [Text.dropReturn]
  split
  · next h =>
    obtain ⟨u, rfl⟩ := List.getLast?_eq_some_iff.mp h
    rw [List.dropLast_concat, Line.ofText_append_return]
  · rfl

/-- A line reads the same under either line end. -/
theorem map_ofText_lines_append {line e : Text} (hline : '\n' ∉ line)
    (he : e = ['\n'] ∨ e = ['\r', '\n']) (rest : Text) :
    (Text.lines (line ++ e ++ rest)).map Line.ofText =
      Line.ofText line :: (Text.lines rest).map Line.ofText := by
  rcases he with rfl | rfl
  · rw [List.append_assoc, List.singleton_append, Text.lines_append_lineFeed hline, List.map_cons,
      Line.ofText_dropReturn]
  · have hreturn : '\n' ∉ line ++ ['\r'] := by
      simp [hline]
    have htext : line ++ ['\r', '\n'] ++ rest = line ++ ['\r'] ++ '\n' :: rest := by
      simp
    rw [htext, Text.lines_append_lineFeed hreturn, List.map_cons, Text.dropReturn_append_return]

end MediaNaming
