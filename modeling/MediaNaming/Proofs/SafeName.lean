import MediaNaming.Proofs.Text
import MediaNaming.SafeName

/-!
What the making of a safe name establishes. The four passes are followed one by one: each brings
one property about and keeps those that the passes before it brought, because none of the
characters that are put in is a dot, a blank or forbidden.
-/

namespace MediaNaming

namespace SafeName

def threeDots : Text := ['.', '.', '.']

/-! ### Look-alikes -/

theorem lookAlike_not_forbidden (c : Char) : lookAlike c ∉ forbidden := by
  unfold lookAlike
  split <;> simp_all [forbidden]

theorem isBlank_lookAlike (c : Char) : Text.isBlank (lookAlike c) = Text.isBlank c := by
  unfold lookAlike
  split <;> rfl

/-- No ASCII character is a look-alike. -/
theorem eq_of_lookAlike_eq {c d : Char} (hd : d.toNat < 128) (h : lookAlike c = d) : c = d := by
  subst h
  unfold lookAlike at hd ⊢
  split at hd
  all_goals first | rfl | exact absurd hd (by decide)

/-! ### Dots -/

/-- Three dots that would form across a replacement would have been replaced themselves. -/
theorem not_threeDots_infix_replaceAll (t : Text) :
    ¬threeDots <:+: Text.replaceAll '.' ['.', '.'] [ellipsis] t := by
  fun_induction Text.replaceAll '.' ['.', '.'] [ellipsis] t with
  | case1 => simp [threeDots]
  | case2 c rest hc ih =>
      rw [List.singleton_append, List.infix_cons_iff]
      rintro (h | h)
      · exact absurd (List.cons_prefix_cons.mp h).1 (by decide)
      · exact ih h
  | case3 c rest hc ih =>
      rw [List.infix_cons_iff]
      rintro (h | h)
      · obtain ⟨rfl, hrest⟩ := List.cons_prefix_cons.mp h
        have hdots := Text.prefix_of_prefix_replaceAll (by decide) hrest
        exact hc ⟨rfl, List.isPrefixOf_iff_prefix.mpr hdots⟩
      · exact ih h

theorem not_threeDots_infix_guardFirst {t : Text} (h : ¬threeDots <:+: t) :
    ¬threeDots <:+: guardFirst t := by
  unfold guardFirst
  split
  · next rest =>
    rw [List.infix_cons_iff]
    rintro (hdots | hdots)
    · exact absurd (List.cons_prefix_cons.mp hdots).1 (by decide)
    · exact h (hdots.trans (List.suffix_cons _ _).isInfix)
  · exact h

theorem not_threeDots_infix_guardLast {t : Text} (h : ¬threeDots <:+: t) :
    ¬threeDots <:+: guardLast t := by
  unfold guardLast
  split
  · rw [List.infix_concat_iff]
    rintro (hdots | hdots)
    · have hrev := List.reverse_prefix.mpr hdots
      rw [List.reverse_append, List.reverse_singleton, List.singleton_append] at hrev
      exact absurd (List.cons_prefix_cons.mp hrev).1 (by decide)
    · exact h (hdots.trans (List.dropLast_prefix _).isInfix)
  · exact h

/-! ### The two ends -/

theorem mem_of_mem_guardFirst {t : Text} {c : Char} (h : c ∈ guardFirst t) :
    c ∈ t ∨ c = leaderDot := by
  unfold guardFirst at h
  split at h
  · rcases List.mem_cons.mp h with rfl | h
    · exact .inr rfl
    · exact .inl (List.mem_cons_of_mem _ h)
  · exact .inl h

theorem mem_of_mem_guardLast {t : Text} {c : Char} (h : c ∈ guardLast t) :
    c ∈ t ∨ c = leaderDot := by
  unfold guardLast at h
  split at h
  · rcases List.mem_append.mp h with h | h
    · exact .inl ((List.dropLast_sublist _).mem h)
    · exact .inr (List.mem_singleton.mp h)
  · exact .inl h

theorem head?_guardFirst_ne_dot (t : Text) : (guardFirst t).head? ≠ some '.' := by
  unfold guardFirst
  split
  · simp [leaderDot]
  · next h =>
    intro hdot
    obtain ⟨rest, rfl⟩ := List.head?_eq_some_iff.mp hdot
    exact h rest rfl

theorem guardFirst_of_head?_ne_dot {t : Text} (h : t.head? ≠ some '.') : guardFirst t = t := by
  unfold guardFirst
  split
  · exact absurd rfl h
  · rfl

theorem guardLast_of_getLast?_ne_dot {t : Text} (h : t.getLast? ≠ some '.') : guardLast t = t :=
  if_neg h

theorem head?_guardFirst {t : Text} : ∀ c ∈ (guardFirst t).head?, c ∈ t.head? ∨ c = leaderDot := by
  intro c hc
  unfold guardFirst at hc
  split at hc
  · exact .inr (by simpa using hc.symm)
  · exact .inl hc

theorem head?_guardLast {t : Text} : ∀ c ∈ (guardLast t).head?, c ∈ t.head? ∨ c = leaderDot := by
  intro c hc
  unfold guardLast at hc
  split at hc
  · cases t with
    | nil => simp_all
    | cons x rest =>
        cases rest with
        | nil => exact .inr (by simpa using hc.symm)
        | cons y rest => exact .inl (by simpa using hc)
  · exact .inl hc

theorem getLast?_guardLast_ne_dot (t : Text) : (guardLast t).getLast? ≠ some '.' := by
  unfold guardLast
  split
  · simp [leaderDot]
  · next h => exact h

/-! ### All passes together -/

/-- The text before its ends are guarded. -/
def inner (t : Text) : Text := Text.replaceAll '.' ['.', '.'] [ellipsis] (t.trimStart.map lookAlike)

/-- Every character of a safe name is a look-alike of one of the text or stands for dots. -/
theorem mem_of_mem_ofText {t : Text} {c : Char} (h : c ∈ ofText t) :
    (∃ x ∈ t, c = lookAlike x) ∨ c = ellipsis ∨ c = leaderDot := by
  rcases mem_of_mem_guardLast h with h | h
  · rcases mem_of_mem_guardFirst h with h | h
    · rcases Text.mem_of_mem_replaceAll h with h | h
      · obtain ⟨x, hx, rfl⟩ := List.mem_map.mp h
        exact .inl ⟨x, (List.dropWhile_sublist _).mem hx, rfl⟩
      · exact .inr (.inl (List.mem_singleton.mp h))
    · exact .inr (.inr h)
  · exact .inr (.inr h)

theorem isBlank_head?_inner (t : Text) : ∀ c ∈ (inner t).head?, Text.isBlank c = false := by
  intro c hc
  rw [inner] at hc
  cases ht : t.trimStart with
  | nil => simp [ht] at hc
  | cons x rest =>
      have hx : Text.isBlank (lookAlike x) = false := by
        rw [isBlank_lookAlike]
        exact Text.isBlank_head?_trimStart t x (by simp [ht])
      rw [ht, List.map_cons, Text.replaceAll] at hc
      split at hc
      · have hc : ellipsis = c := by simpa using hc
        rw [← hc]
        rfl
      · have hc : lookAlike x = c := by simpa using hc
        rw [← hc]
        exact hx

/-- The name made of any text is safe. -/
theorem isSafe_ofText (t : Text) : IsSafe (ofText t) where
  not_forbidden := by
    intro c hc
    rcases mem_of_mem_ofText hc with ⟨x, -, rfl⟩ | rfl | rfl
    · exact lookAlike_not_forbidden x
    · decide
    · decide
  no_three_dots :=
    not_threeDots_infix_guardLast
      (not_threeDots_infix_guardFirst (not_threeDots_infix_replaceAll _))
  head_not_blank := by
    intro c hc
    rcases head?_guardLast c hc with hc | rfl
    · rcases head?_guardFirst c hc with hc | rfl
      · exact isBlank_head?_inner t c hc
      · rfl
    · rfl
  head_ne_dot := by
    intro hdot
    rcases head?_guardLast '.' hdot with hdot | hdot
    · exact head?_guardFirst_ne_dot _ hdot
    · exact absurd hdot (by decide)
  last_ne_dot := getLast?_guardLast_ne_dot _

/-- No ASCII character is put in. -/
theorem not_mem_ofText {t : Text} {c : Char} (hc : c.toNat < 128) (h : c ∉ t) : c ∉ ofText t := by
  intro hmem
  rcases mem_of_mem_ofText hmem with ⟨x, hx, heq⟩ | rfl | rfl
  · exact h (eq_of_lookAlike_eq hc heq.symm ▸ hx)
  · exact absurd hc (by decide)
  · exact absurd hc (by decide)

/-- Ends that are neither white space nor dots and have no look-alike stay as they are. -/
theorem ends_ofText {t : Text} {c d : Char} (hhead : t.head? = some c) (hlast : t.getLast? = some d)
    (hblank : Text.isBlank c = false) (hc : lookAlike c = c ∧ c ≠ '.')
    (hd : lookAlike d = d ∧ d ≠ '.') :
    (ofText t).head? = some c ∧ (ofText t).getLast? = some d := by
  have hstart : t.trimStart = t := by
    refine Text.trimStart_of_head? fun x hx => ?_
    rwa [Option.mem_unique hx hhead]
  have hinnerHead : (inner t).head? = some c := by
    rw [inner, hstart]
    refine Text.head?_replaceAll (by simp [hc.2]) _ ?_
    rw [List.head?_map, hhead, Option.map_some, hc.1]
  have hinnerLast : (inner t).getLast? = some d := by
    rw [inner, hstart]
    refine Text.getLast?_replaceAll (by simp [hd.2]) _ ?_
    rw [List.getLast?_map, hlast, Option.map_some, hd.1]
  have hfirst : guardFirst (inner t) = inner t :=
    guardFirst_of_head?_ne_dot fun hdot => hc.2 (Option.some.inj (hinnerHead.symm.trans hdot))
  have hguard : guardLast (inner t) = inner t :=
    guardLast_of_getLast?_ne_dot fun hdot => hd.2 (Option.some.inj (hinnerLast.symm.trans hdot))
  rw [show ofText t = guardLast (guardFirst (inner t)) from rfl, hfirst, hguard]
  exact ⟨hinnerHead, hinnerLast⟩

end SafeName

end MediaNaming
