import MediaNaming.Text.Basic

/-!
Replacing every occurrence of one text by another: occurrences are taken from the left and do not
overlap, and what was put in is not searched again.
-/

namespace MediaNaming.Text

/-- Every occurrence of the text `o :: old` gives way to `new`. -/
def replaceAll (o : Char) (old new : Text) : Text → Text
  | [] => []
  | c :: rest =>
    if c = o ∧ old.isPrefixOf rest then
      new ++ replaceAll o old new (rest.drop old.length)
    else
      c :: replaceAll o old new rest
termination_by t => t.length
decreasing_by all_goals simp only [List.length_cons, List.length_drop]; omega

@[simp] theorem replaceAll_nil (o : Char) (old new : Text) : replaceAll o old new [] = [] := by
  simp [replaceAll]

/-- A one-character pattern is replaced character by character. -/
theorem replaceAll_singleton (o : Char) (new t : Text) :
    replaceAll o [] new t = t.flatMap fun c => if c = o then new else [c] := by
  induction t with
  | nil => simp
  | cons c rest ih =>
    rw [replaceAll]
    by_cases h : c = o <;> simp [h, ih]

end MediaNaming.Text
