import MediaNaming.Proofs.SafeName

/-!
Which names are made of texts, and which texts are made into one name. A name that is safe already
is left as it stands, so the safe names are all that is ever made. Every character that a pass puts
in can be read back as what it stands for, whether the pass was about single characters, about
three dots or about an end. So a text without such characters can be restored from its safe name,
up to the white space in front of it, and two of them never share one.
-/

namespace MediaNaming.SafeName

/-! ### Safe names stay -/

theorem lookAlike_of_not_forbidden {c : Char} (h : c ∉ forbidden) : lookAlike c = c := by
  unfold lookAlike
  split
  case h_10 => rfl
  all_goals exact absurd (by decide) h

theorem ofText_of_isSafe {t : Text} (h : IsSafe t) : ofText t = t := by
  have hmap : t.map lookAlike = t := by
    rw [List.map_congr_left fun c hc => lookAlike_of_not_forbidden (h.not_forbidden c hc),
      List.map_id']
  have hinner : Text.replaceAll '.' ['.', '.'] [ellipsis] (t.trimStart.map lookAlike) = t := by
    rw [Text.trimStart_of_head? h.head_not_blank, hmap,
      Text.replaceAll_of_not_infix h.no_three_dots]
  rw [ofText, hinner, guardFirst_of_head?_ne_dot h.head_ne_dot,
    guardLast_of_getLast?_ne_dot h.last_ne_dot]

/-- The safe names are the names that stay as they are, and they are all the names that are made. -/
theorem isSafe_iff_ofText_eq (t : Text) :
    IsSafe (ofText t) ∧ (IsSafe t ↔ ofText t = t) ∧ (IsSafe t ↔ ∃ s, ofText s = t) ∧
      ofText (ofText t) = ofText t := by
  refine ⟨isSafe_ofText t, ⟨ofText_of_isSafe, fun h => ?_⟩, ⟨fun h => ?_, ?_⟩, ?_⟩
  · rw [← h]
    exact isSafe_ofText t
  · exact ⟨t, ofText_of_isSafe h⟩
  · rintro ⟨s, rfl⟩
    exact isSafe_ofText s
  · exact ofText_of_isSafe (isSafe_ofText t)

/-! ### Texts are restored -/

/-- The characters that the making of a name puts in. -/
def standIns : Text :=
  ['\u2605', '\u00A6', '\u29F9', '\u2044', '\u0589', '\u2033', '\u203A', '\u2039', '\uFF1F',
    '\u2026', '\u2024']

example : standIns = forbidden.map lookAlike ++ [ellipsis, leaderDot] := rfl

/-- What a character of a safe name stands for. -/
def restoreChar : Char → Text
  | '★' => ['*']
  | '¦' => ['|']
  | '⧹' => ['\\']
  | '⁄' => ['/']
  | '։' => [':']
  | '″' => ['"']
  | '›' => ['>']
  | '‹' => ['<']
  | '？' => ['?']
  | '…' => threeDots
  | '․' => ['.']
  | c => [c]

/-- The text that a safe name was made of, but for the white space in front of it. -/
def restore (t : Text) : Text := t.flatMap restoreChar

theorem restoreChar_of_not_standIn {c : Char} (h : c ∉ standIns) : restoreChar c = [c] := by
  unfold restoreChar
  split
  case h_12 => rfl
  all_goals exact absurd (by decide) h

theorem restoreChar_lookAlike {c : Char} (h : c ∉ standIns) : restoreChar (lookAlike c) = [c] := by
  unfold lookAlike
  split
  case h_10 => exact restoreChar_of_not_standIn h
  all_goals rfl

theorem restore_map_lookAlike {t : Text} (h : ∀ c ∈ t, c ∉ standIns) :
    restore (t.map lookAlike) = t := by
  induction t with
  | nil => rfl
  | cons c rest ih =>
      rw [List.forall_mem_cons] at h
      rw [List.map_cons, restore, List.flatMap_cons, restoreChar_lookAlike h.1, ← restore, ih h.2,
        List.singleton_append]

theorem restore_guardFirst (t : Text) : restore (guardFirst t) = restore t := by
  unfold guardFirst
  split
  · rfl
  · rfl

theorem restore_guardLast (t : Text) : restore (guardLast t) = restore t := by
  unfold guardLast
  split
  · next hdot =>
    obtain ⟨front, rfl⟩ := List.getLast?_eq_some_iff.mp hdot
    rw [List.dropLast_concat, restore, List.flatMap_append, restore, List.flatMap_append]
    rfl
  · rfl

/-- Nothing but the white space in front of a text is lost in its safe name. -/
theorem restore_ofText {t : Text} (h : ∀ c ∈ t, c ∉ standIns) :
    restore (ofText t) = t.trimStart := by
  have hdots : [ellipsis].flatMap restoreChar = threeDots.flatMap restoreChar := rfl
  rw [ofText, restore_guardLast, restore_guardFirst, restore, Text.flatMap_replaceAll hdots]
  exact restore_map_lookAlike fun c hc => h c ((List.dropWhile_sublist _).mem hc)

/-- A text that nothing is cut off from and that holds nothing that could have been put in. -/
structure IsOrdinary (t : Text) : Prop where
  head_not_blank : ∀ c ∈ t.head?, Text.isBlank c = false
  no_standIn : ∀ c ∈ t, c ∉ standIns

instance (t : Text) : Decidable (IsOrdinary t) :=
  decidable_of_iff ((t.head?.all (!Text.isBlank ·)) = true ∧ t.all (· ∉ standIns) = true)
    ⟨fun ⟨hhead, hstand⟩ =>
        ⟨by simpa [Option.all_eq_true] using hhead, by simpa using hstand⟩,
      fun h => ⟨by simpa [Option.all_eq_true] using h.head_not_blank, by simpa using h.no_standIn⟩⟩

/-- Two ordinary texts never share a safe name. -/
theorem ofText_inj_of_isOrdinary {s t : Text} (hs : IsOrdinary s) (ht : IsOrdinary t) :
    ofText s = ofText t ↔ s = t := by
  refine ⟨fun h => ?_, congrArg ofText⟩
  calc
    s = s.trimStart := (Text.trimStart_of_head? hs.head_not_blank).symm
    _ = restore (ofText s) := (restore_ofText hs.no_standIn).symm
    _ = restore (ofText t) := by rw [h]
    _ = t.trimStart := restore_ofText ht.no_standIn
    _ = t := Text.trimStart_of_head? ht.head_not_blank

/-- Both names begin and end with a leader dot; the dots before the last one tell them apart. -/
theorem ofText_inj_of_isOrdinary_dots :
    IsOrdinary ".hack//SIGN....".toList ∧ IsOrdinary ".hack//SIGN.....".toList ∧
      (ofText ".hack//SIGN....".toList = ofText ".hack//SIGN.....".toList ↔
        ".hack//SIGN....".toList = ".hack//SIGN.....".toList) :=
  ⟨by decide, by decide, ofText_inj_of_isOrdinary (by decide) (by decide)⟩

end MediaNaming.SafeName
