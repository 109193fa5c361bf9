import MediaNaming.Proofs.FileName

/-!
Paths that go on behind their last name. Slashes and single dots there name nothing, so the
extension of such a path is that of the name in front of them; but the cut for an extension is
measured from the end of the whole text. It is right exactly where nothing stands behind the last
name.
-/

namespace MediaNaming

namespace FilePath

/-! ### The last segment -/

theorem segments_ne_nil (path : Text) : segments path ≠ [] := by
  cases path with
  | nil => exact List.cons_ne_nil _ _
  | cons c rest =>
      rw [segments]
      split
      · exact List.cons_ne_nil _ _
      · split <;> exact List.cons_ne_nil _ _

/-- A text without slashes behind a slash is one more segment. -/
theorem segments_append_slash (front : Text) {last : Text} (h : '/' ∉ last) :
    segments (front ++ '/' :: last) = segments front ++ [last] := by
  induction front with
  | nil =>
      change [] :: segments last = [[], last]
      rw [segments_of_no_slash h]
  | cons c rest ih =>
      rw [List.cons_append, segments, segments, ih]
      split
      · rfl
      · obtain ⟨s, later, hrest⟩ := List.exists_cons_of_ne_nil (segments_ne_nil rest)
        rw [hrest]
        rfl

/-- Every path is its last segment, alone or behind a slash. -/
theorem exists_last_segment (path : Text) :
    ∃ last, '/' ∉ last ∧ (path = last ∧ segments path = [] ++ [last] ∨
      ∃ front, path = front ++ '/' :: last ∧ segments path = segments front ++ [last]) := by
  cases hsplit : Text.splitAtLast? '/' path with
  | none =>
      have hslash := Text.splitAtLast?_eq_none_iff.mp hsplit
      exact ⟨path, hslash, .inl ⟨rfl, segments_of_no_slash hslash⟩⟩
  | some parts =>
      obtain ⟨front, last⟩ := parts
      obtain ⟨rfl, hslash⟩ := Text.eq_append_of_splitAtLast? hsplit
      exact ⟨last, hslash, .inr ⟨front, rfl, segments_append_slash front hslash⟩⟩

/-- Whether the last segment of a path names something, if only the way up. -/
def endsInName (path : Text) : Bool := (segments path).getLast?.any fun s => !isIdle s

theorem endsInName_of_segments {path last : Text} {before : List Text}
    (h : segments path = before ++ [last]) : endsInName path = !isIdle last := by
  rw [endsInName, h, List.getLast?_concat, Option.any_some]

theorem lastName?_of_segments {path last : Text} {before : List Text}
    (h : segments path = before ++ [last]) :
    lastName? path = if isIdle last then (before.filter (!isIdle ·)).getLast?.filter (· ≠ ['.', '.'])
      else (some last).filter (· ≠ ['.', '.']) := by
  rw [lastName?, h, List.filter_append]
  split
  · next hidle => rw [List.filter_cons_of_neg (by simp [hidle]), List.filter_nil, List.append_nil]
  · next hidle =>
    rw [List.filter_cons_of_pos (by simp [hidle]), List.filter_nil, List.getLast?_concat]

/-- The last name of a path stands at its end, or in front of a slash with an idle segment at the
end of the path. -/
theorem exists_tail {path name : Text} (h : lastName? path = some name) :
    ∃ front tail, path = front ++ name ++ tail ∧ '/' ∉ name ∧
      (endsInName path = true ∧ tail = [] ∨
        endsInName path = false ∧ ∃ between last, tail = between ++ '/' :: last ∧
          isIdle last = true) := by
  -- Each idle segment that is passed over from the end leaves a shorter path.
  induction hlen : path.length using Nat.strongRecOn generalizing path with
  | ind n ih =>
      obtain ⟨last, hslash, hpath⟩ := exists_last_segment path
      cases hidle : isIdle last with
      | false =>
          have hname : ∀ before, segments path = before ++ [last] → last = name := by
            intro before hsegs
            rw [lastName?_of_segments hsegs, if_neg (by simp [hidle])] at h
            exact Option.some.inj (Option.filter_eq_some_iff.mp h).1
          rcases hpath with ⟨rfl, hsegs⟩ | ⟨front, rfl, hsegs⟩
          · cases hname _ hsegs
            have hends := endsInName_of_segments hsegs
            rw [hidle] at hends
            exact ⟨[], [], by simp, hslash, .inl ⟨hends, rfl⟩⟩
          · cases hname _ hsegs
            have hends := endsInName_of_segments hsegs
            rw [hidle] at hends
            exact ⟨front ++ ['/'], [], by simp, hslash, .inl ⟨hends, rfl⟩⟩
      | true =>
          rcases hpath with ⟨rfl, hsegs⟩ | ⟨front, rfl, hsegs⟩
          · rw [lastName?_of_segments hsegs, if_pos hidle] at h
            cases h
          · have hends := endsInName_of_segments hsegs
            rw [hidle] at hends
            have hfront : lastName? front = some name := by
              rwa [lastName?_of_segments hsegs, if_pos hidle] at h
            have hshorter : front.length < n := by
              rw [← hlen, List.length_append, List.length_cons]
              omega
            obtain ⟨before, tail, hparts, hno, -⟩ := ih _ hshorter hfront rfl
            refine ⟨before, tail ++ '/' :: last, ?_, hno, .inr ⟨hends, tail, last, rfl, hidle⟩⟩
            rw [hparts, List.append_assoc, List.append_assoc]

theorem byteSize_le_one_of_isIdle {segment : Text} (h : isIdle segment = true) :
    Text.byteSize segment ≤ 1 := by
  rw [isIdle, Bool.or_eq_true, List.isEmpty_iff, beq_iff_eq] at h
  rcases h with rfl | rfl
  · exact Nat.zero_le 1
  · exact Nat.le_refl 1

/-- The extension of a path is what follows the last dot of its last name. -/
theorem exists_name_of_extension? {path after : Text} (h : extension? path = some after) :
    ∃ stem, lastName? path = some (stem ++ '.' :: after) ∧ '.' ∉ after := by
  obtain ⟨name, hname, hext⟩ := Option.bind_eq_some_iff.mp h
  rw [nameExtension?] at hext
  split at hext
  · next stem after' hsplit =>
    obtain ⟨rfl, hdot⟩ := Text.eq_append_of_splitAtLast? hsplit
    split at hext
    · cases hext
    · cases hext
      exact ⟨stem, hname, hdot⟩
  · cases hext

end FilePath

/-! ### The cut -/

namespace Text

theorem eq_append_of_dropBytes? {n : Nat} {t r : Text} (h : dropBytes? n t = some r) :
    ∃ s, t = s ++ r ∧ byteSize s = n := by
  fun_induction dropBytes? n t with
  | case1 t =>
      cases h
      exact ⟨[], rfl, rfl⟩
  | case2 n => cases h
  | case3 n c rest hc ih =>
      obtain ⟨s, rfl, hs⟩ := ih h
      exact ⟨c :: s, rfl, by rw [byteSize_cons, hs]; omega⟩
  | case4 n c rest hc => cases h

/-- Of two endings of a text the one with at least as many bytes includes the other. -/
theorem suffix_of_byteSize_le {s t u : Text} (hs : s <:+ u) (ht : t <:+ u)
    (h : byteSize s ≤ byteSize t) : s <:+ t := by
  rcases List.suffix_or_suffix_of_suffix hs ht with hst | ⟨more, rfl⟩
  · exact hst
  · cases more with
    | nil => exact List.suffix_rfl
    | cons c more =>
        have hpos := c.utf8Size_pos
        rw [List.cons_append, byteSize_cons, byteSize_append] at h
        omega

end Text

namespace FileName

open FilePath

/-- The extension of a name, dot included, where nothing stands behind its last segment. -/
theorem extension_of_eq_append {name front after : Text} (hne : after ≠ [])
    (h : extension? name = some after) (hname : name = front ++ '.' :: after) :
    extension name = .ok (some ('.' :: after)) := by
  obtain ⟨c, rest, rfl⟩ := List.exists_cons_of_ne_nil hne
  have hsize : Text.byteSize name - (Text.byteSize (c :: rest) + 1) = Text.byteSize front := by
    have hone : '.'.utf8Size = 1 := rfl
    rw [hname, Text.byteSize_append, Text.byteSize_cons, hone]
    omega
  rw [extension, h]
  simp only [hsize]
  rw [hname, Text.dropBytes?_append]

/-- Where an idle segment ends the name, the cut either falls inside a character or keeps the slash
in front of that segment. -/
theorem extension_of_idle_end {name front after between last : Text} (hne : after ≠ [])
    (h : extension? name = some after)
    (hname : name = front ++ '.' :: after ++ (between ++ '/' :: last))
    (hidle : isIdle last = true) :
    extension name = .error .insideCharacter ∨ ∃ t, extension name = .ok (some t) ∧ t <:+ name ∧
      Text.byteSize t = Text.byteSize ('.' :: after) ∧ '/' ∈ t := by
  obtain ⟨c, rest, rfl⟩ := List.exists_cons_of_ne_nil hne
  have hdot : '.'.utf8Size = 1 := rfl
  have hslash : '/'.utf8Size = 1 := rfl
  rw [extension, h]
  simp only
  cases hcut : name.dropBytes? (name.byteSize - (Text.byteSize (c :: rest) + 1)) with
  | none => exact .inl rfl
  | some t =>
      obtain ⟨s, hs, hsize⟩ := Text.eq_append_of_dropBytes? hcut
      have hcount : Text.byteSize t = Text.byteSize ('.' :: c :: rest) := by
        have htotal := congrArg Text.byteSize hs
        have hparts := congrArg Text.byteSize hname
        simp only [Text.byteSize_append, Text.byteSize_cons] at htotal hparts hsize ⊢
        omega
      have ht : t <:+ name := ⟨s, hs.symm⟩
      have hlast : '/' :: last <:+ name := by
        rw [hname, ← List.append_assoc]
        exact List.suffix_append _ _
      -- An extension has a character, so what is kept has as many bytes as a slash and a dot.
      have hkept : Text.byteSize ('/' :: last) ≤ Text.byteSize t := by
        have hpos := c.utf8Size_pos
        have hle := byteSize_le_one_of_isIdle hidle
        rw [hcount]
        simp only [Text.byteSize_cons]
        omega
      have hmem : '/' ∈ t := (Text.suffix_of_byteSize_le hlast ht hkept).subset List.mem_cons_self
      exact .inr ⟨t, rfl, ht, hcount, hmem⟩

/-- What the extension of any name is. It is right where the name ends in its last name. Behind a
slash or a single dot at the end the cut is as long as it should be but stands too far back: it
falls inside a character, or a slash comes with what it keeps. -/
theorem extension_spec (name : Text) :
    match extension? name with
    | none | some [] => extension name = .ok none
    | some after =>
      '.' ∉ after ∧ '/' ∉ after ∧
        if endsInName name then extension name = .ok (some ('.' :: after))
        else extension name = .error .insideCharacter ∨ ∃ t, extension name = .ok (some t) ∧
          t <:+ name ∧ Text.byteSize t = Text.byteSize ('.' :: after) ∧ '/' ∈ t := by
  split
  · next h => rw [extension, h]
  · next h => rw [extension, h]
  · next after hempty h =>
    have hne : after ≠ [] := hempty
    obtain ⟨stem, hlast, hdot⟩ := exists_name_of_extension? h
    obtain ⟨front, tail, hparts, hslash, htail⟩ := exists_tail hlast
    have hafter : '/' ∉ after := fun hmem =>
      hslash (List.mem_append_right _ (List.mem_cons_of_mem _ hmem))
    refine ⟨hdot, hafter, ?_⟩
    rw [← List.append_assoc] at hparts
    rcases htail with ⟨hends, rfl⟩ | ⟨hends, between, last, rfl, hidle⟩
    · rw [if_pos hends]
      rw [List.append_nil] at hparts
      exact extension_of_eq_append hne h hparts
    · rw [if_neg (by simp [hends])]
      exact extension_of_idle_end hne h hparts hidle

/-- A name may make the cut fall inside a character. -/
theorem not_forall_extension_eq :
    ¬∀ name, ∃ e, extension name = .ok e ∧
      ∀ t ∈ e, ∃ after ≠ [], extension? name = some after ∧ t = '.' :: after := by
  intro h
  obtain ⟨e, he, -⟩ := h "x.é/.".toList
  have hfault : extension "x.é/.".toList = .error .insideCharacter := by rfl
  rw [hfault] at he
  cases he

example : extension "x.mkv/".toList = .ok (some "mkv/".toList) := by rfl

end FileName

end MediaNaming
