import MediaNaming.Placeholder.Value

/-!
How long a title may be. A title that is too long is cut to exactly the length that is allowed, and
its last character is then an ellipsis. The ellipsis counts as a character of its own, so a title that
was cut once is cut again as if nothing had been lost: the shorter of two limits decides alone.
-/

namespace MediaNaming

variable {t : Text} {k m : Nat}

theorem truncateTitle_of_length_le (h : t.length ≤ k) : truncateTitle k t = t := by
  rw [truncateTitle, if_pos (.inr h)]

theorem truncateTitle_of_lt_length (hk : 0 < k) (h : k < t.length) :
    truncateTitle k t = t.take (k - 1) ++ ['…'] := by
  rw [truncateTitle, if_neg (by omega)]

theorem length_truncateTitle (hk : 0 < k) (t : Text) :
    (truncateTitle k t).length = min t.length k := by
  rcases Nat.lt_or_ge k t.length with h | h
  · rw [truncateTitle_of_lt_length hk h]
    simp
    omega
  · rw [truncateTitle_of_length_le h]
    omega

theorem truncateTitle_eq_self_iff (hk : 0 < k) : truncateTitle k t = t ↔ t.length ≤ k := by
  refine ⟨fun h => ?_, truncateTitle_of_length_le⟩
  have hlength := length_truncateTitle hk t
  rw [h] at hlength
  omega

/-- Up to the place of the ellipsis a cut title is the title. -/
theorem take_truncateTitle (h : k < m) (t : Text) : (truncateTitle m t).take k = t.take k := by
  rcases Nat.lt_or_ge m t.length with hm | hm
  · rw [truncateTitle_of_lt_length (by omega) hm, List.take_append_of_le_length (by simp; omega),
      List.take_take, Nat.min_eq_left (by omega)]
  · rw [truncateTitle_of_length_le hm]

theorem truncateTitle_truncateTitle (hk : 0 < k) (hkm : k ≤ m) (t : Text) :
    truncateTitle k (truncateTitle m t) = truncateTitle k t := by
  have hlength := length_truncateTitle (show 0 < m by omega) t
  rcases Nat.lt_or_ge k t.length with h | h
  · rcases Nat.lt_or_ge k m with hlt | hge
    · -- Both limits cut, and what the second one keeps lies before the first ellipsis.
      rw [truncateTitle_of_lt_length hk h, truncateTitle_of_lt_length hk (by omega),
        take_truncateTitle (by omega)]
    · obtain rfl : k = m := Nat.le_antisymm hkm hge
      exact truncateTitle_of_length_le (by omega)
  · rw [truncateTitle_of_length_le (show t.length ≤ m by omega)]

/-- A cut title has as many characters as it may have and its title does; it is the title itself
exactly if that is short enough, and else the beginning of it and one ellipsis. To cut a cut title
further is to cut the title. -/
theorem truncateTitle_spec (t : Text) (hk : 1 ≤ k) (hkm : k ≤ m) :
    (truncateTitle k t).length = min t.length k ∧
    (truncateTitle k t = t ↔ t.length ≤ k) ∧
    (k < t.length → truncateTitle k t = t.take (k - 1) ++ ['…']) ∧
    truncateTitle k (truncateTitle m t) = truncateTitle k t :=
  ⟨length_truncateTitle hk t, truncateTitle_eq_self_iff hk, truncateTitle_of_lt_length hk,
    truncateTitle_truncateTitle hk hkm t⟩

/-- A title with an ellipsis of its own, from which two limits take one character more each. -/
theorem truncateTitle_spec_trailingOff :
    1 ≤ 2 ∧ 2 ≤ 3 ∧ 2 < "とある…".toList.length ∧
      (truncateTitle 2 "とある…".toList).length = min "とある…".toList.length 2 ∧
      truncateTitle 2 "とある…".toList = "とある…".toList.take (2 - 1) ++ ['…'] ∧
      truncateTitle 2 (truncateTitle 3 "とある…".toList) = truncateTitle 2 "とある…".toList := by
  have hcut : 2 < "とある…".toList.length := by decide
  obtain ⟨hlength, -, hlong, htwice⟩ :=
    @truncateTitle_spec 2 3 "とある…".toList (by decide) (by decide)
  exact ⟨by decide, by decide, hcut, hlength, hlong hcut, htwice⟩

/-- Under a stricter limit an episode shows what the shown title is cut to. -/
theorem Bundle.episodeTitle?_of_le {s s' : Settings} (hpos : 0 < s.maxTitleLength)
    (hle : s.maxTitleLength ≤ s'.maxTitleLength) (b : Bundle) (language : TitleLanguage) :
    b.episodeTitle? s language =
      (b.episodeTitle? s' language).map (truncateTitle s.maxTitleLength.toNat) := by
  rw [UInt64.lt_iff_toNat_lt] at hpos
  rw [UInt64.le_iff_toNat_le] at hle
  rw [episodeTitle?, episodeTitle?, Option.map_map]
  congr 1
  funext title
  exact (truncateTitle_truncateTitle hpos hle title).symm

end MediaNaming
