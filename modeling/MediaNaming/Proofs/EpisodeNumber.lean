import Mathlib.Algebra.Group.Nat.Defs
import Mathlib.Data.Nat.Log
import MediaNaming.Placeholder.Value
import MediaNaming.Proofs.NumeralForm

/-!
The numbers of episodes. A template shows the number of the first episode behind the mark of its
kind, and that of the last one where there are several, each with zeros in front that fill the
places which the size of the series asks for. From what is shown the kind and the numbers can be
told, whatever the sizes of the series, and among single episodes of one kind and one size the
shown texts are in the order of the numbers.
-/

namespace MediaNaming

namespace Text

/-! ### Digits in front of which zeros stand -/

/-- The digits that a number has; zero has one. -/
def digitCount (n : Nat) : Nat := Nat.log 10 n + 1

theorem digitCount_le_iff {n places : Nat} (h : 0 < places) :
    digitCount n ≤ places ↔ n < 10 ^ places := by
  rcases Nat.eq_zero_or_pos n with rfl | hn
  · have hpow : 0 < 10 ^ places := Nat.pow_pos (by decide)
    simp only [digitCount, Nat.log_zero_right]
    omega
  · exact Nat.log_lt_iff_lt_pow (by decide) (Nat.ne_of_gt hn)

theorem length_ofNat (n : Nat) : (ofNat n).length = digitCount n := by
  have hpos : 0 < (ofNat n).length := List.length_pos_iff.mpr (ofNat_ne_nil n)
  refine Nat.le_antisymm ?_ ?_
  · refine (Nat.length_toDigits_le_iff (by decide) (Nat.succ_pos _)).mpr ?_
    exact (digitCount_le_iff (Nat.succ_pos _)).mp (Nat.le_refl _)
  · refine (digitCount_le_iff hpos).mpr ?_
    exact (Nat.length_toDigits_le_iff (by decide) hpos).mp (Nat.le_refl _)

theorem digitCount_mono {m n : Nat} (h : m ≤ n) : digitCount m ≤ digitCount n :=
  Nat.succ_le_succ (Nat.log_mono_right h)

/-- A number behind as many zeros as fill `places` places, unless its digits fill them. -/
structure IsPadded (places n : Nat) (t : Text) : Prop where
  zeros : ∃ k, t = List.replicate k '0' ++ ofNat n
  length_eq : t.length = max places (digitCount n)

theorem isPadded_ofNatPadded (places n : Nat) : IsPadded places n (ofNatPadded places n) where
  zeros := ⟨_, rfl⟩
  length_eq := by rw [ofNatPadded, List.length_leftpad, length_ofNat]

namespace IsPadded

variable {places n : Nat} {t : Text}

theorem isDigit (h : IsPadded places n t) : ∀ c ∈ t, c.isDigit = true := by
  obtain ⟨k, rfl⟩ := h.zeros
  exact fun _ => isDigit_of_mem_zeros_append

theorem ne_nil (h : IsPadded places n t) : t ≠ [] := by
  obtain ⟨k, rfl⟩ := h.zeros
  exact zeros_append_ne_nil k n

/-- The zeros in front do not count. -/
theorem ofDigits_eq (h : IsPadded places n t) : ofDigits 0 t = n := by
  obtain ⟨k, rfl⟩ := h.zeros
  rw [ofDigits_zeros_append, ofDigits_ofNat]

theorem length_eq_of_le (h : IsPadded places n t) (hn : digitCount n ≤ places) :
    t.length = places := by
  rw [h.length_eq, Nat.max_eq_left hn]

end IsPadded

/-! ### The order of digits -/

theorem ofDigits_cons (n : Nat) (c : Char) (t : Text) :
    ofDigits n (c :: t) = ofDigits (10 * n + (c.toNat - '0'.toNat)) t := by
  rw [ofDigits, List.foldl_cons, ofDigits]

/-- A smaller number stays smaller when as many digits are put behind both. -/
theorem ofDigits_lt_of_lt {s t : Text} {m n : Nat} (hlength : s.length = t.length)
    (hs : ∀ c ∈ s, c.isDigit = true) (h : m < n) : ofDigits m s < ofDigits n t := by
  induction s generalizing t m n with
  | nil =>
      obtain rfl : t = [] := List.length_eq_zero_iff.mp hlength.symm
      exact h
  | cons c s ih =>
      obtain ⟨d, t, rfl⟩ := List.exists_cons_of_length_eq_add_one hlength.symm
      rw [List.forall_mem_cons] at hs
      have hc := toNat_of_isDigit hs.1
      have hzero : '0'.toNat = 48 := rfl
      rw [ofDigits_cons, ofDigits_cons]
      exact ih (Nat.succ.inj hlength) hs.2 (by omega)

/-- Texts of as many digits are in the order of the numbers that they write. -/
theorem lt_iff_ofDigits_lt {s t : Text} (hlength : s.length = t.length)
    (hs : ∀ c ∈ s, c.isDigit = true) (ht : ∀ c ∈ t, c.isDigit = true) (n : Nat) :
    s < t ↔ ofDigits n s < ofDigits n t := by
  induction s generalizing t n with
  | nil =>
      obtain rfl : t = [] := List.length_eq_zero_iff.mp hlength.symm
      simp
  | cons c s ih =>
      obtain ⟨d, t, rfl⟩ := List.exists_cons_of_length_eq_add_one hlength.symm
      rw [List.forall_mem_cons] at hs ht
      have hrest : s.length = t.length := Nat.succ.inj hlength
      have hc := toNat_of_isDigit hs.1
      have hd := toNat_of_isDigit ht.1
      have hzero : '0'.toNat = 48 := rfl
      rw [List.cons_lt_cons_iff, ofDigits_cons, ofDigits_cons, Char.lt_def,
        UInt32.lt_iff_toNat_lt]
      -- The first digits decide unless they are the same.
      rcases Nat.lt_trichotomy c.toNat d.toNat with hlt | heq | hgt
      · exact iff_of_true (.inl hlt) (ofDigits_lt_of_lt hrest hs.2 (by omega))
      · obtain rfl : c = d := Char.toNat_inj.mp heq
        rw [or_iff_right (Nat.lt_irrefl _), and_iff_right rfl]
        exact ih hrest hs.2 ht.2 _
      · refine iff_of_false ?_ (Nat.lt_asymm (ofDigits_lt_of_lt hrest.symm ht.2 (by omega)))
        rintro (hlt | ⟨rfl, -⟩)
        · exact Nat.lt_asymm hgt hlt
        · exact Nat.lt_irrefl _ hgt

theorem IsPadded.lt_iff {places m n : Nat} {s t : Text} (hs : IsPadded places m s)
    (ht : IsPadded places n t) (hlength : s.length = t.length) : s < t ↔ m < n := by
  rw [lt_iff_ofDigits_lt hlength hs.isDigit ht.isDigit 0, hs.ofDigits_eq, ht.ofDigits_eq]

/-- What stands in front of two texts alike does not tell which comes first. -/
theorem append_lt_append_iff (u : Text) {s t : Text} : u ++ s < u ++ t ↔ s < t := by
  induction u with
  | nil => rfl
  | cons c u ih =>
      rw [List.cons_append, List.cons_append, List.cons_lt_cons_iff,
        or_iff_right (Char.lt_irrefl c), and_iff_right rfl, ih]

end Text

/-! ### Marks -/

theorem EpisodeKind.isDigit_of_mem_mark {k : EpisodeKind} {c : Char} (h : c ∈ k.mark) :
    c.isDigit = false := by
  have hmark : (k.mark.any Char.isDigit) = false := by cases k <;> rfl
  exact Bool.eq_false_iff.mpr (List.any_eq_false.mp hmark c h)

theorem EpisodeKind.eq_of_mark_eq {k k' : EpisodeKind} (h : k.mark = k'.mark) : k = k' := by
  revert h
  cases k <;> cases k' <;> decide

/-! ### How episodes are numbered -/

/-- The number of the first episode behind the mark of its kind, and the number of the last one
where there are several. -/
inductive NumberedAs (places : Nat) : List Episode → Text → Prop
  | single {e : Episode} {t : Text} (h : Text.IsPadded places e.number.toNat t) :
      NumberedAs places [e] (e.kind.mark ++ t)
  | span {first last : Episode} {between : List Episode} {t u : Text}
      (hfirst : Text.IsPadded places first.number.toNat t)
      (hlast : Text.IsPadded places last.number.toNat u) :
      NumberedAs places (first :: (between ++ [last])) (first.kind.mark ++ t ++ '-' :: u)

/-- The places that the numbers take in a series of that many episodes. -/
def numberPlaces (count : UInt32) : Nat := max 2 (Text.digitCount count.toNat)

theorem numberWidth_eq (count : UInt32) : numberWidth count = numberPlaces count := by
  rw [numberWidth, numberPlaces, Text.length_ofNat]

namespace NumberedAs

variable {places places' : Nat} {first first' : Episode} {others others' : List Episode}
  {t t' : Text}

/-- What stands behind the first number: nothing, or the number of the last episode. -/
inductive Ending (places : Nat) : Option Episode → Text → Prop
  | none : Ending places none []
  | some {last : Episode} {u : Text} (h : Text.IsPadded places last.number.toNat u) :
      Ending places (some last) ('-' :: u)

theorem exists_parts (h : NumberedAs places (first :: others) t) :
    ∃ d u, t = first.kind.mark ++ (d ++ u) ∧ Text.IsPadded places first.number.toNat d ∧
      Ending places others.getLast? u := by
  cases h with
  | single h => exact ⟨_, [], by rw [List.append_nil], h, .none⟩
  | span hfirst hlast =>
      refine ⟨_, _, List.append_assoc _ _ _, hfirst, ?_⟩
      rw [List.getLast?_concat]
      exact .some hlast

theorem eq_mark_append (h : NumberedAs places [first] t) :
    ∃ d, t = first.kind.mark ++ d ∧ Text.IsPadded places first.number.toNat d := by
  obtain ⟨d, u, rfl, hd, hu⟩ := h.exists_parts
  rw [List.getLast?_nil] at hu
  cases hu
  exact ⟨d, by rw [List.append_nil], hd⟩

theorem Ending.head?_eq {o : Option Episode} {u : Text} (h : Ending places o u) :
    ∀ c ∈ u.head?, c = '-' := by
  cases h with
  | none => exact fun c hc => nomatch hc
  | some => exact fun c hc => (Option.some.inj hc).symm

theorem Ending.number_eq {o o' : Option Episode} {u : Text} (h : Ending places o u)
    (h' : Ending places' o' u) : o.map (·.number) = o'.map (·.number) := by
  cases h with
  | none =>
      cases h'
      rfl
  | some h =>
      cases h' with
      | some h' =>
          have hnumber := UInt32.toNat_inj.mp (h.ofDigits_eq.symm.trans h'.ofDigits_eq)
          rw [Option.map_some, Option.map_some, hnumber]

/-- The mark ends where the digits begin, and these end where the hyphen stands, so each part can
be read on its own. -/
theorem parts_eq (h : NumberedAs places (first :: others) t)
    (h' : NumberedAs places' (first' :: others') t) :
    first.kind = first'.kind ∧ first.number = first'.number ∧
      others.getLast?.map (·.number) = others'.getLast?.map (·.number) := by
  obtain ⟨d, u, rfl, hd, hu⟩ := h.exists_parts
  obtain ⟨d', u', heq, hd', hu'⟩ := h'.exists_parts
  have hdigit {p n : Nat} {d u : Text} (h : Text.IsPadded p n d) :
      ∀ c ∈ (d ++ u).head?, (!c.isDigit) = false := by
    obtain ⟨e, rest, rfl⟩ := List.exists_cons_of_ne_nil h.ne_nil
    intro c hc
    obtain rfl : e = c := Option.some.inj hc
    simp [h.isDigit e List.mem_cons_self]
  have hmark (k : EpisodeKind) : ∀ c ∈ k.mark, (!c.isDigit) = true := by
    intro c hc
    simp [EpisodeKind.isDigit_of_mem_mark hc]
  have hhyphen {p : Nat} {o : Option Episode} {u : Text} (h : Ending p o u) :
      ∀ c ∈ u.head?, c.isDigit = false := by
    intro c hc
    rw [h.head?_eq c hc]
    rfl
  obtain ⟨hkind, hrest⟩ :=
    Text.append_inj_of_forall (hmark _) (hdigit hd) (hmark _) (hdigit hd') heq
  obtain ⟨rfl, rfl⟩ :=
    Text.append_inj_of_forall hd.isDigit (hhyphen hu) hd'.isDigit (hhyphen hu') hrest
  have hnumber := hd.ofDigits_eq.symm.trans hd'.ofDigits_eq
  exact ⟨EpisodeKind.eq_of_mark_eq hkind, UInt32.toNat_inj.mp hnumber, hu.number_eq hu'⟩

end NumberedAs

/-! ### What a template shows -/

namespace Placeholder

variable {b b' : Bundle} {first first' : Episode} {others others' : List Episode}

theorem render_episodeNumber (s : Settings) (h : b.episodes = first :: others) :
    NumberedAs (numberPlaces (b.count first.kind)) (first :: others)
      (episodeNumber.render s b) := by
  have hpadded (n : UInt32) := Text.isPadded_ofNatPadded (numberPlaces (b.count first.kind)) n.toNat
  rcases List.eq_nil_or_concat others with rfl | ⟨between, last, rfl⟩
  · simp only [render, value?, Bundle.episodeNumber?, h, numberWidth_eq]
    rw [List.getLast?_nil, Option.getD_some, List.append_nil]
    exact .single (hpadded _)
  · rw [List.concat_eq_append] at h ⊢
    simp only [render, value?, Bundle.episodeNumber?, h, numberWidth_eq]
    rw [List.getLast?_concat, Option.getD_some]
    exact .span (hpadded _) (hpadded _)

/-- Episodes are numbered as `NumberedAs` says. From what is shown the kind and the number of the
first episode and the number of the last of several can be told, whichever series the bundles belong
to. What is shown for two single episodes of one kind and one count is equally long and in the order
of their numbers, if these fit the places; numbers up to the count do. -/
theorem episodeNumber_spec (s s' : Settings) (h : b.episodes = first :: others)
    (h' : b'.episodes = first' :: others') :
    NumberedAs (numberPlaces (b.count first.kind)) b.episodes (episodeNumber.render s b) ∧
    (episodeNumber.render s b = episodeNumber.render s' b' →
      first.kind = first'.kind ∧ first.number = first'.number ∧
        others.getLast?.map (·.number) = others'.getLast?.map (·.number)) ∧
    (others = [] → others' = [] → first.kind = first'.kind →
      b.count first.kind = b'.count first'.kind →
      Text.digitCount first.number.toNat ≤ numberPlaces (b.count first.kind) →
      Text.digitCount first'.number.toNat ≤ numberPlaces (b'.count first'.kind) →
        (episodeNumber.render s b).length = (episodeNumber.render s' b').length ∧
        (episodeNumber.render s b < episodeNumber.render s' b' ↔ first.number < first'.number)) ∧
    (first.number ≤ b.count first.kind →
      Text.digitCount first.number.toNat ≤ numberPlaces (b.count first.kind)) := by
  have hshown := render_episodeNumber s h
  have hshown' := render_episodeNumber s' h'
  refine ⟨h ▸ hshown, fun heq => ?_, ?_, fun hle => ?_⟩
  · exact hshown.parts_eq (heq ▸ hshown')
  · rintro rfl rfl hkind hcount hfits hfits'
    obtain ⟨t, ht, hpadded⟩ := hshown.eq_mark_append
    obtain ⟨t', ht', hpadded'⟩ := hshown'.eq_mark_append
    rw [← hcount] at hpadded' hfits'
    have hlength : t.length = t'.length := by
      rw [hpadded.length_eq_of_le hfits, hpadded'.length_eq_of_le hfits']
    rw [ht, ht', ← hkind]
    refine ⟨by rw [List.length_append, List.length_append, hlength], ?_⟩
    rw [Text.append_lt_append_iff, hpadded.lt_iff hpadded' hlength, UInt32.lt_iff_toNat_lt]
  · exact Nat.le_trans (Text.digitCount_mono (UInt32.le_iff_toNat_le.mp hle)) (Nat.le_max_right _ _)

def special (number : UInt32) : Episode where
  id := 1
  seriesId := 1
  number := number
  kind := .special

/-- A special of that number in a series of so many specials. -/
def specialSample (count number : UInt32) : Bundle where
  file := { name := "a.mkv".toList, ed2k := [], size := 1 }
  episodes := [special number]
  series := some { specialCount := count }

/-- The hundredth special is shown alike in a short series and in a long one, and after the special
before it. -/
theorem episodeNumber_spec_specialSample :
    ((specialSample 7 100).episodes = [special 100] ∧
      (specialSample 500 100).episodes = [special 100] ∧
      episodeNumber.render {} (specialSample 7 100) =
        episodeNumber.render {} (specialSample 500 100) ∧
      (special 100).kind = (special 100).kind ∧ (special 100).number = (special 100).number) ∧
    ((specialSample 500 99).episodes = [special 99] ∧ (special 99).number ≤ 500 ∧
      Text.digitCount (special 99).number.toNat ≤ numberPlaces 500 ∧
      Text.digitCount (special 100).number.toNat ≤ numberPlaces 500 ∧
      (episodeNumber.render {} (specialSample 500 99) <
        episodeNumber.render {} (specialSample 500 100) ↔
          (special 99).number < (special 100).number)) := by
  have hlast : Text.digitCount (special 100).number.toNat ≤ numberPlaces 500 := by decide
  have halike : episodeNumber.render {} (specialSample 7 100) =
      episodeNumber.render {} (specialSample 500 100) := by decide
  have hshort := @episodeNumber_spec (specialSample 7 100) (specialSample 500 100) _ _ [] [] {} {}
    rfl rfl
  have hlong := @episodeNumber_spec (specialSample 500 99) (specialSample 500 100) _ _ [] [] {} {}
    rfl rfl
  have hbefore := hlong.2.2.2 (by decide)
  obtain ⟨hkind, hnumber, -⟩ := hshort.2.1 halike
  obtain ⟨-, hlt⟩ := hlong.2.2.1 rfl rfl rfl rfl hbefore hlast
  exact ⟨⟨rfl, rfl, halike, hkind, hnumber⟩, rfl, by decide, hbefore, hlast, hlt⟩

end Placeholder

end MediaNaming
