import MediaNaming.Text.Lines
import MediaNaming.Text.Replace

/-!
Facts about texts: where they are cut, what replacing brings in, what trimming takes away, and how
a text falls into lines.
-/

namespace MediaNaming.Text

/-! ### Cuts -/

theorem splitAtLast?_eq_none_iff {c : Char} {u : Text} : splitAtLast? c u = none ↔ c ∉ u := by
  induction u with
  | nil => simp [splitAtLast?]
  | cons x rest ih =>
      rw [splitAtLast?]
      cases hrest : splitAtLast? c rest with
      | some p =>
          have hmem : c ∈ rest := Decidable.byContradiction fun h => by
            rw [ih.mpr h] at hrest
            cases hrest
          simp [hmem]
      | none =>
          have hmem := ih.mp hrest
          by_cases hx : x = c
          · simp [hx]
          · simp [hx, hmem, Ne.symm hx]

/-- The text after the last `c` holds no other one. -/
theorem eq_append_of_splitAtLast? {c : Char} {u s t : Text} (h : splitAtLast? c u = some (s, t)) :
    u = s ++ c :: t ∧ c ∉ t := by
  induction u generalizing s with
  | nil => simp [splitAtLast?] at h
  | cons x rest ih =>
      rw [splitAtLast?] at h
      cases hrest : splitAtLast? c rest with
      | some p =>
          rcases p with ⟨s', t'⟩
          simp only [hrest, Option.some.injEq, Prod.mk.injEq] at h
          obtain ⟨rfl, rfl⟩ := h
          obtain ⟨hs, hmem⟩ := ih hrest
          exact ⟨by rw [List.cons_append, ← hs], hmem⟩
      | none =>
          have hmem := splitAtLast?_eq_none_iff.mp hrest
          simp only [hrest] at h
          split at h
          · next hx =>
            cases h
            exact ⟨by rw [hx, List.nil_append], hmem⟩
          · cases h

theorem splitAtLast?_append {c : Char} {t : Text} (h : c ∉ t) (s : Text) :
    splitAtLast? c (s ++ c :: t) = some (s, t) := by
  induction s with
  | nil => simp [splitAtLast?, splitAtLast?_eq_none_iff.mpr h]
  | cons x rest ih => rw [List.cons_append, splitAtLast?, ih]

theorem eq_append_of_splitAt? {c : Char} {u s t : Text} (h : splitAt? c u = some (s, t)) :
    u = s ++ c :: t := by
  induction u generalizing s with
  | nil => simp [splitAt?] at h
  | cons x rest ih =>
      rw [splitAt?] at h
      split at h
      · next hx =>
        cases h
        rw [hx, List.nil_append]
      · obtain ⟨⟨s', t'⟩, hrest, hparts⟩ := Option.map_eq_some_iff.mp h
        cases hparts
        rw [ih hrest, List.cons_append]

theorem splitAt?_append {c : Char} {s : Text} (h : c ∉ s) (t : Text) :
    splitAt? c (s ++ c :: t) = some (s, t) := by
  induction s with
  | nil => simp [splitAt?]
  | cons x rest ih =>
      rw [List.mem_cons, not_or] at h
      rw [List.cons_append, splitAt?, if_neg (Ne.symm h.1), ih h.2]
      rfl

@[simp] theorem byteSize_nil : byteSize [] = 0 := rfl

@[simp] theorem byteSize_cons (c : Char) (t : Text) :
    byteSize (c :: t) = c.utf8Size + byteSize t := rfl

@[simp] theorem byteSize_append (s t : Text) : byteSize (s ++ t) = byteSize s + byteSize t := by
  induction s with
  | nil => rw [List.nil_append, byteSize_nil, Nat.zero_add]
  | cons c rest ih => rw [List.cons_append, byteSize_cons, byteSize_cons, ih, Nat.add_assoc]

theorem takeWhile_append_of_head? {P : Char → Bool} {s t : Text} (hs : ∀ c ∈ s, P c = true)
    (ht : ∀ c ∈ t.head?, P c = false) : (s ++ t).takeWhile P = s := by
  rw [List.takeWhile_append_of_pos hs]
  cases t with
  | nil => exact List.append_nil s
  | cons c t => rw [List.takeWhile_cons_of_neg (by simp [ht c rfl]), List.append_nil]

/-- A text is cut in one way only where a property ends. -/
theorem append_inj_of_forall {P : Char → Bool} {s s' t t' : Text} (hs : ∀ c ∈ s, P c = true)
    (ht : ∀ c ∈ t.head?, P c = false) (hs' : ∀ c ∈ s', P c = true)
    (ht' : ∀ c ∈ t'.head?, P c = false) (h : s ++ t = s' ++ t') : s = s' ∧ t = t' := by
  obtain rfl : s = s' := by
    rw [← takeWhile_append_of_head? hs ht, h, takeWhile_append_of_head? hs' ht']
  exact ⟨rfl, List.append_cancel_left h⟩

/-- A text is cut in one way only at the first character without a property. -/
theorem append_cons_inj_of_forall {P : Char → Bool} {s s' t t' : Text} {c c' : Char}
    (hs : ∀ x ∈ s, P x = true) (hc : P c = false) (hs' : ∀ x ∈ s', P x = true)
    (hc' : P c' = false) (h : s ++ c :: t = s' ++ c' :: t') : s = s' ∧ c = c' ∧ t = t' := by
  have hhead {d : Char} {u : Text} (hd : P d = false) : ∀ x ∈ (d :: u).head?, P x = false :=
    fun _ hx => Option.some.inj hx ▸ hd
  obtain ⟨rfl, hrest⟩ := append_inj_of_forall hs (hhead hc) hs' (hhead hc') h
  obtain ⟨hchar, hrest⟩ := List.cons.inj hrest
  exact ⟨rfl, hchar, hrest⟩

/-- A text that stands at the beginning of two texts in a row, the second of which does not begin
with one of its characters, stands in the first. -/
theorem prefix_of_prefix_append {w u v : Text} (h : w <+: u ++ v) (hv : ∀ c ∈ v.head?, c ∉ w) :
    w <+: u := by
  rcases List.prefix_or_prefix_of_prefix h (List.prefix_append u v) with hw | ⟨x, rfl⟩
  · exact hw
  · rw [List.prefix_append_right_inj] at h
    cases x with
    | nil => simp
    | cons c x =>
        obtain ⟨y, rfl⟩ := h
        exact absurd (List.mem_append_right u List.mem_cons_self) (hv c rfl)

theorem takeWhile_ne_append {c : Char} {s : Text} (h : c ∉ s) (t : Text) :
    (s ++ c :: t).takeWhile (· ≠ c) = s := by
  rw [List.takeWhile_append_of_pos, List.takeWhile_cons_of_neg (by simp), List.append_nil]
  intro x hx
  rw [decide_eq_true_eq]
  rintro rfl
  exact h hx

theorem dropWhile_ne_append {c : Char} {s : Text} (h : c ∉ s) (t : Text) :
    (s ++ c :: t).dropWhile (· ≠ c) = c :: t := by
  rw [List.dropWhile_append_of_pos, List.dropWhile_cons_of_neg (by simp)]
  intro x hx
  rw [decide_eq_true_eq]
  rintro rfl
  exact h hx

/-- Bytes that make up whole characters can be dropped. -/
theorem dropBytes?_append (s t : Text) : dropBytes? (byteSize s) (s ++ t) = some t := by
  induction s with
  | nil => cases t <;> rfl
  | cons c rest ih =>
      have hpos := c.utf8Size_pos
      obtain ⟨n, hn⟩ : ∃ n, byteSize (c :: rest) = n + 1 :=
        Nat.exists_eq_add_one.mpr (by simp; omega)
      rw [hn, List.cons_append, dropBytes?]
      rw [byteSize_cons] at hn
      rw [if_pos (by omega), show n + 1 - c.utf8Size = byteSize rest by omega]
      exact ih

/-! ### Replacement -/

theorem replaceAll_character (o n : Char) (t : Text) :
    replaceAll o [] [n] t = t.map fun c => if c = o then n else c := by
  rw [replaceAll_singleton, List.map_eq_flatMap]
  congr 1
  funext c
  split <;> rfl

/-- Replacing brings in no other characters than those of the new text. -/
theorem mem_of_mem_replaceAll {o : Char} {old new t : Text} {c : Char}
    (h : c ∈ replaceAll o old new t) : c ∈ t ∨ c ∈ new := by
  fun_induction replaceAll o old new t with
  | case1 => exact .inl h
  | case2 x rest hx ih =>
      rcases List.mem_append.mp h with h | h
      · exact .inr h
      · exact (ih h).imp_left fun hc => List.mem_cons_of_mem _ (List.mem_of_mem_drop hc)
  | case3 x rest hx ih =>
      rcases List.mem_cons.mp h with rfl | h
      · exact .inl List.mem_cons_self
      · exact (ih h).imp_left (List.mem_cons_of_mem _)

theorem replaceAll_of_not_infix {o : Char} {old t : Text} (h : ¬ o :: old <:+: t) (new : Text) :
    replaceAll o old new t = t := by
  fun_induction replaceAll o old new t with
  | case1 => rfl
  | case2 c rest hc ih =>
      obtain ⟨rfl, hold⟩ := hc
      have hfront : c :: old <+: c :: rest :=
        List.cons_prefix_cons.mpr ⟨rfl, List.isPrefixOf_iff_prefix.mp hold⟩
      exact absurd hfront.isInfix h
  | case3 c rest hc ih =>
      rw [ih fun hrest => h (hrest.trans (List.suffix_cons c rest).isInfix)]

/-- A translation that does not tell the old text from the new one does not see the replacement. -/
theorem flatMap_replaceAll {f : Char → Text} {o : Char} {old new : Text}
    (h : new.flatMap f = (o :: old).flatMap f) (t : Text) :
    (replaceAll o old new t).flatMap f = t.flatMap f := by
  fun_induction replaceAll o old new t with
  | case1 => rfl
  | case2 c rest hc ih =>
      obtain ⟨rfl, hold⟩ := hc
      obtain ⟨later, rfl⟩ := List.isPrefixOf_iff_prefix.mp hold
      rw [List.drop_left] at ih
      rw [List.drop_left, List.flatMap_append, ih, h, ← List.flatMap_append, List.cons_append]
  | case3 c rest hc ih => rw [List.flatMap_cons, ih, List.flatMap_cons]

/-- A beginning that the new text cannot have been put into was there before. -/
theorem prefix_of_prefix_replaceAll {o n : Char} {old new t p : Text} (hn : n ∉ p)
    (h : p <+: replaceAll o old (n :: new) t) : p <+: t := by
  induction p generalizing t with
  | nil => exact List.nil_prefix
  | cons c p ih =>
      cases t with
      | nil => simp at h
      | cons x rest =>
          rw [replaceAll] at h
          split at h
          · rw [List.cons_append, List.cons_prefix_cons] at h
            exact absurd (h.1 ▸ List.mem_cons_self) hn
          · rw [List.cons_prefix_cons] at h
            exact List.cons_prefix_cons.mpr
              ⟨h.1, ih (fun hmem => hn (List.mem_cons_of_mem _ hmem)) h.2⟩

/-- A character that is replaced by other ones is gone. -/
theorem not_mem_replaceAll_singleton {o : Char} {new : Text} (h : o ∉ new) (t : Text) :
    o ∉ replaceAll o [] new t := by
  rw [replaceAll_singleton, List.mem_flatMap]
  rintro ⟨c, -, hmem⟩
  split at hmem
  · exact h hmem
  · next hne => exact hne (List.mem_singleton.mp hmem).symm

/-- A character that occurs nowhere in the old text parts the texts in front of it and after it:
each is replaced as if it stood alone. -/
theorem replaceAll_append_cons {o c : Char} {old : Text} (hc : c ∉ o :: old) (new s t : Text) :
    replaceAll o old new (s ++ c :: t) =
      replaceAll o old new s ++ c :: replaceAll o old new t := by
  rw [List.mem_cons, not_or] at hc
  fun_induction replaceAll o old new s with
  | case1 =>
      rw [List.nil_append, List.nil_append, replaceAll, if_neg fun h => hc.1 h.1]
  | case2 x rest hx ih =>
      have hfound : old <+: rest := List.isPrefixOf_iff_prefix.mp hx.2
      have hmore : old.isPrefixOf (rest ++ c :: t) = true :=
        List.isPrefixOf_iff_prefix.mpr (hfound.trans (List.prefix_append _ _))
      rw [List.cons_append, replaceAll, if_pos ⟨hx.1, hmore⟩,
        List.drop_append_of_le_length hfound.length_le, ih, List.append_assoc]
  | case3 x rest hx ih =>
      -- The old text cannot reach over `c`, so it would have been found in `rest` alone.
      have hmore : ¬(x = o ∧ old.isPrefixOf (rest ++ c :: t) = true) := by
        rintro ⟨hxo, hfound⟩
        have hreach : rest ++ [c] <+: rest ++ c :: t :=
          (List.prefix_append_right_inj rest).mpr ⟨t, rfl⟩
        have hfront := List.isPrefixOf_iff_prefix.mp hfound
        rcases List.prefix_or_prefix_of_prefix hfront hreach with h | h
        · rcases List.prefix_concat_iff.mp h with h | h
          · exact hc.2 (h ▸ List.mem_append_right _ List.mem_cons_self)
          · exact hx ⟨hxo, List.isPrefixOf_iff_prefix.mpr h⟩
        · exact hc.2 (h.subset (List.mem_append_right _ List.mem_cons_self))
      rw [List.cons_append, replaceAll, if_neg hmore, ih, List.cons_append]

theorem head?_replaceAll {o c : Char} {old t : Text} (hc : c ∉ o :: old) (new : Text)
    (h : t.head? = some c) : (replaceAll o old new t).head? = some c := by
  obtain ⟨rest, rfl⟩ := List.head?_eq_some_iff.mp h
  have hparts := replaceAll_append_cons hc new [] rest
  rw [replaceAll_nil, List.nil_append, List.nil_append] at hparts
  rw [hparts, List.head?_cons]

theorem getLast?_replaceAll {o c : Char} {old t : Text} (hc : c ∉ o :: old) (new : Text)
    (h : t.getLast? = some c) : (replaceAll o old new t).getLast? = some c := by
  obtain ⟨rest, rfl⟩ := List.getLast?_eq_some_iff.mp h
  rw [replaceAll_append_cons hc, replaceAll_nil, List.getLast?_concat]

/-! ### White space at the ends -/

theorem isBlank_head?_trimStart (t : Text) : ∀ c ∈ t.trimStart.head?, isBlank c = false := by
  intro c hc
  have h := List.head?_dropWhile_not isBlank t
  rw [trimStart] at hc
  rw [Option.mem_def.mp hc] at h
  exact h

theorem trimStart_append_of_blank {g : Text} (hg : ∀ c ∈ g, isBlank c = true) (t : Text) :
    trimStart (g ++ t) = trimStart t :=
  List.dropWhile_append_of_pos hg

theorem trimStart_of_head? {t : Text} (h : ∀ c ∈ t.head?, isBlank c = false) :
    trimStart t = t := by
  cases t with
  | nil => rfl
  | cons c rest =>
      have hc : isBlank c = false := h c rfl
      rw [trimStart, List.dropWhile_cons_of_neg (by simp [hc])]

/-- White space in front of something visible is all that is trimmed. -/
theorem trimStart_append_of_visible {g t : Text} (hg : ∀ c ∈ g, isBlank c = true)
    (ht : ∃ c ∈ t.head?, isBlank c = false) : trimStart (g ++ t) = t := by
  obtain ⟨c, hc, hblank⟩ := ht
  rw [trimStart_append_of_blank hg]
  exact trimStart_of_head? fun d hd => by rw [Option.mem_unique hd hc, hblank]

/-- Trimming takes white space off and leaves what follows it. -/
theorem exists_eq_append_trimStart (t : Text) :
    ∃ g, (∀ c ∈ g, isBlank c = true) ∧ t = g ++ trimStart t :=
  ⟨t.takeWhile isBlank, List.all_eq_true.mp List.all_takeWhile,
    List.takeWhile_append_dropWhile.symm⟩

theorem trimEnd_append_of_blank {g : Text} (hg : ∀ c ∈ g, isBlank c = true) (t : Text) :
    trimEnd (t ++ g) = trimEnd t := by
  have hrev : ∀ c ∈ g.reverse, isBlank c = true := fun c hc => hg c (List.mem_reverse.mp hc)
  rw [trimEnd, List.reverse_append, List.dropWhile_append_of_pos hrev, trimEnd]

theorem trimEnd_of_getLast? {t : Text} (h : ∀ c ∈ t.getLast?, isBlank c = false) :
    trimEnd t = t := by
  have hrev : ∀ c ∈ t.reverse.head?, isBlank c = false := by
    rw [List.head?_reverse]
    exact h
  have htrim := trimStart_of_head? hrev
  rw [trimStart] at htrim
  rw [trimEnd, htrim, List.reverse_reverse]

theorem trim_of_ends {t : Text} (hhead : ∀ c ∈ t.head?, isBlank c = false)
    (hlast : ∀ c ∈ t.getLast?, isBlank c = false) : trim t = t := by
  rw [trim, trimStart_of_head? hhead, trimEnd_of_getLast? hlast]

/-- A text that begins and ends with something else than white space. -/
structure IsFramed (t : Text) : Prop where
  head : ∃ c ∈ t.head?, isBlank c = false
  last : ∃ c ∈ t.getLast?, isBlank c = false

theorem isFramed_of_forall {t : Text} (hne : t ≠ []) (h : ∀ c ∈ t, isBlank c = false) :
    IsFramed t where
  head := ⟨t.head hne, List.head?_eq_some_head hne, h _ (List.head_mem hne)⟩
  last := ⟨t.getLast hne, List.getLast?_eq_some_getLast hne, h _ (List.getLast_mem hne)⟩

theorem IsFramed.trim_eq {t : Text} (h : IsFramed t) : trim t = t := by
  obtain ⟨⟨c, hc, hcblank⟩, ⟨d, hd, hdblank⟩⟩ := h
  refine trim_of_ends (fun c' hc' => ?_) (fun d' hd' => ?_)
  · rw [Option.mem_unique hc' hc, hcblank]
  · rw [Option.mem_unique hd' hd, hdblank]

theorem IsFramed.trimEnd_append {t : Text} (h : IsFramed t) (u : Text) :
    trimEnd (u ++ t) = u ++ t := by
  obtain ⟨d, hd, hblank⟩ := h.last
  refine trimEnd_of_getLast? fun c hc => ?_
  rw [List.getLast?_append, Option.mem_def.mp hd] at hc
  rw [← Option.some.inj hc, hblank]

theorem IsFramed.append {s t : Text} (hs : IsFramed s) (ht : IsFramed t) (u : Text) :
    IsFramed (s ++ u ++ t) where
  head := by
    obtain ⟨c, hc, hblank⟩ := hs.head
    rw [Option.mem_def] at hc
    exact ⟨c, by simp [List.head?_append, hc], hblank⟩
  last := by
    obtain ⟨c, hc, hblank⟩ := ht.last
    rw [Option.mem_def] at hc
    exact ⟨c, by simp [List.getLast?_append, hc], hblank⟩

theorem trim_append_left {g : Text} (hg : ∀ c ∈ g, isBlank c = true) (t : Text) :
    trim (g ++ t) = trim t := by
  rw [trim, trimStart_append_of_blank hg, trim]

theorem trim_append_right {g : Text} (hg : ∀ c ∈ g, isBlank c = true) (t : Text) :
    trim (t ++ g) = trim t := by
  rw [trim, trimStart, List.dropWhile_append]
  split
  · next hnil =>
    have hblank : trimStart g = [] := by
      have happend := trimStart_append_of_blank hg []
      rwa [List.append_nil] at happend
    rw [trimStart] at hblank
    rw [List.isEmpty_iff] at hnil
    rw [trim, trimStart, hnil, hblank]
  · rw [trimEnd_append_of_blank hg, trim, trimStart]

theorem exists_eq_trimEnd_append (t : Text) :
    ∃ g, (∀ c ∈ g, isBlank c = true) ∧ t = trimEnd t ++ g := by
  refine ⟨(t.reverse.takeWhile isBlank).reverse, fun c hc => ?_, ?_⟩
  · exact List.all_eq_true.mp List.all_takeWhile c (List.mem_reverse.mp hc)
  · rw [trimEnd, ← List.reverse_append, List.takeWhile_append_dropWhile, List.reverse_reverse]

/-- Trimming takes nothing but white space off the ends. -/
theorem exists_eq_append_trim_append (t : Text) :
    ∃ g g', (∀ c ∈ g, isBlank c = true) ∧ (∀ c ∈ g', isBlank c = true) ∧ t = g ++ trim t ++ g' := by
  obtain ⟨g, hg, ht⟩ := exists_eq_append_trimStart t
  obtain ⟨g', hg', hstart⟩ := exists_eq_trimEnd_append (trimStart t)
  refine ⟨g, g', hg, hg', ?_⟩
  rw [trim, List.append_assoc, ← hstart]
  exact ht

theorem trim_eq_nil_iff {t : Text} : trim t = [] ↔ isBlankText t = true := by
  rw [isBlankText, List.all_eq_true]
  constructor
  · intro h
    obtain ⟨g, g', hg, hg', ht⟩ := exists_eq_append_trim_append t
    rw [h, List.append_nil] at ht
    rw [ht]
    exact List.forall_mem_append.mpr ⟨hg, hg'⟩
  · intro h
    have hnil := trim_append_left h []
    rw [List.append_nil] at hnil
    rw [hnil]
    rfl

/-- A trimmed text has no white space at its end. -/
theorem trimEnd_of_trim_eq {t : Text} (h : trim t = t) : trimEnd t = t := by
  refine trimEnd_of_getLast? fun c hc => ?_
  rw [← h, trim, trimEnd, List.getLast?_reverse] at hc
  exact isBlank_head?_trimStart _ c hc

theorem trim_trimEnd (t : Text) : trim (trimEnd t) = trim t := by
  obtain ⟨g, hg, ht⟩ := exists_eq_trimEnd_append t
  rw [← trim_append_right hg, ← ht]

/-- A visible character parts the white space at the two ends of a text. -/
theorem trim_append_cons {c : Char} (hc : isBlank c = false) (s t : Text) :
    trim (s ++ c :: t) = trimStart s ++ c :: trimEnd t := by
  have hvisible (u : Text) : (c :: u).dropWhile isBlank = c :: u :=
    List.dropWhile_cons_of_neg (by simp [hc])
  have hstart : trimStart (s ++ c :: t) = trimStart s ++ c :: t := by
    rw [trimStart, List.dropWhile_append, hvisible]
    split
    · next hnil => rw [trimStart, List.isEmpty_iff.mp hnil, List.nil_append]
    · rfl
  rw [trim, hstart, trimEnd, List.reverse_append, List.reverse_cons, List.append_assoc,
    List.singleton_append, List.dropWhile_append, hvisible]
  split
  · next hnil =>
    rw [trimEnd, List.isEmpty_iff.mp hnil]
    simp
  · simp [trimEnd]

theorem trim_cons {c : Char} (hc : isBlank c = false) (t : Text) :
    trim (c :: t) = c :: trimEnd t :=
  trim_append_cons hc [] t

theorem trim_trimStart (t : Text) : trim (trimStart t) = trim t := by
  obtain ⟨g, hg, ht⟩ := exists_eq_append_trimStart t
  rw [← trim_append_left hg, ← ht]

theorem trim_trim (t : Text) : trim (trim t) = trim t :=
  (trim_trimEnd (trimStart t)).trans (trim_trimStart t)

/-! ### Letters -/

theorem toNat_of_isAlpha {c : Char} (h : c.isAlpha = true) :
    (65 ≤ c.toNat ∧ c.toNat ≤ 90) ∨ (97 ≤ c.toNat ∧ c.toNat ≤ 122) := by
  unfold Char.isAlpha Char.isUpper Char.isLower at h
  simpa [UInt32.le_iff_toNat_le] using h

theorem toNat_of_isUpper {c : Char} (h : c.isUpper = true) : 65 ≤ c.toNat ∧ c.toNat ≤ 90 := by
  unfold Char.isUpper at h
  simpa [UInt32.le_iff_toNat_le] using h

theorem toNat_of_isDigit {c : Char} (h : c.isDigit = true) : 48 ≤ c.toNat ∧ c.toNat ≤ 57 := by
  simpa [Char.isDigit, UInt32.le_iff_toNat_le] using h

theorem not_isBlank_of_isAlpha {c : Char} (h : c.isAlpha = true) : isBlank c = false := by
  have hrange := toNat_of_isAlpha h
  simp [isBlank]
  omega

/-- A letter is left alone unless it is a capital. -/
theorem toLower_eq_or_isUpper (c : Char) : c.toLower = c ∨ c.isUpper = true := by
  unfold Char.toLower Char.isUpper
  split
  · next h => exact .inr (decide_eq_true h)
  · exact .inl rfl

theorem isAlpha_of_isAlpha_toLower {c : Char} (h : c.toLower.isAlpha = true) :
    c.isAlpha = true := by
  rcases toLower_eq_or_isUpper c with hsame | hupper
  · rwa [hsame] at h
  · exact Bool.or_eq_true_iff.mpr (.inl hupper)

theorem isAlphanum_of_isAlphanum_toLower {c : Char} (h : c.toLower.isAlphanum = true) :
    c.isAlphanum = true := by
  rcases toLower_eq_or_isUpper c with hsame | hupper
  · rwa [hsame] at h
  · exact Bool.or_eq_true_iff.mpr (.inl (Bool.or_eq_true_iff.mpr (.inl hupper)))

theorem not_isBlank_of_isAlphanum {c : Char} (h : c.isAlphanum = true) : isBlank c = false := by
  rw [Char.isAlphanum, Bool.or_eq_true] at h
  rcases h with h | h
  · exact not_isBlank_of_isAlpha h
  · have hrange := toNat_of_isDigit h
    simp [isBlank]
    omega

/-- Another spelling of a word compares with texts as the word does. -/
theorem sameLetters_congr {s t : Text} (h : sameLetters s t = true) (u : Text) :
    sameLetters s u = sameLetters t u := by
  rw [sameLetters, beq_iff_eq] at h
  rw [sameLetters, h, sameLetters]

/-- The characters of a word in any case have whatever its small letters hand on. -/
theorem forall_of_sameLetters {s t : Text} (h : sameLetters s t = true) {P : Char → Bool}
    (hP : ∀ c : Char, P c.toLower = true → P c = true) (ht : (asciiLower t).all P = true) :
    ∀ c ∈ s, P c = true := by
  intro c hc
  rw [sameLetters, beq_iff_eq] at h
  rw [List.all_eq_true] at ht
  refine hP c (ht _ ?_)
  rw [← h]
  exact List.mem_map_of_mem hc

/-! ### Lines -/

/-- A line without the carriage return that ends it, if one does. -/
def dropReturn (line : Text) : Text :=
  if line.getLast? = some '\r' then line.dropLast else line

@[simp] theorem dropReturn_append_return (line : Text) : dropReturn (line ++ ['\r']) = line := by
  simp [dropReturn]

theorem dropReturn_cons {line : Text} (h : line ≠ []) (c : Char) :
    dropReturn (c :: line) = c :: dropReturn line := by
  obtain ⟨d, rest, rfl⟩ := List.exists_cons_of_ne_nil h
  rw [dropReturn, dropReturn, List.getLast?_cons_cons]
  split <;> rfl

/-- A character in front of a text joins its first line. -/
theorem lines_cons {c : Char} {rest l : Text} {ls : List Text} (hc : c ≠ '\n')
    (hreturn : c = '\r' → ∀ u, rest ≠ '\n' :: u) (h : lines rest = l :: ls) :
    lines (c :: rest) = (c :: l) :: ls := by
  rw [lines, if_neg hc, h]
  exact fun u hr hu => hreturn hr u hu

/-- Up to its first line feed a text is a line, whatever follows. -/
theorem lines_append_lineFeed {line : Text} (h : '\n' ∉ line) (rest : Text) :
    lines (line ++ '\n' :: rest) = dropReturn line :: lines rest := by
  induction line with
  | nil => rfl
  | cons c line ih =>
      rw [List.mem_cons, not_or] at h
      have ih := ih h.2
      by_cases hnil : line = []
      · subst hnil
        by_cases hc : c = '\r'
        · subst hc
          rfl
        · rw [List.cons_append, lines_cons (Ne.symm h.1) (fun hr => absurd hr hc) ih]
          simp [dropReturn, hc]
      · rw [List.cons_append, dropReturn_cons hnil]
        refine lines_cons (Ne.symm h.1) (fun _ u hu => ?_) ih
        obtain ⟨d, line, rfl⟩ := List.exists_cons_of_ne_nil hnil
        cases hu
        exact h.2 List.mem_cons_self

/-- A text that ends where a line ends. -/
def EndsLine (t : Text) : Prop := t = [] ∨ t.getLast? = some '\n'

theorem EndsLine.tail {c : Char} {rest : Text} (h : EndsLine (c :: rest)) : EndsLine rest := by
  cases rest with
  | nil => exact .inl rfl
  | cons d rest =>
      refine .inr ?_
      rcases h with h | h
      · cases h
      · rwa [List.getLast?_cons_cons] at h

theorem lines_ne_nil {t : Text} (h : t ≠ []) : lines t ≠ [] := by
  fun_cases lines t with
  | case1 => exact absurd rfl h
  | case2 rest => exact List.cons_ne_nil _ _
  | case3 rest hreturn => exact List.cons_ne_nil _ _
  | case4 c rest hreturn hc hrest => exact List.cons_ne_nil _ _
  | case5 c rest hreturn hc l ls hrest => exact List.cons_ne_nil _ _

/-- After the end of a line the next one begins. -/
theorem lines_append {s : Text} (h : EndsLine s) (t : Text) :
    lines (s ++ t) = lines s ++ lines t := by
  fun_induction lines s with
  | case1 => rfl
  | case2 rest ih =>
      rw [List.cons_append, List.cons_append, lines, ih h.tail.tail, List.cons_append]
  | case3 rest hreturn ih =>
      rw [List.cons_append, lines, if_pos rfl, ih h.tail, List.cons_append]
      exact fun u hr => absurd hr (by decide)
  | case4 c rest hreturn hc hrest ih =>
      -- A text that does not end here has another line to come.
      have hnil : rest = [] := Decidable.byContradiction fun hne => lines_ne_nil hne hrest
      subst hnil
      rcases h with h | h
      · cases h
      · exact absurd (Option.some.inj h) hc
  | case5 c rest hreturn hc l ls hrest ih =>
      have happend : lines (rest ++ t) = l :: (ls ++ lines t) := by
        rw [ih h.tail, hrest, List.cons_append]
      rw [List.cons_append, List.cons_append]
      refine lines_cons hc (fun hr u hu => ?_) happend
      cases rest with
      | nil => cases hrest
      | cons d rest =>
          cases hu
          exact hreturn rest hr rfl

end MediaNaming.Text
