import MediaNaming.Proofs.Fallback
import MediaNaming.Proofs.FigureTest

/-!
The size of a picture in a text. It is two numbers around the first `x`, each with any white space
around it, and three readers take it apart: the one that reads a size, the placeholder that shows what
stands behind the `x`, and the tests on width and height. They cut at different moments, but the white
space at the ends of the text is white space at the ends of a number as well, so all of them find the
same two numbers in the text that a template shows for the resolution.
-/

namespace MediaNaming

namespace FrameSize

/-- A number without a minus sign, with white space around it. -/
inductive SpellsSide (n : UInt32) : Text → Prop
  | intro {w : Text.Numeral} {lead trail : Text} (hlead : ∀ c ∈ lead, Text.isBlank c = true)
      (htrail : ∀ c ∈ trail, Text.isBlank c = true) (hsign : w.sign ≠ .minus)
      (hsize : w.size = n.toNat) : SpellsSide n (lead ++ w.toText ++ trail)

/-- The texts that spell a size. -/
inductive Spells (size : FrameSize) : Text → Prop
  | intro {s t : Text} (hwidth : SpellsSide size.width s) (hheight : SpellsSide size.height t) :
      Spells size (s ++ 'x' :: t)

/-! ### One side -/

namespace SpellsSide

variable {n : UInt32} {t : Text}

/-- A side is read once the white space around it is gone. -/
theorem iff_uint32? : SpellsSide n t ↔ Text.uint32? t.trim = some n := by
  rw [Text.uint32?_eq_some_iff]
  constructor
  · intro h
    cases h with
    | @intro w lead trail hlead htrail hsign hsize =>
        have hframed := Text.isFramed_of_forall w.toText_ne_nil fun _ => w.not_isBlank_of_mem_toText
        refine ⟨w, ?_, hsign, hsize⟩
        rw [Text.trim_append_right htrail, Text.trim_append_left hlead, hframed.trim_eq]
  · rintro ⟨w, hw, hsign, hsize⟩
    obtain ⟨lead, trail, hlead, htrail, ht⟩ := Text.exists_eq_append_trim_append t
    rw [ht, ← hw]
    exact .intro hlead htrail hsign hsize

/-- Neither a number nor white space holds the character between the sides. -/
theorem x_not_mem (h : SpellsSide n t) : 'x' ∉ t := by
  cases h with
  | @intro w lead trail hlead htrail hsign hsize =>
      have hblank {g : Text} (hg : ∀ c ∈ g, Text.isBlank c = true) : 'x' ∉ g :=
        fun hx => absurd (hg _ hx) (by decide)
      have hnumber : 'x' ∉ w.toText := fun hx => absurd (w.not_isAlpha_of_mem_toText hx) (by decide)
      simp [hblank hlead, hblank htrail, hnumber]

end SpellsSide

/-! ### Both sides -/

section Both

variable {size : FrameSize} {s t : Text}

/-- A text is read from what stands on the two sides of its first `x`. -/
theorem ofText?_append (hs : 'x' ∉ s) (t : Text) :
    ofText? (s ++ 'x' :: t) = (Text.uint32? s.trim).bind fun width =>
      (Text.uint32? t.trim).map fun height => ⟨width, height⟩ := by
  have hvisible : Text.isBlank 'x' = false := rfl
  have hstart : 'x' ∉ s.trimStart := fun hx => hs ((List.dropWhile_sublist _).subset hx)
  rw [ofText?, Text.trim_append_cons hvisible, Text.splitAt?_append hstart]
  show ((Text.uint32? s.trimStart.trim).bind fun width =>
    (Text.uint32? t.trimEnd.trim).bind fun height => some (⟨width, height⟩ : FrameSize)) = _
  rw [Text.trim_trimStart, Text.trim_trimEnd]
  simp only [Option.map_eq_bind, Function.comp_def]

theorem Spells.ofText?_eq (h : Spells size t) : ofText? t = some size := by
  cases h with
  | intro hwidth hheight =>
      rw [ofText?_append hwidth.x_not_mem, SpellsSide.iff_uint32?.mp hwidth,
        SpellsSide.iff_uint32?.mp hheight]
      rfl

/-- What is read is spelled, because the white space at the two ends of the text belongs to the sides
of the `x`. -/
theorem spells_of_ofText? (h : ofText? t = some size) : Spells size t := by
  simp only [ofText?, Option.bind_eq_bind, Option.bind_eq_some_iff, Option.pure_def,
    Option.some.injEq, Prod.exists] at h
  obtain ⟨s, u, hsplit, width, hwidth, height, hheight, rfl⟩ := h
  obtain ⟨lead, trail, hlead, htrail, ht⟩ := Text.exists_eq_append_trim_append t
  have hsides : t = (lead ++ s) ++ 'x' :: (u ++ trail) := by
    rw [ht, Text.eq_append_of_splitAt? hsplit]
    simp
  rw [hsides]
  refine .intro (SpellsSide.iff_uint32?.mpr ?_) (SpellsSide.iff_uint32?.mpr ?_)
  · rw [Text.trim_append_left hlead, hwidth]
  · rw [Text.trim_append_right htrail, hheight]

theorem ofText?_eq_some_iff : ofText? t = some size ↔ Spells size t :=
  ⟨spells_of_ofText?, Spells.ofText?_eq⟩

/-- Exactly the texts that spell a size are read. -/
theorem ofText_eq_ok_iff : ofText t = .ok size ↔ Spells size t := by
  rw [← ofText?_eq_some_iff, ofText]
  cases ofText? t with
  | none => simp
  | some x => simp

theorem spellsSide_ofNat (n : UInt32) : SpellsSide n (Text.ofNat n.toNat) := by
  have hnone : ∀ c ∈ ([] : Text), Text.isBlank c = true := by simp
  have hside := SpellsSide.intro (w := ⟨.absent, 0, n.toNat⟩) hnone hnone (by simp) rfl
  simpa [Text.Numeral.toText, Text.Sign.toText, Text.Numeral.digits] using hside

theorem spells_toText (size : FrameSize) : Spells size size.toText :=
  .intro (spellsSide_ofNat size.width) (spellsSide_ofNat size.height)

end Both

end FrameSize

/-! ### The resolution of a bundle -/

/-- The tests on a figure compare a number with every numeral of 64 bits. -/
def Figure.Compares (f : Figure) (b : Bundle) (v : Int) : Prop :=
  ∀ w : Text.Numeral, -2 ^ 63 ≤ w.value → w.value < 2 ^ 63 →
    ((Criterion.figure f).holds w.toText b = true ↔ v = w.value) ∧
    ((Criterion.figure f).holds ('>' :: w.toText) b = true ↔ v > w.value)

theorem Figure.compares_of_value {f : Figure} {b : Bundle} {v : Int} (h : f.value b = .ok v) :
    f.Compares b v := by
  intro w hlow hhigh
  have hnumber (r : Option Relation) := Comparison.spellsNumber_numeral r ⟨hlow, hhigh⟩
  have hequal := Criterion.holds_figure_of_spellsNumber (hnumber none) h
  have habove := Criterion.holds_figure_of_spellsNumber (hnumber (some .greater)) h
  constructor
  · exact (Bool.eq_iff_iff.mp hequal).trans (Comparison.compare_eq_true_iff _ _ _)
  · exact (Bool.eq_iff_iff.mp habove).trans (Comparison.compare_eq_true_iff _ _ _)

namespace Bundle

variable {b : Bundle} {size : FrameSize}

/-- The size that the tests read is the one that is spelled where the resolution is shown. -/
theorem frameSize?_eq_some_iff (s : Settings) :
    b.frameSize? = some size ↔ FrameSize.Spells size (Placeholder.resolution.render s b) := by
  rw [← FrameSize.ofText?_eq_some_iff, frameSize?, Placeholder.render, Placeholder.value?]
  cases b.resolutionText? with
  | none => exact iff_of_eq rfl
  | some t => rfl

/-- The placeholder for the height cuts the resolution at the same place, before the white space at
its ends is gone. -/
theorem uint32?_videoHeight (s : Settings) (h : b.frameSize? = some size) :
    Text.uint32? (Placeholder.videoHeight.render s b) = some size.height := by
  obtain ⟨t, ht, hread⟩ := Option.bind_eq_some_iff.mp h
  cases FrameSize.spells_of_ofText? hread with
  | intro hwidth hheight =>
      rw [Placeholder.render, Placeholder.value?, ht, Option.bind_some,
        Text.splitAt?_append hwidth.x_not_mem]
      exact FrameSize.SpellsSide.iff_uint32?.mp hheight

theorem compares_width (h : b.frameSize? = some size) :
    Figure.width.Compares b size.width.toNat :=
  Figure.compares_of_value (by rw [Figure.value, h]; rfl)

theorem compares_height (h : b.frameSize? = some size) :
    Figure.height.Compares b size.height.toNat :=
  Figure.compares_of_value (by rw [Figure.value, h]; rfl)

end Bundle

namespace FrameSize

/-- A size is read from exactly the texts that spell it, also from its own. Where a bundle has a size,
it is spelled by the text that is shown for the resolution, which the file states or else the release;
the height that is shown reads as its height, and the tests compare its width and its height. -/
theorem frameSize_spec :
    (∀ t size, ofText t = .ok size ↔ Spells size t) ∧
    (∀ size : FrameSize, ofText size.toText = .ok size) ∧
    ∀ (s : Settings) (b : Bundle) (size : FrameSize), b.frameSize? = some size →
      ShowsFirst (Text.isBlankText · = false)
        (b.file.resolution.toList ++ b.releaseResolution?.toList)
        (Placeholder.resolution.render s b) ∧
      Spells size (Placeholder.resolution.render s b) ∧
      Text.uint32? (Placeholder.videoHeight.render s b) = some size.height ∧
      Figure.width.Compares b size.width.toNat ∧ Figure.height.Compares b size.height.toNat := by
  refine ⟨fun t size => ofText_eq_ok_iff, fun size => ?_, fun s b size h => ⟨?_, ?_, ?_, ?_, ?_⟩⟩
  · exact ofText_eq_ok_iff.mpr (spells_toText size)
  · exact b.showsFirst_resolution s
  · exact (Bundle.frameSize?_eq_some_iff s).mp h
  · exact Bundle.uint32?_videoHeight s h
  · exact Bundle.compares_width h
  · exact Bundle.compares_height h

/-- A file without a resolution of its own, in a release that pads both numbers. -/
def paddedSample : Bundle where
  file := { name := "a.mkv".toList, ed2k := [], size := 1, resolution := some "\t".toList }
  release := some { resolution := some "\t+1920 x 01080 ".toList }

/-- The padding is part of the text that is shown, and of neither number. -/
theorem frameSize_spec_paddedSample :
    paddedSample.frameSize? = some ⟨1920, 1080⟩ ∧
      Text.uint32? (Placeholder.videoHeight.render {} paddedSample) = some 1080 ∧
      (Criterion.figure .width).holds "1920".toList paddedSample = true ∧
      (Criterion.figure .height).holds ">1079".toList paddedSample = true := by
  have hsize : paddedSample.frameSize? = some ⟨1920, 1080⟩ := by decide
  obtain ⟨-, -, hheight, hwide, hhigh⟩ := frameSize_spec.2.2 {} paddedSample _ hsize
  refine ⟨hsize, hheight, ?_, ?_⟩
  · exact (hwide ⟨.absent, 0, 1920⟩ (by decide) (by decide)).1.mpr rfl
  · exact (hhigh ⟨.absent, 0, 1079⟩ (by decide) (by decide)).2.mpr (by decide)

end FrameSize

end MediaNaming
