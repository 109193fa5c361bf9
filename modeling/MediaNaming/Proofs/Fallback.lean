import MediaNaming.Proofs.Probe

/-!
Placeholders that have more than one source. Each shows the first text of use among several, which
stand in a fixed order, and nothing if none of them is. What is of use differs: a title is unless it
is empty, a resolution unless it is blank, and the name of a group unless it is blank or the word that
the catalog has for no group.
-/

namespace MediaNaming

/-- The first of some texts that has a property, or nothing at all. -/
inductive ShowsFirst (P : Text → Prop) (texts : List Text) : Text → Prop
  | found {before after : List Text} {t : Text} (htexts : texts = before ++ t :: after) (ht : P t)
      (hbefore : ∀ u ∈ before, ¬P u) : ShowsFirst P texts t
  | nothing (h : ∀ u ∈ texts, ¬P u) : ShowsFirst P texts []

/-- A text that names a group. -/
def NamesGroup (t : Text) : Prop :=
  Text.isBlankText t = false ∧ Text.sameLetters t.trim "raw".toList = false

instance : DecidablePred NamesGroup := fun t =>
  inferInstanceAs (Decidable (Text.isBlankText t = false ∧ _ = false))

/-- The titles that may stand for the romaji one: the romaji titles that are main or official, then
the main titles in any language, then the title of the record itself. -/
def Series.mainTitles (s : Series) : List Text :=
  (s.titles.filter fun t => t.language = .romaji ∧ (t.rank = .main ∨ t.rank = .official)).map
      (·.title) ++
    ((s.titles.filter (·.rank = .main)).map (·.title) ++ [s.mainTitle])

namespace Bundle

/-- The short name of the group, as it is stored. -/
def shortName? (b : Bundle) : Option Text := b.release.bind (·.groupShortName)

/-- The long name of the group, as it is stored. -/
def longName? (b : Bundle) : Option Text := b.release.bind (·.groupName)

/-- The resolution that the release states, as it is stored. -/
def releaseResolution? (b : Bundle) : Option Text := b.release.bind (·.resolution)

/-- Each of the two names of the group in the place of the other. -/
def swapNames (b : Bundle) : Bundle :=
  { b with release := b.release.map fun r =>
      { r with groupName := r.groupShortName, groupShortName := r.groupName } }

end Bundle

/-! ### The first text of use -/

namespace ShowsFirst

variable {P : Text → Prop} {texts : List Text} {t t' : Text}

theorem find? (P : Text → Prop) [DecidablePred P] (texts : List Text) :
    ShowsFirst P texts ((texts.find? (P ·)).getD []) := by
  cases h : texts.find? (P ·) with
  | none => exact .nothing (by simpa using h)
  | some t =>
      obtain ⟨ht, before, after, htexts, hbefore⟩ := List.find?_eq_some_iff_append.mp h
      exact .found htexts (of_decide_eq_true ht) (by simpa using hbefore)

theorem eq_nil_or (h : ShowsFirst P texts t) : t = [] ∨ P t := by
  cases h with
  | found htexts ht hbefore => exact .inr ht
  | nothing h => exact .inl rfl

/-- Nothing is shown only where nothing is of use. -/
theorem ne_nil_iff (h : ShowsFirst P texts t) (hP : ¬P []) : t ≠ [] ↔ ∃ u ∈ texts, P u := by
  cases h with
  | found htexts ht hbefore =>
      refine iff_of_true (fun hnil => hP (hnil ▸ ht)) ⟨t, ?_, ht⟩
      simp [htexts]
  | nothing h =>
      refine iff_of_false (fun hne => hne rfl) ?_
      rintro ⟨u, hu, hPu⟩
      exact h u hu hPu

end ShowsFirst

/-- Two texts, one of which stands in for the other, are looked through in that order. -/
theorem filter_or_filter (p : Text → Bool) (o o' : Option Text) :
    (o.filter p).or (o'.filter p) = (o.toList ++ o'.toList).find? p := by
  have hone (o : Option Text) : o.filter p = o.toList.find? p := by
    cases o with
    | none => rfl
    | some t => cases h : p t <;> simp [Option.filter_some, h]
  rw [List.find?_append, hone, hone]

/-! ### The sources of each placeholder -/

/-- The three searches for a title are one search through all of them. -/
theorem Series.romajiTitle_eq (s : Series) :
    s.romajiTitle = (s.mainTitles.find? (· ≠ [])).getD [] := by
  have hofficial : s.officialTitle? .romaji =
      ((s.titles.filter fun t =>
        t.language = .romaji ∧ (t.rank = .main ∨ t.rank = .official)).map (·.title)).find?
          (· ≠ []) := by
    rw [List.find?_map, List.find?_filter, officialTitle?]
    congr 2
    funext t
    cases t.rank <;> simp [TitleRank.isMainOrOfficial]
  have hmain : s.anyMainTitle? =
      ((s.titles.filter (·.rank = .main)).map (·.title)).find? (· ≠ []) := by
    rw [List.find?_map, List.find?_filter, anyMainTitle?]
    simp
  rw [mainTitles, List.find?_append, List.find?_append, ← hofficial, ← hmain, romajiTitle,
    ← Option.or_assoc]
  cases (s.officialTitle? .romaji).or s.anyMainTitle? with
  | some t => rfl
  | none =>
      by_cases hempty : s.mainTitle = []
      · simp [hempty]
      · simp [hempty]

theorem knownGroup?_eq_filter (o : Option Text) : knownGroup? o = o.filter (NamesGroup ·) := by
  rw [knownGroup?, Text.nonBlank?, Option.filter_filter]
  congr 1
  funext t
  rw [Bool.eq_iff_iff, decide_eq_true_eq]
  simp [NamesGroup]

/-- The name that is shown for a group, by the order in which its names are looked at. -/
theorem showsFirst_knownGroup (o o' : Option Text) :
    ShowsFirst NamesGroup (o.toList ++ o'.toList) (((knownGroup? o).or (knownGroup? o')).getD []) := by
  rw [knownGroup?_eq_filter, knownGroup?_eq_filter, filter_or_filter]
  exact ShowsFirst.find? NamesGroup _

namespace Bundle

variable (s : Settings) (b : Bundle)

theorem render_groupShort : Placeholder.groupShort.render s b =
    ((knownGroup? b.shortName?).or (knownGroup? b.longName?)).getD [] := by
  rw [Placeholder.render, Placeholder.value?, shortName?, longName?]
  cases b.release <;> rfl

theorem render_groupLong : Placeholder.groupLong.render s b =
    ((knownGroup? b.longName?).or (knownGroup? b.shortName?)).getD [] := by
  rw [Placeholder.render, Placeholder.value?, shortName?, longName?]
  cases b.release <;> rfl

theorem shortName?_swapNames : b.swapNames.shortName? = b.longName? := by
  rw [shortName?, longName?, swapNames]
  cases b.release <;> rfl

theorem longName?_swapNames : b.swapNames.longName? = b.shortName? := by
  rw [shortName?, longName?, swapNames]
  cases b.release <;> rfl

theorem showsFirst_resolution :
    ShowsFirst (Text.isBlankText · = false) (b.file.resolution.toList ++ b.releaseResolution?.toList)
      (Placeholder.resolution.render s b) := by
  have hrelease : (b.release.bind fun r => Text.nonBlank? r.resolution) =
      b.releaseResolution?.filter (Text.isBlankText · = false) := by
    rw [releaseResolution?]
    cases b.release <;> simp [Text.nonBlank?]
  have hfile : Text.nonBlank? b.file.resolution =
      b.file.resolution.filter (Text.isBlankText · = false) := by
    simp [Text.nonBlank?]
  rw [Placeholder.render, Placeholder.value?, resolutionText?, hrelease, hfile, filter_or_filter]
  exact ShowsFirst.find? (Text.isBlankText · = false) _

end Bundle

namespace Placeholder

variable {s : Settings} {b : Bundle}

theorem showsFirst_mainTitle {x : Series} (hx : b.series = some x) :
    ShowsFirst (· ≠ []) x.mainTitles (mainTitle.render s b) := by
  rw [render, value?, hx, Option.map_some, Option.getD_some, Series.romajiTitle_eq]
  exact ShowsFirst.find? (· ≠ []) _

theorem showsFirst_groupShort : ShowsFirst NamesGroup
    (b.shortName?.toList ++ b.longName?.toList) (groupShort.render s b) := by
  rw [Bundle.render_groupShort]
  exact showsFirst_knownGroup _ _

theorem showsFirst_groupLong : ShowsFirst NamesGroup
    (b.longName?.toList ++ b.shortName?.toList) (groupLong.render s b) := by
  rw [Bundle.render_groupLong]
  exact showsFirst_knownGroup _ _

theorem not_namesGroup_nil : ¬NamesGroup [] := by decide

/-- The names are the same ones, only in another order. -/
theorem isShown_groupShort (s : Settings) (b : Bundle) :
    groupShort.isShown s b = groupLong.isShown s b := by
  rw [Bool.eq_iff_iff, isShown_iff_render_ne_nil, isShown_iff_render_ne_nil,
    showsFirst_groupShort.ne_nil_iff not_namesGroup_nil,
    showsFirst_groupLong.ne_nil_iff not_namesGroup_nil]
  simp [or_comm]

/-- One name of the group is probed as the other is. -/
theorem holds_shown_groupShort (b : Bundle) :
    Criterion.shown.holds groupShort.code b = Criterion.shown.holds groupLong.code b := by
  have hshort : Criterion.shown.ask groupShort.code b = .ok (groupShort.isFound b != false) :=
    Criterion.ask_shown b rfl rfl
  have hlong : Criterion.shown.ask groupLong.code b = .ok (groupLong.isFound b != false) :=
    Criterion.ask_shown b rfl rfl
  rw [Criterion.holds, Criterion.holds, hshort, hlong]
  show (groupShort.isShown {} b != false) = (groupLong.isShown {} b != false)
  rw [isShown_groupShort]

/-- The title of a series is the first of its main titles that is not empty. The short and the long
name of the group stand in for each other, unless they name no group, so they are shown and found
together and change places with what is stored. The resolution is that of the file, or else of the
release. -/
theorem fallback_spec (s : Settings) (b : Bundle) :
    (∀ x, b.series = some x → ShowsFirst (· ≠ []) x.mainTitles (mainTitle.render s b) ∧
      (mainTitle.render s b = [] → ∀ t ∈ x.mainTitles, t = [])) ∧
    (ShowsFirst NamesGroup (b.shortName?.toList ++ b.longName?.toList) (groupShort.render s b) ∧
      ShowsFirst NamesGroup (b.longName?.toList ++ b.shortName?.toList) (groupLong.render s b)) ∧
    (groupShort.isShown s b = groupLong.isShown s b ∧
      Criterion.shown.holds groupShort.code b = Criterion.shown.holds groupLong.code b) ∧
    (∀ p ∈ [groupShort, groupLong], p.render s b = [] ∨ NamesGroup (p.render s b)) ∧
    (groupShort.render s b.swapNames = groupLong.render s b ∧
      groupLong.render s b.swapNames = groupShort.render s b) ∧
    ShowsFirst (Text.isBlankText · = false) (b.file.resolution.toList ++ b.releaseResolution?.toList)
      (resolution.render s b) := by
  refine ⟨fun x hx => ⟨showsFirst_mainTitle hx, fun hnil t ht => ?_⟩,
    ⟨showsFirst_groupShort, showsFirst_groupLong⟩,
    ⟨isShown_groupShort s b, holds_shown_groupShort b⟩, ?_, ⟨?_, ?_⟩, Bundle.showsFirst_resolution s b⟩
  · refine Decidable.byContradiction fun hne => ?_
    exact ((showsFirst_mainTitle hx).ne_nil_iff (not_not_intro rfl)).mpr ⟨t, ht, hne⟩ hnil
  · intro p hp
    simp only [List.mem_cons, List.not_mem_nil, or_false] at hp
    rcases hp with rfl | rfl
    · exact showsFirst_groupShort.eq_nil_or
    · exact showsFirst_groupLong.eq_nil_or
  · rw [Bundle.render_groupShort, Bundle.render_groupLong, Bundle.shortName?_swapNames,
      Bundle.longName?_swapNames]
  · rw [Bundle.render_groupShort, Bundle.render_groupLong, Bundle.shortName?_swapNames,
      Bundle.longName?_swapNames]

/-- A series whose official romaji title is empty, with a main title in another language. -/
def untitledSample : Series where
  mainTitle := "HotD".toList
  titles := [⟨.romaji, .official, []⟩, ⟨.romaji, .other, "Apocalypse".toList⟩,
    ⟨.japanese, .main, "学園黙示録".toList⟩]

/-- A file of a group without a short name, whose own resolution is blank. -/
def fallbackSample : Bundle where
  file := { name := "a.mkv".toList, ed2k := [], size := 1, resolution := some "\t".toList }
  release := some {
    groupName := some "Rawr Subs".toList
    groupShortName := some " RAW".toList
    resolution := some "1280x720".toList }
  series := some untitledSample

theorem fallback_spec_fallbackSample :
    (fallbackSample.series = some untitledSample ∧
      ShowsFirst (· ≠ []) untitledSample.mainTitles (mainTitle.render {} fallbackSample)) ∧
    (groupShort ∈ [groupShort, groupLong] ∧
      (groupShort.render {} fallbackSample = [] ∨ NamesGroup (groupShort.render {} fallbackSample))) ∧
    groupLong.render {} fallbackSample.swapNames = groupShort.render {} fallbackSample := by
  have hmem : groupShort ∈ [groupShort, groupLong] := List.mem_cons_self
  obtain ⟨htitle, -, -, hgroup, ⟨-, hswap⟩, -⟩ := fallback_spec {} fallbackSample
  exact ⟨⟨rfl, (htitle _ rfl).1⟩, ⟨hmem, hgroup _ hmem⟩, hswap⟩

example : mainTitle.render {} fallbackSample = "学園黙示録".toList ∧
    groupShort.render {} fallbackSample = "Rawr Subs".toList ∧
    resolution.render {} fallbackSample = "1280x720".toList := by decide

end Placeholder

end MediaNaming
