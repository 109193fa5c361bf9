import MediaNaming.Naming

/-!
What of a bundle a script can see. The name and the size of the file are out of its sight, and of
the episodes it sees the first one and, where there are several, the number of the last. Bundles
that look the same give the same answers to every test, fill every placeholder alike, and so lead
to the same name or the same failure.
-/

namespace MediaNaming

namespace Bundle

/-- The number with which a span of episodes ends. -/
def spanEnd? (b : Bundle) : Option UInt32 := b.episodes.tail.getLast?.map (·.number)

/-- The two bundles look the same to every script. -/
structure SameView (b b' : Bundle) : Prop where
  release : b.release = b'.release
  series : b.series = b'.series
  ed2k : b.file.ed2k = b'.file.ed2k
  crc32 : b.file.crc32 = b'.file.crc32
  resolution : b.file.resolution = b'.file.resolution
  bitDepth : b.file.bitDepth = b'.file.bitDepth
  firstEpisode? : b.firstEpisode? = b'.firstEpisode?
  spanEnd? : b.spanEnd? = b'.spanEnd?

/-- The bundle with another name for its file. -/
def withName (b : Bundle) (name : Text) : Bundle := { b with file := { b.file with name } }

theorem sameView_withName (b : Bundle) (name : Text) : (b.withName name).SameView b :=
  ⟨rfl, rfl, rfl, rfl, rfl, rfl, rfl, rfl⟩

namespace SameView

variable {b b' : Bundle}

/-! ### Derived data -/

theorem isEmpty_episodes (h : b.SameView b') : b.episodes.isEmpty = b'.episodes.isEmpty := by
  have hfirst := h.firstEpisode?
  simp only [Bundle.firstEpisode?] at hfirst
  cases hb : b.episodes <;> cases hb' : b'.episodes <;> simp_all

theorem hasEpisode (h : b.SameView b') : b.hasEpisode = b'.hasEpisode := by
  rw [Bundle.hasEpisode, Bundle.hasEpisode, h.isEmpty_episodes]

theorem link (h : b.SameView b') : b.link = b'.link := by
  rw [Bundle.link, Bundle.link, h.release, h.isEmpty_episodes]

theorem isManual (h : b.SameView b') : b.isManual = b'.isManual := by
  rw [Bundle.isManual, Bundle.isManual, h.link]

theorem seriesId? (h : b.SameView b') : b.seriesId? = b'.seriesId? := by
  rw [Bundle.seriesId?, Bundle.seriesId?, h.series, h.firstEpisode?]

theorem resolutionText? (h : b.SameView b') : b.resolutionText? = b'.resolutionText? := by
  rw [Bundle.resolutionText?, Bundle.resolutionText?, h.resolution, h.release]

theorem frameSize? (h : b.SameView b') : b.frameSize? = b'.frameSize? := by
  rw [Bundle.frameSize?, Bundle.frameSize?, h.resolutionText?]

theorem count (h : b.SameView b') (kind : EpisodeKind) : b.count kind = b'.count kind := by
  unfold Bundle.count
  rw [h.series]

theorem episodeTitle? (h : b.SameView b') (s : Settings) (language : TitleLanguage) :
    b.episodeTitle? s language = b'.episodeTitle? s language := by
  rw [Bundle.episodeTitle?, Bundle.episodeTitle?, h.firstEpisode?]

/-- The span reads the first episode and the number of the last, but no other. -/
theorem episodeNumber? (h : b.SameView b') : b.episodeNumber? = b'.episodeNumber? := by
  have hfirst := h.firstEpisode?
  have hend := h.spanEnd?
  simp only [Bundle.firstEpisode?, Bundle.spanEnd?] at hfirst hend
  simp only [Bundle.episodeNumber?, h.count]
  cases hb : b.episodes with
  | nil =>
      cases hb' : b'.episodes with
      | nil => rfl
      | cons first' others' => simp [hb, hb'] at hfirst
  | cons first others =>
      cases hb' : b'.episodes with
      | nil => simp [hb, hb'] at hfirst
      | cons first' others' =>
          simp only [hb, hb', List.head?_cons, Option.some.injEq, List.tail_cons] at hfirst hend
          subst hfirst
          cases ho : others.getLast? <;> cases ho' : others'.getLast? <;> simp_all

/-! ### Placeholders and tests -/

theorem value? (h : b.SameView b') (p : Placeholder) (s : Settings) :
    p.value? s b = p.value? s b' := by
  cases p <;> simp only [Placeholder.value?, h.release, h.series, h.ed2k, h.crc32, h.bitDepth,
    h.firstEpisode?, h.seriesId?, h.resolutionText?, h.count, h.episodeTitle?, h.episodeNumber?]

theorem render (h : b.SameView b') (t : Template) (s : Settings) :
    t.render s b = t.render s b' := by
  rw [Template.render, Template.render]
  congr 1
  funext piece
  cases piece with
  | literal t => rfl
  | placeholder p => simp only [Piece.render, Placeholder.render, h.value?]

theorem isFound (h : b.SameView b') (p : Placeholder) : p.isFound b = p.isFound b' := by
  cases p <;> simp only [Placeholder.isFound, Placeholder.isShown, h.release, h.value?]

theorem figure (h : b.SameView b') (f : Figure) : f.value b = f.value b' := by
  cases f <;> simp only [Figure.value, h.seriesId?, h.release, h.firstEpisode?, h.series,
    h.bitDepth, h.frameSize?]

theorem wording (h : b.SameView b') (w : Wording) : w.value b = w.value b' := by
  cases w <;> simp only [Wording.value, h.release, h.firstEpisode?, h.series]

theorem listing (h : b.SameView b') (l : Listing) : l.items b = l.items b' := by
  rw [Listing.items, Listing.items, h.release]

theorem ask (h : b.SameView b') (k : Criterion) (parameter : Text) :
    k.ask parameter b = k.ask parameter b' := by
  cases k <;> simp only [Criterion.ask, Figure.ask, h.figure, h.wording, h.listing, h.isFound,
    h.isManual, h.hasEpisode, h.release]

/-! ### Statements and scripts -/

theorem test_holds (h : b.SameView b') (t : Test) : t.holds b = t.holds b' := by
  simp only [Test.holds, Criterion.holds, h.ask]

theorem guard_holds (h : b.SameView b') (g : Guard) : g.holds b = g.holds b' := by
  simp only [Guard.holds, h.test_holds]

theorem isActive (h : b.SameView b') (st : Statement) : st.isActive b = st.isActive b' := by
  unfold Statement.isActive
  simp only [h.guard_holds]

theorem perform? (h : b.SameView b') (s : Settings) (name : Text) (step : Step) :
    step.perform? s b name = step.perform? s b' name := by
  cases step with
  | append t => simp only [Step.perform?, h.render]
  | replace o old new => rfl
  | reject => rfl

theorem statement_run (h : b.SameView b') (s : Settings) (name : Text) (st : Numbered Statement) :
    Numbered.run s b name st = Numbered.run s b' name st := by
  rw [Numbered.run, Numbered.run, h.isActive, h.perform?]

theorem build (h : b.SameView b') (script : Script) (s : Settings) :
    script.build s b = script.build s b' := by
  have hrun : Numbered.run s b = Numbered.run s b' := by
    funext name st
    exact h.statement_run s name st
  rw [Script.build, Script.build, hrun]

/-- Bundles that look the same and whose files have the same extension lead to the same outcome. -/
theorem run (h : b.SameView b') (hext : b.file.extension = b'.file.extension) (script : Script)
    (s : Settings) : script.run s b = script.run s b' := by
  rw [Script.run, Script.run, h.hasEpisode, h.series, hext, h.build]

end SameView

/-! ### Spans of episodes -/

/-- Lists of episodes that no script can tell apart. Where there are several, those between the
first and the last are free, and so is all of the last but its number. -/
inductive SameSpan : List Episode → List Episode → Prop
  | none : SameSpan [] []
  | one (e : Episode) : SameSpan [e] [e]
  | several (first : Episode) (between between' : List Episode) {last last' : Episode}
      (hnumber : last.number = last'.number) :
      SameSpan (first :: (between ++ [last])) (first :: (between' ++ [last']))

theorem SameSpan.head?_eq {es es' : List Episode} (h : SameSpan es es') : es.head? = es'.head? := by
  cases h with
  | none => rfl
  | one e => rfl
  | several first between between' hnumber => rfl

theorem SameSpan.number_eq {es es' : List Episode} (h : SameSpan es es') :
    es.tail.getLast?.map (·.number) = es'.tail.getLast?.map (·.number) := by
  cases h with
  | none => rfl
  | one e => rfl
  | several first between between' hnumber =>
      rw [List.tail_cons, List.tail_cons, List.getLast?_concat, List.getLast?_concat,
        Option.map_some, Option.map_some, hnumber]

end Bundle

namespace Script

/-- Names and failures depend on no more than this: of the file its checksums, its picture and its
extension, and of the episodes the first one and the number of the last. -/
theorem run_eq_of_sameSpan (script : Script) (s : Settings) {b b' : Bundle}
    (hrelease : b.release = b'.release) (hseries : b.series = b'.series)
    (hed2k : b.file.ed2k = b'.file.ed2k) (hcrc32 : b.file.crc32 = b'.file.crc32)
    (hresolution : b.file.resolution = b'.file.resolution)
    (hbitDepth : b.file.bitDepth = b'.file.bitDepth)
    (hext : b.file.extension = b'.file.extension)
    (hepisodes : Bundle.SameSpan b.episodes b'.episodes) : script.run s b = script.run s b' := by
  have hview : b.SameView b' :=
    { release := hrelease
      series := hseries
      ed2k := hed2k
      crc32 := hcrc32
      resolution := hresolution
      bitDepth := hbitDepth
      firstEpisode? := hepisodes.head?_eq
      spanEnd? := hepisodes.number_eq }
  exact hview.run hext script s

/-- A file with three episodes of a series. -/
def spanSample : Bundle where
  file := { name := "old.name.mkv".toList, ed2k := "abc".toList, size := 1 }
  episodes := [⟨5, 1, 7, .normal, []⟩, ⟨6, 1, 8, .normal, []⟩, ⟨7, 1, 9, .normal, []⟩]
  series := some { id := 1, mainTitle := "Show".toList, normalCount := 12 }

/-- Another file that spans the same numbers with two episodes, the last of which is a trailer. -/
def spanTwin : Bundle where
  file := { name := "x.mkv".toList, ed2k := "abc".toList, size := 2 }
  episodes := [⟨5, 1, 7, .normal, []⟩, ⟨90, 1, 9, .trailer, [⟨.english, "T".toList⟩]⟩]
  series := some { id := 1, mainTitle := "Show".toList, normalCount := 12 }

theorem sameSpan_spanSample : Bundle.SameSpan spanSample.episodes spanTwin.episodes :=
  .several _ [⟨6, 1, 8, .normal, []⟩] [] rfl

theorem run_eq_of_sameSpan_spanSample :
    spanSample.release = spanTwin.release ∧ spanSample.series = spanTwin.series ∧
      spanSample.file.ed2k = spanTwin.file.ed2k ∧ spanSample.file.crc32 = spanTwin.file.crc32 ∧
      spanSample.file.resolution = spanTwin.file.resolution ∧
      spanSample.file.bitDepth = spanTwin.file.bitDepth ∧
      spanSample.file.extension = spanTwin.file.extension ∧
      Bundle.SameSpan spanSample.episodes spanTwin.episodes ∧
      (ofText "DO ADD '%ann - %enr'".toList).run {} spanSample =
        (ofText "DO ADD '%ann - %enr'".toList).run {} spanTwin :=
  ⟨rfl, rfl, rfl, rfl, rfl, rfl, rfl, sameSpan_spanSample,
    run_eq_of_sameSpan _ _ rfl rfl rfl rfl rfl rfl rfl sameSpan_spanSample⟩

end Script

end MediaNaming
