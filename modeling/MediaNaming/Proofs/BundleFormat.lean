import MediaNaming.Proofs.JsonText
import MediaNaming.Proofs.Rewriting

/-!
The ways to write a bundle. For each record it is told which fields must be given and which may be
left out, and with which value then. Whatever way a bundle is written in is read as that bundle, and
its own JSON form, as a text, is one of the ways.
-/

namespace MediaNaming

open Json

/-! ### Vocabularies -/

theorem EpisodeKind.recovers :
    Recovers (fun k => .ofString (EpisodeKind.spelling k)) Eq EpisodeKind.ofJson? :=
  .of_eq fun k => by cases k <;> rfl

theorem SeriesKind.recovers :
    Recovers (fun k => .ofString (SeriesKind.spelling k)) Eq SeriesKind.ofJson? :=
  .of_eq fun k => by cases k <;> rfl

/-- The other ways to write a language. -/
def TitleLanguage.Respelled : Rewriting :=
  Json.Respelled (all.map spelling) TitleLanguage.other.spelling

theorem TitleLanguage.recovers :
    Recovers (fun l => .ofString (TitleLanguage.spelling l)) Respelled ofJson? :=
  recovers_orOther (fun _ => rfl) (fun l => by cases l <;> rfl)
    (fun l => by cases l <;> decide)

/-- The other ways to write a rank. -/
def TitleRank.Respelled : Rewriting :=
  Json.Respelled (all.map spelling) TitleRank.other.spelling

theorem TitleRank.recovers :
    Recovers (fun r => .ofString (TitleRank.spelling r)) Respelled ofJson? :=
  recovers_orOther (fun _ => rfl) (fun r => by cases r <;> rfl)
    (fun r => by cases r <;> decide)

/-! ### Records -/

namespace MediaFile

/-- The fields of a file. -/
def forms : List FieldForm :=
  [.required "file_name" Eq, .required "ed2k" Eq, .nullable "crc32" Eq, .required "size" Eq,
    .nullable "resolution" Eq, .nullable "bit_depth" Eq]

theorem recovers : Recovers toJson (RecordRewritten forms) ofJson? := by
  constructor
  · intro f
    refine .refl rfl ?_
    simp only [forms, keys, List.zip_cons_cons, List.zip_nil_right, List.forall₂_cons]
    exact ⟨rfl, rfl, (recovers_text.orNull rfl).refl _, rfl, (recovers_text.orNull rfl).refl _,
      (recovers_uint32.orNull rfl).refl _, .nil⟩
  · intro f j h
    obtain ⟨written, hvalues, hfound⟩ := h.found keys rfl (by decide) _
    simp only [forms, keys, List.zip_cons_cons, List.zip_nil_right, List.forall₂_cons,
      FieldForm.required_key, FieldForm.nullable_key] at hfound
    obtain ⟨hname, hed2k, hcrc32, hsize, hresolution, hbitDepth, -⟩ := hfound
    refine bind_of_eq_some hvalues ?_
    dsimp only [keys, List.map_cons, List.map_nil]
    refine bind_of_eq_some (recovers_text.required hname) ?_
    refine bind_of_eq_some (recovers_text.required hed2k) ?_
    refine bind_of_eq_some (recovers_text.nullable rfl hcrc32) ?_
    refine bind_of_eq_some (recovers_uint64.required hsize) ?_
    refine bind_of_eq_some (recovers_text.nullable rfl hresolution) ?_
    refine bind_of_eq_some (recovers_uint32.nullable rfl hbitDepth) ?_
    rfl

theorem writable_toJson {depth : Nat} (hdepth : depth < maxDepth) (f : MediaFile) :
    Writable depth f.toJson := by
  refine writable_ofFields (by omega) ?_
  simp only [keys, List.zip_cons_cons, List.zip_nil_right, List.forall_mem_cons]
  exact ⟨.text _, .text _, writable_ofOption .text _, writable_uint64 _ _,
    writable_ofOption .text _, writable_ofOption (writable_uint32 _) _, nofun⟩

end MediaFile

namespace Release

/-- The fields of a release. -/
def forms : List FieldForm :=
  [.optional "file_id" Eq (.ofNat 0), .nullable "group_id" Eq, .nullable "group_name" Eq,
    .nullable "group_short_name" Eq, .optional "version" Eq (.ofNat 0),
    .optional "audio_languages" (ItemsRewritten Eq) (.array []),
    .optional "subtitle_languages" (ItemsRewritten Eq) (.array []), .nullable "video_codec" Eq,
    .optional "audio_codecs" (ItemsRewritten Eq) (.array []), .nullable "source" Eq,
    .nullable "resolution" Eq, .nullable "is_censored" Eq,
    .optional "is_deprecated" Eq (.bool false), .nullable "original_file_name" Eq]

theorem recovers : Recovers toJson (RecordRewritten forms) ofJson? := by
  have hnullable : Recovers _ (OrNull Eq) (optional? text?) := recovers_text.orNull rfl
  constructor
  · intro r
    refine .refl rfl ?_
    simp only [forms, keys, List.zip_cons_cons, List.zip_nil_right, List.forall₂_cons]
    exact ⟨rfl, (recovers_uint32.orNull rfl).refl _, hnullable.refl _, hnullable.refl _, rfl,
      recovers_text.list.refl _, recovers_text.list.refl _, hnullable.refl _,
      recovers_text.list.refl _, hnullable.refl _, hnullable.refl _,
      (recovers_bool.orNull rfl).refl _, rfl, hnullable.refl _, .nil⟩
  · intro r j h
    obtain ⟨written, hvalues, hfound⟩ := h.found keys rfl (by decide) _
    simp only [forms, keys, List.zip_cons_cons, List.zip_nil_right, List.forall₂_cons,
      FieldForm.optional_key, FieldForm.nullable_key] at hfound
    obtain ⟨hid, hgroupId, hgroupName, hgroupShortName, hversion, haudio, hsubtitles, hvideo,
      hcodecs, hsource, hresolution, hcensored, hdeprecated, hpublished, -⟩ := hfound
    refine bind_of_eq_some hvalues ?_
    dsimp only [keys, List.map_cons, List.map_nil]
    refine bind_of_eq_some (recovers_uint64.optional (d := 0) hid) ?_
    refine bind_of_eq_some (recovers_uint32.nullable rfl hgroupId) ?_
    refine bind_of_eq_some (recovers_text.nullable rfl hgroupName) ?_
    refine bind_of_eq_some (recovers_text.nullable rfl hgroupShortName) ?_
    refine bind_of_eq_some (recovers_uint32.optional (d := 0) hversion) ?_
    refine bind_of_eq_some (recovers_text.list.optional (d := []) haudio) ?_
    refine bind_of_eq_some (recovers_text.list.optional (d := []) hsubtitles) ?_
    refine bind_of_eq_some (recovers_text.nullable rfl hvideo) ?_
    refine bind_of_eq_some (recovers_text.list.optional (d := []) hcodecs) ?_
    refine bind_of_eq_some (recovers_text.nullable rfl hsource) ?_
    refine bind_of_eq_some (recovers_text.nullable rfl hresolution) ?_
    refine bind_of_eq_some (recovers_bool.nullable rfl hcensored) ?_
    refine bind_of_eq_some (recovers_bool.optional (d := false) hdeprecated) ?_
    refine bind_of_eq_some (recovers_text.nullable rfl hpublished) ?_
    rfl

theorem writable_toJson {depth : Nat} (hdepth : depth + 1 < maxDepth) (r : Release) :
    Writable depth r.toJson := by
  refine writable_ofFields (by omega) ?_
  simp only [keys, List.zip_cons_cons, List.zip_nil_right, List.forall_mem_cons]
  exact ⟨writable_uint64 _ _, writable_ofOption (writable_uint32 _) _, writable_ofOption .text _,
    writable_ofOption .text _, writable_uint32 _ _, writable_list (by omega) .text _,
    writable_list (by omega) .text _, writable_ofOption .text _, writable_list (by omega) .text _,
    writable_ofOption .text _, writable_ofOption .text _, writable_ofOption (writable_bool _) _,
    writable_bool _ _, writable_ofOption .text _, nofun⟩

end Release

namespace EpisodeTitle

/-- The fields of an episode title. -/
def forms : List FieldForm :=
  [.required "language" TitleLanguage.Respelled, .required "title" Eq]

theorem recovers : Recovers toJson (RecordRewritten forms) ofJson? := by
  constructor
  · intro t
    refine .refl rfl ?_
    simp only [forms, keys, List.zip_cons_cons, List.zip_nil_right, List.forall₂_cons]
    exact ⟨TitleLanguage.recovers.refl _, rfl, .nil⟩
  · intro t j h
    obtain ⟨written, hvalues, hfound⟩ := h.found keys rfl (by decide) _
    simp only [forms, keys, List.zip_cons_cons, List.zip_nil_right, List.forall₂_cons,
      FieldForm.required_key] at hfound
    obtain ⟨hlanguage, htitle, -⟩ := hfound
    refine bind_of_eq_some hvalues ?_
    dsimp only [keys, List.map_cons, List.map_nil]
    refine bind_of_eq_some (TitleLanguage.recovers.required hlanguage) ?_
    refine bind_of_eq_some (recovers_text.required htitle) ?_
    rfl

theorem writable_toJson {depth : Nat} (hdepth : depth < maxDepth) (t : EpisodeTitle) :
    Writable depth t.toJson := by
  refine writable_ofFields (by omega) ?_
  simp only [keys, List.zip_cons_cons, List.zip_nil_right, List.forall_mem_cons]
  exact ⟨.text _, .text _, nofun⟩

end EpisodeTitle

namespace Episode

/-- The fields of an episode. -/
def forms : List FieldForm :=
  [.required "episode_id" Eq, .required "series_id" Eq, .required "number" Eq,
    .required "kind" Eq,
    .optional "titles" (ItemsRewritten (RecordRewritten EpisodeTitle.forms)) (.array [])]

theorem recovers : Recovers toJson (RecordRewritten forms) ofJson? := by
  constructor
  · intro e
    refine .refl rfl ?_
    simp only [forms, keys, List.zip_cons_cons, List.zip_nil_right, List.forall₂_cons]
    exact ⟨rfl, rfl, rfl, rfl, EpisodeTitle.recovers.list.refl _, .nil⟩
  · intro e j h
    obtain ⟨written, hvalues, hfound⟩ := h.found keys rfl (by decide) _
    simp only [forms, keys, List.zip_cons_cons, List.zip_nil_right, List.forall₂_cons,
      FieldForm.required_key, FieldForm.optional_key] at hfound
    obtain ⟨hid, hseriesId, hnumber, hkind, htitles, -⟩ := hfound
    refine bind_of_eq_some hvalues ?_
    dsimp only [keys, List.map_cons, List.map_nil]
    refine bind_of_eq_some (recovers_uint64.required hid) ?_
    refine bind_of_eq_some (recovers_uint64.required hseriesId) ?_
    refine bind_of_eq_some (recovers_uint32.required hnumber) ?_
    refine bind_of_eq_some (EpisodeKind.recovers.required hkind) ?_
    refine bind_of_eq_some (EpisodeTitle.recovers.list.optional (d := []) htitles) ?_
    rfl

theorem writable_toJson {depth : Nat} (hdepth : depth + 2 < maxDepth) (e : Episode) :
    Writable depth e.toJson := by
  refine writable_ofFields (by omega) ?_
  simp only [keys, List.zip_cons_cons, List.zip_nil_right, List.forall_mem_cons]
  exact ⟨writable_uint64 _ _, writable_uint64 _ _, writable_uint32 _ _, .text _,
    writable_list (by omega) (EpisodeTitle.writable_toJson (by omega)) _, nofun⟩

end Episode

namespace SeriesTitle

/-- The fields of a series title. -/
def forms : List FieldForm :=
  [.required "language" TitleLanguage.Respelled, .required "kind" TitleRank.Respelled,
    .required "title" Eq]

theorem recovers : Recovers toJson (RecordRewritten forms) ofJson? := by
  constructor
  · intro t
    refine .refl rfl ?_
    simp only [forms, keys, List.zip_cons_cons, List.zip_nil_right, List.forall₂_cons]
    exact ⟨TitleLanguage.recovers.refl _, TitleRank.recovers.refl _, rfl, .nil⟩
  · intro t j h
    obtain ⟨written, hvalues, hfound⟩ := h.found keys rfl (by decide) _
    simp only [forms, keys, List.zip_cons_cons, List.zip_nil_right, List.forall₂_cons,
      FieldForm.required_key] at hfound
    obtain ⟨hlanguage, hrank, htitle, -⟩ := hfound
    refine bind_of_eq_some hvalues ?_
    dsimp only [keys, List.map_cons, List.map_nil]
    refine bind_of_eq_some (TitleLanguage.recovers.required hlanguage) ?_
    refine bind_of_eq_some (TitleRank.recovers.required hrank) ?_
    refine bind_of_eq_some (recovers_text.required htitle) ?_
    rfl

theorem writable_toJson {depth : Nat} (hdepth : depth < maxDepth) (t : SeriesTitle) :
    Writable depth t.toJson := by
  refine writable_ofFields (by omega) ?_
  simp only [keys, List.zip_cons_cons, List.zip_nil_right, List.forall_mem_cons]
  exact ⟨.text _, .text _, .text _, nofun⟩

end SeriesTitle

namespace Series

/-- The fields of a series. -/
def forms : List FieldForm :=
  [.optional "series_id" Eq (.ofNat 0), .optional "main_title" Eq (.text []),
    .nullable "begin_year" Eq, .optional "episode_count_normal" Eq (.ofNat 0),
    .optional "episode_count_special" Eq (.ofNat 0), .nullable "kind" Eq,
    .optional "titles" (ItemsRewritten (RecordRewritten SeriesTitle.forms)) (.array [])]

theorem recovers : Recovers toJson (RecordRewritten forms) ofJson? := by
  constructor
  · intro s
    refine .refl rfl ?_
    simp only [forms, keys, List.zip_cons_cons, List.zip_nil_right, List.forall₂_cons]
    exact ⟨rfl, rfl, (recovers_int32.orNull rfl).refl _, rfl, rfl,
      (SeriesKind.recovers.orNull rfl).refl _, SeriesTitle.recovers.list.refl _, .nil⟩
  · intro s j h
    obtain ⟨written, hvalues, hfound⟩ := h.found keys rfl (by decide) _
    simp only [forms, keys, List.zip_cons_cons, List.zip_nil_right, List.forall₂_cons,
      FieldForm.optional_key, FieldForm.nullable_key] at hfound
    obtain ⟨hid, hmainTitle, hbeginYear, hnormal, hspecial, hkind, htitles, -⟩ := hfound
    refine bind_of_eq_some hvalues ?_
    dsimp only [keys, List.map_cons, List.map_nil]
    refine bind_of_eq_some (recovers_uint64.optional (d := 0) hid) ?_
    refine bind_of_eq_some (recovers_text.optional (d := []) hmainTitle) ?_
    refine bind_of_eq_some (recovers_int32.nullable rfl hbeginYear) ?_
    refine bind_of_eq_some (recovers_uint32.optional (d := 0) hnormal) ?_
    refine bind_of_eq_some (recovers_uint32.optional (d := 0) hspecial) ?_
    refine bind_of_eq_some (SeriesKind.recovers.nullable rfl hkind) ?_
    refine bind_of_eq_some (SeriesTitle.recovers.list.optional (d := []) htitles) ?_
    rfl

theorem writable_toJson {depth : Nat} (hdepth : depth + 2 < maxDepth) (s : Series) :
    Writable depth s.toJson := by
  refine writable_ofFields (by omega) ?_
  simp only [keys, List.zip_cons_cons, List.zip_nil_right, List.forall_mem_cons]
  exact ⟨writable_uint64 _ _, .text _, writable_ofOption (writable_int32 _) _, writable_uint32 _ _,
    writable_uint32 _ _, writable_ofOption (fun _ => .text _) _,
    writable_list (by omega) (SeriesTitle.writable_toJson (by omega)) _, nofun⟩

end Series

namespace Bundle

/-- The fields of a bundle. -/
def forms : List FieldForm :=
  [.required "file" (RecordRewritten MediaFile.forms),
    .nullable "release" (RecordRewritten Release.forms),
    .optional "episodes" (ItemsRewritten (RecordRewritten Episode.forms)) (.array []),
    .nullable "series" (RecordRewritten Series.forms)]

theorem recovers : Recovers toJson (RecordRewritten forms) ofJson? := by
  constructor
  · intro b
    refine .refl rfl ?_
    simp only [forms, keys, List.zip_cons_cons, List.zip_nil_right, List.forall₂_cons]
    exact ⟨MediaFile.recovers.refl _, (Release.recovers.orNull rfl).refl _,
      Episode.recovers.list.refl _, (Series.recovers.orNull rfl).refl _, .nil⟩
  · intro b j h
    obtain ⟨written, hvalues, hfound⟩ := h.found keys rfl (by decide) _
    simp only [forms, keys, List.zip_cons_cons, List.zip_nil_right, List.forall₂_cons,
      FieldForm.required_key, FieldForm.optional_key, FieldForm.nullable_key] at hfound
    obtain ⟨hfile, hrelease, hepisodes, hseries, -⟩ := hfound
    refine bind_of_eq_some hvalues ?_
    dsimp only [keys, List.map_cons, List.map_nil]
    refine bind_of_eq_some (MediaFile.recovers.required hfile) ?_
    refine bind_of_eq_some (Release.recovers.nullable rfl hrelease) ?_
    refine bind_of_eq_some (Episode.recovers.list.optional (d := []) hepisodes) ?_
    refine bind_of_eq_some (Series.recovers.nullable rfl hseries) ?_
    rfl

theorem writable_toJson {depth : Nat} (hdepth : depth + 4 < maxDepth) (b : Bundle) :
    Writable depth b.toJson := by
  refine writable_ofFields (by omega) ?_
  simp only [keys, List.zip_cons_cons, List.zip_nil_right, List.forall_mem_cons]
  exact ⟨MediaFile.writable_toJson (by omega) _,
    writable_ofOption (Release.writable_toJson (by omega)) _,
    writable_list (by omega) (Episode.writable_toJson (by omega)) _,
    writable_ofOption (Series.writable_toJson (by omega)) _, nofun⟩

/-- A bundle is recovered from the text of its JSON form and from every other way to write it, and
a language or rank of a title that is not known is taken for one that is not told apart. -/
theorem recovered_of_rewritten :
    (∀ b : Bundle, (Json.ofText? b.toJson.toText).bind ofJson? = some b) ∧
    (∀ (b : Bundle) (j : Json), RecordRewritten forms b.toJson j →
      ofJson? j = some b ∧ (Writable 0 j → (Json.ofText? j.toText).bind ofJson? = some b)) ∧
    (∀ t : Text, (∀ l ∈ TitleLanguage.all, l.spelling.toList ≠ t) →
      TitleLanguage.ofJson? (.text t) = some .other) ∧
    (∀ t : Text, (∀ r ∈ TitleRank.all, r.spelling.toList ≠ t) →
      TitleRank.ofJson? (.text t) = some .other) ∧
    TitleLanguage.ofJson? (.ofString TitleLanguage.other.spelling) = some .other ∧
    TitleRank.ofJson? (.ofString TitleRank.other.spelling) = some .other := by
  have htext : ∀ (b : Bundle) (j : Json), RecordRewritten forms b.toJson j → Writable 0 j →
      (Json.ofText? j.toText).bind ofJson? = some b := by
    intro b j hj hwritable
    rw [ofText?_toText hwritable]
    exact recovers.read b j hj
  refine ⟨fun b => ?_, fun b j hj => ⟨recovers.read b j hj, htext b j hj⟩, ?_, ?_, rfl, rfl⟩
  · exact htext b b.toJson (recovers.refl b) (writable_toJson (by decide) b)
  · intro t ht
    refine TitleLanguage.recovers.read .other (.text t) (.other ?_)
    simpa using ht
  · intro t ht
    refine TitleRank.recovers.read .other (.text t) (.other ?_)
    simpa using ht

/-- A file with one episode, whose title is in a language that is not told apart. -/
def foreignSample : Bundle where
  file := { name := "a.mkv".toList, ed2k := "ab".toList, size := 1 }
  episodes := [⟨1, 2, 3, .special, [⟨.other, "Eins".toList⟩]⟩]

/-- Its episode with the fields of the title exchanged and the language named. -/
def foreignEpisode : Json :=
  .ofFields [("episode_id", .ofNat 1), ("series_id", .ofNat 2), ("number", .ofNat 3),
    ("kind", .ofString "special"),
    ("titles", .array [.ofFields [("title", .ofString "Eins"), ("language", .ofString "german")]])]

/-- The sample without its missing parts, after a field that is not known. -/
def foreignRewritten : Json :=
  .ofFields [("note", .bool true), ("file", foreignSample.file.toJson),
    ("episodes", .array [foreignEpisode])]

theorem recordRewritten_foreignSample :
    RecordRewritten forms foreignSample.toJson foreignRewritten := by
  have hlanguage : TitleLanguage.Respelled (.ofString "other") (.ofString "german") :=
    .other (by decide)
  have htitle : RecordRewritten EpisodeTitle.forms (EpisodeTitle.toJson ⟨.other, "Eins".toList⟩)
      (.ofFields [("title", .ofString "Eins"), ("language", .ofString "german")]) :=
    @RecordRewritten.intro _ _ _ [] _ (.keep hlanguage (.keep rfl .nil)) (by decide) (.swap _ _ _)
  have hepisode : RecordRewritten Episode.forms
      (Episode.toJson ⟨1, 2, 3, .special, [⟨.other, "Eins".toList⟩]⟩) foreignEpisode :=
    @RecordRewritten.intro _ _ _ [] _
      (.keep rfl (.keep rfl (.keep rfl (.keep rfl (.keep (.intro (.cons htitle .nil)) .nil)))))
      (by decide) (.refl _)
  exact @RecordRewritten.intro _ _ _ [("note".toList, .bool true)] _
    (.keep (MediaFile.recovers.refl foreignSample.file)
      (.drop rfl (.keep (.intro (.cons hepisode .nil)) (.drop rfl .nil))))
    (by decide) (List.perm_append_comm : ([_] ++ [_, _]).Perm ([_, _] ++ [_]))

theorem writable_foreignRewritten : Writable 0 foreignRewritten := by
  have htitle : Writable 4 (.ofFields [("title", .ofString "Eins"), ("language",
      .ofString "german")]) := by
    refine writable_ofFields (by decide) ?_
    simp only [List.forall_mem_cons]
    exact ⟨.text _, .text _, nofun⟩
  have hepisode : Writable 2 foreignEpisode := by
    refine writable_ofFields (by decide) ?_
    simp only [List.forall_mem_cons]
    exact ⟨writable_uint64 _ 1, writable_uint64 _ 2, writable_uint32 _ 3, .text _,
      .array (by decide) (List.forall_mem_singleton.2 htitle), nofun⟩
  refine writable_ofFields (by decide) ?_
  simp only [List.forall_mem_cons]
  exact ⟨writable_bool _ true, MediaFile.writable_toJson (by decide) _,
    .array (by decide) (List.forall_mem_singleton.2 hepisode), nofun⟩

theorem recovered_of_rewritten_foreignSample :
    RecordRewritten forms foreignSample.toJson foreignRewritten ∧ Writable 0 foreignRewritten ∧
      ofJson? foreignRewritten = some foreignSample ∧
      (Json.ofText? foreignRewritten.toText).bind ofJson? = some foreignSample ∧
      TitleLanguage.ofJson? (.ofString "german") = some .other := by
  obtain ⟨-, hrewritings, hlanguages, -⟩ := recovered_of_rewritten
  obtain ⟨hread, htext⟩ := hrewritings _ _ recordRewritten_foreignSample
  exact ⟨recordRewritten_foreignSample, writable_foreignRewritten, hread,
    htext writable_foreignRewritten, hlanguages _ (by decide)⟩

end Bundle

end MediaNaming
