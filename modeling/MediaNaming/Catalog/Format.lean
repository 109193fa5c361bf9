import MediaNaming.Catalog.Bundle
import MediaNaming.Json.Basic

/-!
The JSON form of a bundle. Writing names every field. Reading accepts the fields in any order,
passes over those it does not know and takes the default for those that may be left out, but refuses
a record that gives a field it knows more than once. A record may also be written as the array of
its values in their order.
-/

namespace MediaNaming

namespace Json

/-- The values of a record under its keys, in the order of the keys, none of which may stand more
than once. As an array the record must give at least the first `least` of them and no more than
there are keys. -/
def values? (keys : List String) (least : Nat) : Json → Option (List (Option Json))
  | .object fields => keys.mapM (onlyField? fields)
  | .array items =>
    if least ≤ items.length ∧ items.length ≤ keys.length then
      some (items.map some ++ List.replicate (keys.length - items.length) none)
    else none
  | _ => none

/-- A value that must be given. -/
def required? {α : Type} (value? : Json → Option α) (j : Option Json) : Option α :=
  j.bind value?

/-- A value that stands for `absent` if it is not given. -/
def orElse? {α : Type} (value? : Json → Option α) (absent : α) : Option Json → Option α
  | none => some absent
  | some j => value? j

/-- A value that may be missing or `null`. -/
def nullable? {α : Type} (value? : Json → Option α) : Option Json → Option (Option α) :=
  orElse? (optional? value?) none

/-- The spelling of a member of a vocabulary: a text, or the one key of an object over `null`. -/
def spelling? : Json → Option Text
  | .text t => some t
  | .object [(t, .null)] => some t
  | _ => none

end Json

open Json

def EpisodeKind.ofJson? (j : Json) : Option EpisodeKind := (spelling? j).bind ofSpelling?

def SeriesKind.ofJson? (j : Json) : Option SeriesKind := (spelling? j).bind ofSpelling?

def TitleLanguage.ofJson? (j : Json) : Option TitleLanguage := (spelling? j).map ofSpelling

def TitleRank.ofJson? (j : Json) : Option TitleRank := (spelling? j).map ofSpelling

namespace MediaFile

def keys : List String := ["file_name", "ed2k", "crc32", "size", "resolution", "bit_depth"]

def toJson (f : MediaFile) : Json :=
  .ofFields (keys.zip [.text f.name, .text f.ed2k, ofOption .text f.crc32,
    .ofNat f.size.toNat, ofOption .text f.resolution,
    ofOption (fun d => .ofNat d.toNat) f.bitDepth])

def ofJson? (j : Json) : Option MediaFile := do
  match ← values? keys 6 j with
  | [name, ed2k, crc32, size, resolution, bitDepth] =>
    return {
      name := ← required? text? name
      ed2k := ← required? text? ed2k
      crc32 := ← nullable? text? crc32
      size := ← required? uint64? size
      resolution := ← nullable? text? resolution
      bitDepth := ← nullable? uint32? bitDepth }
  | _ => none

end MediaFile

namespace Release

def keys : List String := ["file_id", "group_id", "group_name", "group_short_name", "version",
  "audio_languages", "subtitle_languages", "video_codec", "audio_codecs", "source", "resolution",
  "is_censored", "is_deprecated", "original_file_name"]

def toJson (r : Release) : Json :=
  .ofFields (keys.zip [.ofNat r.id.toNat, ofOption (fun g => .ofNat g.toNat) r.groupId,
    ofOption .text r.groupName, ofOption .text r.groupShortName, .ofNat r.version.toNat,
    .array (r.audioLanguages.map .text), .array (r.subtitleLanguages.map .text),
    ofOption .text r.videoCodec, .array (r.audioCodecs.map .text), ofOption .text r.source,
    ofOption .text r.resolution, ofOption .bool r.censored, .bool r.deprecated,
    ofOption .text r.publishedName])

def ofJson? (j : Json) : Option Release := do
  match ← values? keys 0 j with
  | [id, groupId, groupName, groupShortName, version, audioLanguages, subtitleLanguages,
      videoCodec, audioCodecs, source, resolution, censored, deprecated, publishedName] =>
    return {
      id := ← orElse? uint64? 0 id
      groupId := ← nullable? uint32? groupId
      groupName := ← nullable? text? groupName
      groupShortName := ← nullable? text? groupShortName
      version := ← orElse? uint32? 0 version
      audioLanguages := ← orElse? (list? text?) [] audioLanguages
      subtitleLanguages := ← orElse? (list? text?) [] subtitleLanguages
      videoCodec := ← nullable? text? videoCodec
      audioCodecs := ← orElse? (list? text?) [] audioCodecs
      source := ← nullable? text? source
      resolution := ← nullable? text? resolution
      censored := ← nullable? bool? censored
      deprecated := ← orElse? bool? false deprecated
      publishedName := ← nullable? text? publishedName }
  | _ => none

end Release

namespace EpisodeTitle

def keys : List String := ["language", "title"]

def toJson (t : EpisodeTitle) : Json :=
  .ofFields (keys.zip [.ofString t.language.spelling, .text t.title])

def ofJson? (j : Json) : Option EpisodeTitle := do
  match ← values? keys 2 j with
  | [language, title] =>
    return {
      language := ← required? TitleLanguage.ofJson? language
      title := ← required? text? title }
  | _ => none

end EpisodeTitle

namespace Episode

def keys : List String := ["episode_id", "series_id", "number", "kind", "titles"]

def toJson (e : Episode) : Json :=
  .ofFields (keys.zip [.ofNat e.id.toNat, .ofNat e.seriesId.toNat, .ofNat e.number.toNat,
    .ofString e.kind.spelling, .array (e.titles.map EpisodeTitle.toJson)])

def ofJson? (j : Json) : Option Episode := do
  match ← values? keys 4 j with
  | [id, seriesId, number, kind, titles] =>
    return {
      id := ← required? uint64? id
      seriesId := ← required? uint64? seriesId
      number := ← required? uint32? number
      kind := ← required? EpisodeKind.ofJson? kind
      titles := ← orElse? (list? EpisodeTitle.ofJson?) [] titles }
  | _ => none

end Episode

namespace SeriesTitle

def keys : List String := ["language", "kind", "title"]

def toJson (t : SeriesTitle) : Json :=
  .ofFields (keys.zip [.ofString t.language.spelling, .ofString t.rank.spelling, .text t.title])

def ofJson? (j : Json) : Option SeriesTitle := do
  match ← values? keys 3 j with
  | [language, rank, title] =>
    return {
      language := ← required? TitleLanguage.ofJson? language
      rank := ← required? TitleRank.ofJson? rank
      title := ← required? text? title }
  | _ => none

end SeriesTitle

namespace Series

def keys : List String := ["series_id", "main_title", "begin_year", "episode_count_normal",
  "episode_count_special", "kind", "titles"]

def toJson (s : Series) : Json :=
  .ofFields (keys.zip [.ofNat s.id.toNat, .text s.mainTitle,
    ofOption (fun y => .int y.toInt) s.beginYear, .ofNat s.normalCount.toNat,
    .ofNat s.specialCount.toNat, ofOption (fun k => .ofString k.spelling) s.kind,
    .array (s.titles.map SeriesTitle.toJson)])

def ofJson? (j : Json) : Option Series := do
  match ← values? keys 0 j with
  | [id, mainTitle, beginYear, normalCount, specialCount, kind, titles] =>
    return {
      id := ← orElse? uint64? 0 id
      mainTitle := ← orElse? text? [] mainTitle
      beginYear := ← nullable? int32? beginYear
      normalCount := ← orElse? uint32? 0 normalCount
      specialCount := ← orElse? uint32? 0 specialCount
      kind := ← nullable? SeriesKind.ofJson? kind
      titles := ← orElse? (list? SeriesTitle.ofJson?) [] titles }
  | _ => none

end Series

namespace Bundle

def keys : List String := ["file", "release", "episodes", "series"]

def toJson (b : Bundle) : Json :=
  .ofFields (keys.zip [b.file.toJson, ofOption Release.toJson b.release,
    .array (b.episodes.map Episode.toJson), ofOption Series.toJson b.series])

def ofJson? (j : Json) : Option Bundle := do
  match ← values? keys 1 j with
  | [file, release, episodes, series] =>
    return {
      file := ← required? MediaFile.ofJson? file
      release := ← nullable? Release.ofJson? release
      episodes := ← orElse? (list? Episode.ofJson?) [] episodes
      series := ← nullable? Series.ofJson? series }
  | _ => none

end Bundle

end MediaNaming
