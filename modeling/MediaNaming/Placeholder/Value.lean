import MediaNaming.Placeholder.Basic
import MediaNaming.Catalog.Bundle
import MediaNaming.FileName
import MediaNaming.Settings
import MediaNaming.Text.Case

/-!
What a placeholder stands for in a bundle. A datum that is missing has no value, which a template
shows as nothing.
-/

namespace MediaNaming

/-- The title itself if it has at most `max` characters, else its beginning and an ellipsis, `max`
characters in all. Zero means no limit. -/
def truncateTitle (max : Nat) (title : Text) : Text :=
  if max = 0 ∨ title.length ≤ max then title else title.take (max - 1) ++ ['…']

/-- The places that episode numbers take in a series of that many episodes. -/
def numberWidth (count : UInt32) : Nat := max 2 (Text.ofNat count.toNat).length

/-- A group name, unless it is blank or the catalog's word for having no group. -/
def knownGroup? (name : Option Text) : Option Text :=
  (Text.nonBlank? name).filter fun n => !Text.sameLetters n.trim "raw".toList

namespace Bundle

/-- The title of the first episode in a language, cut to the length that the settings allow. -/
def episodeTitle? (s : Settings) (b : Bundle) (language : TitleLanguage) : Option Text :=
  (b.firstEpisode?.bind (·.title? language)).map (truncateTitle s.maxTitleLength.toNat)

/-- The number of the first episode after the mark of its kind, and for several episodes the
number of the last one too. -/
def episodeNumber? (b : Bundle) : Option Text :=
  match b.episodes with
  | [] => none
  | first :: others =>
    let width := numberWidth (b.count first.kind)
    let span := match others.getLast? with
      | some last => '-' :: Text.ofNatPadded width last.number.toNat
      | none => []
    some (first.kind.mark ++ Text.ofNatPadded width first.number.toNat ++ span)

end Bundle

/-- The romaji title, or else any main title, or else the title of the record itself. -/
def Series.romajiTitle (s : Series) : Text :=
  ((s.officialTitle? .romaji).or s.anyMainTitle?).getD s.mainTitle

def Release.groupShort? (r : Release) : Option Text :=
  (knownGroup? r.groupShortName).or (knownGroup? r.groupName)

def Release.groupLong? (r : Release) : Option Text :=
  (knownGroup? r.groupName).or (knownGroup? r.groupShortName)

namespace Placeholder

/-- The text that a placeholder stands for. -/
def value? (p : Placeholder) (s : Settings) (b : Bundle) : Option Text :=
  match p with
  | .seriesId => b.seriesId?.map fun id => Text.ofNat id.toNat
  | .englishTitle => b.series.bind (·.officialTitle? .english)
  | .mainTitle => b.series.map (·.romajiTitle)
  | .kanjiTitle => b.series.bind (·.officialTitle? .japanese)
  | .episodeTitleEnglish => b.episodeTitle? s .english
  | .episodeTitleRomaji => b.episodeTitle? s .romaji
  | .episodeNumber => b.episodeNumber?
  | .episodeCount => b.firstEpisode?.map fun e => Text.ofNat (b.count e.kind).toNat
  | .dubLanguages => b.release.map fun r => List.intercalate [','] r.audioLanguages
  | .subtitleLanguages => b.release.map fun r => List.intercalate [','] r.subtitleLanguages
  | .videoCodec => b.release.bind (·.videoCodec)
  | .audioCodec => b.release.bind (·.audioCodecs.head?)
  | .bitDepth => b.file.bitDepth.map fun d => Text.ofNat d.toNat
  | .resolution => b.resolutionText?
  | .videoHeight => (b.resolutionText?.bind (Text.splitAt? 'x')).map fun (_, h) => h.trim
  | .source => b.release.bind (·.source)
  | .seriesKind => (b.series.bind (·.kind)).map (·.label.toList)
  | .beginYear => (b.series.bind (·.beginYear)).map fun y => Text.ofInt y.toInt
  | .groupShort => b.release.bind (·.groupShort?)
  | .groupLong => b.release.bind (·.groupLong?)
  | .groupId => (b.release.bind (·.groupId)).map fun id => Text.ofNat id.toNat
  | .ed2kUpper => (Text.nonBlank? (some b.file.ed2k)).map Text.upper
  | .ed2kLower => (Text.nonBlank? (some b.file.ed2k)).map Text.lower
  | .crcUpper => (Text.nonBlank? b.file.crc32).map Text.upper
  | .crcLower => (Text.nonBlank? b.file.crc32).map Text.lower
  | .version => b.release.map fun r => Text.ofNat r.version.toNat
  | .publishedName => b.release.bind (·.publishedStem?)
  | .censored => (b.release.bind (·.censored)).map fun c =>
    if c then "cen".toList else "unc".toList
  | .deprecated => b.release.map fun r => if r.deprecated then "DEPR".toList else "New".toList
  | .releaseId => b.release.map fun r => Text.ofNat r.id.toNat
  | .episodeId => b.firstEpisode?.map fun e => Text.ofNat e.id.toNat

/-- What a template shows for a placeholder. -/
def render (p : Placeholder) (s : Settings) (b : Bundle) : Text := (p.value? s b).getD []

/-- Whether a placeholder shows anything. -/
def isShown (p : Placeholder) (s : Settings) (b : Bundle) : Bool := (p.value? s b).any (· ≠ [])

end Placeholder

end MediaNaming
