import MediaNaming.Catalog.FrameSize

/-!
What is known about one media file: the file itself, the release it was recognised as, the
episodes it holds and the series they belong to. The bundle is linked as soon as it has an episode;
with a release it was recognised, without one it was linked by hand.
-/

namespace MediaNaming

/-- A file on disk and what was measured of it. -/
structure MediaFile where
  name : Text
  /-- The content hash by which releases are found. -/
  ed2k : Text
  crc32 : Option Text := none
  size : UInt64
  resolution : Option Text := none
  bitDepth : Option UInt32 := none
  deriving DecidableEq

/-- A published file, as the catalog describes it. -/
structure Release where
  id : UInt64 := 0
  groupId : Option UInt32 := none
  groupName : Option Text := none
  groupShortName : Option Text := none
  version : UInt32 := 0
  audioLanguages : List Text := []
  subtitleLanguages : List Text := []
  videoCodec : Option Text := none
  audioCodecs : List Text := []
  source : Option Text := none
  resolution : Option Text := none
  censored : Option Bool := none
  deprecated : Bool := false
  /-- The name under which it was published. -/
  publishedName : Option Text := none
  deriving DecidableEq

/-- A new release is the first version of itself. -/
def Release.first (id : UInt64) : Release := { id, version := 1 }

structure EpisodeTitle where
  language : TitleLanguage
  title : Text
  deriving DecidableEq

structure Episode where
  id : UInt64
  seriesId : UInt64
  number : UInt32
  kind : EpisodeKind
  titles : List EpisodeTitle := []
  deriving DecidableEq

structure SeriesTitle where
  language : TitleLanguage
  rank : TitleRank
  title : Text
  deriving DecidableEq

structure Series where
  id : UInt64 := 0
  mainTitle : Text := []
  beginYear : Option Int32 := none
  normalCount : UInt32 := 0
  specialCount : UInt32 := 0
  kind : Option SeriesKind := none
  titles : List SeriesTitle := []
  deriving DecidableEq

structure Bundle where
  file : MediaFile
  release : Option Release := none
  episodes : List Episode := []
  series : Option Series := none
  deriving DecidableEq

/-- How a file came by its episodes. -/
inductive Link where
  | release | manual | unlinked
  deriving DecidableEq

/-- The first title in a language that is not empty. -/
def Episode.title? (e : Episode) (language : TitleLanguage) : Option Text :=
  ((e.titles.filter (·.language = language)).map (·.title)).find? (· ≠ [])

/-- The first title in a language, main or official, that is not empty. -/
def Series.officialTitle? (s : Series) (language : TitleLanguage) : Option Text :=
  (s.titles.find? fun t => t.language = language ∧ t.rank.isMainOrOfficial ∧ t.title ≠ []).map
    (·.title)

/-- The first main title in any language that is not empty. -/
def Series.anyMainTitle? (s : Series) : Option Text :=
  (s.titles.find? fun t => t.rank = .main ∧ t.title ≠ []).map (·.title)

namespace Bundle

def link (b : Bundle) : Link :=
  if b.release.isSome then .release
  else if b.episodes.isEmpty then .unlinked
  else .manual

def isManual (b : Bundle) : Bool := b.link = .manual

def hasEpisode (b : Bundle) : Bool := !b.episodes.isEmpty

def firstEpisode? (b : Bundle) : Option Episode := b.episodes.head?

/-- The identifier of the series, or else the one that the first episode names. -/
def seriesId? (b : Bundle) : Option UInt64 :=
  match b.series with
  | some s => some s.id
  | none => b.firstEpisode?.map (·.seriesId)

/-- The resolution text of the file, or else of the release; a blank one counts as missing. -/
def resolutionText? (b : Bundle) : Option Text :=
  (Text.nonBlank? b.file.resolution).or (b.release.bind fun r => Text.nonBlank? r.resolution)

def frameSize? (b : Bundle) : Option FrameSize := b.resolutionText?.bind FrameSize.ofText?

/-- The number of episodes of a kind in the series; kinds that are not counted have one. -/
def count (b : Bundle) (kind : EpisodeKind) : UInt32 :=
  match b.series, kind with
  | some s, .normal => s.normalCount
  | some s, .special => s.specialCount
  | _, _ => 1

end Bundle

end MediaNaming
