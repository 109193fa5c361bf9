import MediaNaming.Catalog.Bundle

/-!
Bundles that are put together step by step. Another file starts a new bundle; an edit of a part
that is not there changes nothing.
-/

namespace MediaNaming

inductive Edit where
  | file (name ed2k : Text) (size : UInt64)
  | crc32 (t : Text)
  | resolution (t : Text)
  | bitDepth (depth : UInt32)
  | release (id : UInt64)
  | episode (id seriesId : UInt64) (number : UInt32) (kind : EpisodeKind)
  /-- A further title of the last episode. -/
  | episodeTitle (t : EpisodeTitle)
  | series (id : UInt64) (mainTitle : Text)
  | seriesTitle (t : SeriesTitle)
  | dropRelease
  | dropEpisode
  | dropSeries
  deriving DecidableEq

def Episode.addTitle (t : EpisodeTitle) (e : Episode) : Episode :=
  { e with titles := e.titles ++ [t] }

def Series.addTitle (t : SeriesTitle) (s : Series) : Series :=
  { s with titles := s.titles ++ [t] }

namespace Bundle

/-- Nothing is known. -/
def empty : Bundle := { file := { name := [], ed2k := [], size := 0 } }

def edit (b : Bundle) : Edit → Bundle
  | .file name ed2k size => { file := { name, ed2k, size } }
  | .crc32 t => { b with file := { b.file with crc32 := some t } }
  | .resolution t => { b with file := { b.file with resolution := some t } }
  | .bitDepth depth => { b with file := { b.file with bitDepth := some depth } }
  | .release id => { b with release := some (Release.first id) }
  | .episode id seriesId number kind =>
    { b with episodes := b.episodes ++ [{ id, seriesId, number, kind }] }
  | .episodeTitle t =>
    { b with episodes := b.episodes.dropLast ++ (b.episodes.getLast?.map (·.addTitle t)).toList }
  | .series id mainTitle => { b with series := some { id, mainTitle } }
  | .seriesTitle t => { b with series := b.series.map (·.addTitle t) }
  | .dropRelease => { b with release := none }
  | .dropEpisode => { b with episodes := b.episodes.dropLast }
  | .dropSeries => { b with series := none }

end Bundle

end MediaNaming
