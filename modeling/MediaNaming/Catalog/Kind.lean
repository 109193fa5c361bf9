import MediaNaming.Text.Numeral
import MediaNaming.Text.Quoted

/-!
The closed vocabularies of the catalog, each with the spellings under which it is stored, shown
and typed. A spelling is read back by search, so that reading inverts writing as soon as no two
members share one.
-/

namespace MediaNaming

/-- A text that names no member of a vocabulary. -/
inductive CatalogFault where
  | frameSize (raw : Text)
  | episodeKind (raw : Text)
  | seriesKind (raw : Text)
  deriving DecidableEq

def CatalogFault.message : CatalogFault → Text
  | .frameSize raw => "invalid resolution: ".toList ++ raw.quoted
  | .episodeKind raw => "invalid episode kind: ".toList ++ raw.quoted
  | .seriesKind raw => "invalid series kind: ".toList ++ raw.quoted

/-- What an episode is in its series. -/
inductive EpisodeKind where
  | normal | credits | special | trailer | parody | other
  deriving DecidableEq

namespace EpisodeKind

def all : List EpisodeKind := [.normal, .credits, .special, .trailer, .parody, .other]

def spelling : EpisodeKind → String
  | .normal => "normal"
  | .credits => "credits"
  | .special => "special"
  | .trailer => "trailer"
  | .parody => "parody"
  | .other => "other"

def ofSpelling? (t : Text) : Option EpisodeKind := all.find? fun k => k.spelling.toList == t

/-- The letter by which scripts ask for the kind. -/
def letter : EpisodeKind → Char
  | .normal => 'E'
  | .credits => 'C'
  | .special => 'S'
  | .trailer => 'T'
  | .parody => 'P'
  | .other => 'O'

/-- What stands before the number of an episode; the normal ones are told by having nothing. -/
def mark : EpisodeKind → Text
  | .normal => []
  | k => [k.letter]

def label : EpisodeKind → String
  | .normal => "Episode"
  | .credits => "Credits"
  | .special => "Special"
  | .trailer => "Trailer"
  | .parody => "Parody"
  | .other => "Other"

def code : EpisodeKind → Int
  | .normal => 1
  | .credits => 2
  | .special => 3
  | .trailer => 4
  | .parody => 5
  | .other => 6

def ofCode (n : Int) : Except CatalogFault EpisodeKind :=
  match all.find? fun k => k.code == n with
  | some k => .ok k
  | none => .error (.episodeKind (Text.ofInt n))

/-- Reads the letter, in either case and with blanks around it. -/
def ofText (raw : Text) : Except CatalogFault EpisodeKind :=
  match all.find? fun k => [k.letter] == raw.trim.asciiUpper with
  | some k => .ok k
  | none => .error (.episodeKind raw)

end EpisodeKind

/-- The form in which a series was broadcast. -/
inductive SeriesKind where
  | tvSeries | tvSpecial | ova | movie | web | musicVideo | other
  deriving DecidableEq

namespace SeriesKind

def all : List SeriesKind := [.tvSeries, .tvSpecial, .ova, .movie, .web, .musicVideo, .other]

def spelling : SeriesKind → String
  | .tvSeries => "tv_series"
  | .tvSpecial => "tv_special"
  | .ova => "ova"
  | .movie => "movie"
  | .web => "web"
  | .musicVideo => "music_video"
  | .other => "other"

def ofSpelling? (t : Text) : Option SeriesKind := all.find? fun k => k.spelling.toList == t

/-- The name that names and scripts use. -/
def label : SeriesKind → String
  | .tvSeries => "TV Series"
  | .tvSpecial => "TV Special"
  | .ova => "OVA"
  | .movie => "Movie"
  | .web => "Web"
  | .musicVideo => "Music Video"
  | .other => "Other"

/-- The names that are understood. -/
def aliases : SeriesKind → List String
  | .tvSeries => ["TV Series", "TV"]
  | k => [k.label]

/-- Reads a name, in any ASCII case and with blanks around it. -/
def ofText (raw : Text) : Except CatalogFault SeriesKind :=
  match all.find? fun k => k.aliases.any fun a => Text.sameLetters a.toList raw.trim with
  | some k => .ok k
  | none => .error (.seriesKind raw)

end SeriesKind

/-- The language of a title. -/
inductive TitleLanguage where
  | english | romaji | japanese | other
  deriving DecidableEq

namespace TitleLanguage

def all : List TitleLanguage := [.english, .romaji, .japanese, .other]

def spelling : TitleLanguage → String
  | .english => "english"
  | .romaji => "romaji"
  | .japanese => "japanese"
  | .other => "other"

/-- Every language that is not told apart is `other`. -/
def ofSpelling (t : Text) : TitleLanguage :=
  (all.find? fun l => l.spelling.toList == t).getD .other

end TitleLanguage

/-- The standing of a series title. -/
inductive TitleRank where
  | main | official | other
  deriving DecidableEq

namespace TitleRank

def all : List TitleRank := [.main, .official, .other]

def spelling : TitleRank → String
  | .main => "main"
  | .official => "official"
  | .other => "other"

/-- Every standing that is not told apart is `other`. -/
def ofSpelling (t : Text) : TitleRank :=
  (all.find? fun r => r.spelling.toList == t).getD .other

def isMainOrOfficial : TitleRank → Bool
  | .other => false
  | _ => true

end TitleRank

end MediaNaming
