import MediaNaming.Text.Quoted

/-!
What a script can ask about a bundle. Each question has a letter, in either case. They fall into
four families, which compare a number, compare a text, look into a list, or just answer yes or no.
-/

namespace MediaNaming

/-- The numbers that can be asked for. -/
inductive Figure where
  | seriesId | groupId | version | episodeNumber | episodeCount | beginYear | bitDepth
  | width | height
  deriving DecidableEq

/-- The texts that can be asked for. -/
inductive Wording where
  | episodeKind | source | seriesKind | videoCodec
  deriving DecidableEq

/-- The lists that can be looked into. -/
inductive Listing where
  | dubLanguages | subtitleLanguages | audioCodecs
  deriving DecidableEq

inductive Criterion where
  | figure (f : Figure)
  | wording (w : Wording)
  | listing (l : Listing)
  /-- Whether a placeholder shows anything. -/
  | shown
  /-- Whether the file was linked by hand. -/
  | manual
  /-- Whether the file has an episode. -/
  | linked
  deriving DecidableEq

def Figure.letter : Figure → Char
  | .seriesId => 'A'
  | .groupId => 'G'
  | .version => 'F'
  | .episodeNumber => 'E'
  | .episodeCount => 'X'
  | .beginYear => 'Y'
  | .bitDepth => 'Z'
  | .width => 'W'
  | .height => 'U'

namespace Criterion

def all : List Criterion := [.figure .seriesId, .figure .groupId, .figure .version,
  .figure .episodeNumber, .wording .episodeKind, .figure .episodeCount, .wording .source,
  .wording .seriesKind, .figure .beginYear, .listing .dubLanguages, .listing .subtitleLanguages,
  .wording .videoCodec, .listing .audioCodecs, .shown, .figure .bitDepth, .figure .width,
  .figure .height, .manual, .linked]

def letter : Criterion → Char
  | .figure f => f.letter
  | .wording .episodeKind => 'H'
  | .wording .source => 'R'
  | .wording .seriesKind => 'T'
  | .wording .videoCodec => 'C'
  | .listing .dubLanguages => 'D'
  | .listing .subtitleLanguages => 'S'
  | .listing .audioCodecs => 'J'
  | .shown => 'I'
  | .manual => 'M'
  | .linked => 'N'

/-- The question that a letter asks. -/
def ofLetter? (c : Char) : Option Criterion := all.find? fun k => k.letter == c.toUpper

end Criterion

/-- The data without which a test has no answer. -/
inductive Datum where
  | release | groupId | series | beginYear | episode | bitDepth | resolution
  deriving DecidableEq

def Datum.label : Datum → String
  | .release => "release"
  | .groupId => "group id"
  | .series => "series"
  | .beginYear => "begin year"
  | .episode => "episode"
  | .bitDepth => "bit depth"
  | .resolution => "resolution"

/-- Why a test has no answer. -/
inductive TestFault where
  | unknownPlaceholder (name : Text)
  | notANumber (letter : Char) (value : Text)
  | missing (what : Datum)
  deriving DecidableEq

def TestFault.message : TestFault → Text
  | .unknownPlaceholder name => "Unknown tag: ".toList ++ name
  | .notANumber letter value =>
    "Test ".toList ++ letter :: " cannot compare against ".toList ++ value.quoted
  | .missing what => "Missing metadata: ".toList ++ what.label.toList

end MediaNaming
