import MediaNaming.Text.Basic

/-!
The placeholders of a template. Each stands for one datum of a bundle and is written as a percent
sign and a code of three characters.
-/

namespace MediaNaming

inductive Placeholder where
  | seriesId | englishTitle | mainTitle | kanjiTitle
  | episodeTitleEnglish | episodeTitleRomaji | episodeNumber | episodeCount
  | dubLanguages | subtitleLanguages | videoCodec | audioCodec
  | bitDepth | resolution | videoHeight | source | seriesKind | beginYear
  | groupShort | groupLong | groupId
  | ed2kUpper | ed2kLower | crcUpper | crcLower
  | version | publishedName | censored | deprecated | releaseId | episodeId
  deriving DecidableEq

namespace Placeholder

def all : List Placeholder := [.seriesId, .englishTitle, .mainTitle, .kanjiTitle,
  .episodeTitleEnglish, .episodeTitleRomaji, .episodeNumber, .episodeCount, .dubLanguages,
  .subtitleLanguages, .videoCodec, .audioCodec, .bitDepth, .resolution, .videoHeight, .source,
  .seriesKind, .beginYear, .groupShort, .groupLong, .groupId, .ed2kUpper, .ed2kLower, .crcUpper,
  .crcLower, .version, .publishedName, .censored, .deprecated, .releaseId, .episodeId]

/-- The code, which stands after the percent sign. -/
def code : Placeholder → Text
  | .seriesId => ['a', 'i', 'd']
  | .englishTitle => ['e', 'n', 'g']
  | .mainTitle => ['a', 'n', 'n']
  | .kanjiTitle => ['k', 'a', 'n']
  | .episodeTitleEnglish => ['e', 'p', 'n']
  | .episodeTitleRomaji => ['e', 'p', 'r']
  | .episodeNumber => ['e', 'n', 'r']
  | .episodeCount => ['e', 'p', 's']
  | .dubLanguages => ['d', 'u', 'b']
  | .subtitleLanguages => ['s', 'u', 'b']
  | .videoCodec => ['v', 'i', 'd']
  | .audioCodec => ['a', 'u', 'd']
  | .bitDepth => ['b', 'i', 't']
  | .resolution => ['r', 'e', 's']
  | .videoHeight => ['v', 'h', 'e']
  | .source => ['s', 'r', 'c']
  | .seriesKind => ['t', 'y', 'p']
  | .beginYear => ['y', 'e', 'a']
  | .groupShort => ['g', 'r', 'p']
  | .groupLong => ['g', 'r', 'l']
  | .groupId => ['g', 'i', 'd']
  | .ed2kUpper => ['E', 'D', '2']
  | .ed2kLower => ['e', 'd', '2']
  | .crcUpper => ['C', 'R', 'C']
  | .crcLower => ['c', 'r', 'c']
  | .version => ['v', 'e', 'r']
  | .publishedName => ['s', 'n', 'a']
  | .censored => ['c', 'e', 'n']
  | .deprecated => ['d', 'e', 'p']
  | .releaseId => ['f', 'i', 'd']
  | .episodeId => ['e', 'i', 'd']

/-- The placeholder with exactly that code. -/
def ofCode? (t : Text) : Option Placeholder := all.find? fun p => p.code == t

/-- The first placeholder with that code in any ASCII case; blanks around it and percent signs
before it do not count. -/
def ofName? (t : Text) : Option Placeholder :=
  all.find? fun p => p.code.sameLetters (t.trim.dropWhile (· == '%'))

def toText (p : Placeholder) : Text := '%' :: p.code

theorem mem_all (p : Placeholder) : p ∈ all := by cases p <;> decide

@[simp] theorem length_code (p : Placeholder) : p.code.length = 3 := by cases p <;> rfl

@[simp] theorem ofCode?_code (p : Placeholder) : ofCode? p.code = some p := by cases p <;> decide

theorem code_eq_of_ofCode? {t : Text} {p : Placeholder} (h : ofCode? t = some p) : p.code = t := by
  simpa using List.find?_some h

end Placeholder

end MediaNaming
