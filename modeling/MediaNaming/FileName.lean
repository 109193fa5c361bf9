import MediaNaming.FilePath
import MediaNaming.Catalog.Bundle

/-!
The extension that a new name takes over from the current one, and the stem that is left without
it. The length of the extension is measured on the last segment of the name, but it is taken, dot
included, from the end of the whole text; where the two ends differ the cut may even fall inside a
character.
-/

namespace MediaNaming

/-- A cut that would split a character. -/
inductive CutFault where
  | insideCharacter
  deriving DecidableEq

namespace FileName

/-- The extension with its dot, or nothing for a name that has none. -/
def extension (name : Text) : Except CutFault (Option Text) :=
  match FilePath.extension? name with
  | none => .ok none
  | some [] => .ok none
  | some (c :: rest) =>
    match name.dropBytes? (name.byteSize - (Text.byteSize (c :: rest) + 1)) with
    | some t => .ok (some t)
    | none => .error .insideCharacter

/-- The name up to its last dot, or all of it if there is no other dot than the first character. -/
def stem (name : Text) : Text :=
  match Text.splitAtLast? '.' name with
  | some (stem, _) => if stem.isEmpty then name else stem
  | none => name

end FileName

def MediaFile.extension (f : MediaFile) : Except CutFault (Option Text) := FileName.extension f.name

/-- The name of the published file without its extension. -/
def Release.publishedStem? (r : Release) : Option Text := r.publishedName.map FileName.stem

end MediaNaming
