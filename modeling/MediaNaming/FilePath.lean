import MediaNaming.Text.Basic

/-!
Paths as texts. A path is a list of segments between slashes; the empty ones and the single dots
name nothing, and two dots name the directory above. All questions are answered on the text alone,
so `a//b/.` keeps its spelling and still has `b` for its last name.
-/

namespace MediaNaming.FilePath

/-- The parts between the slashes. -/
def segments : Text → List Text
  | [] => [[]]
  | c :: rest =>
    if c = '/' then [] :: segments rest
    else
      match segments rest with
      | [] => [[c]]
      | s :: later => (c :: s) :: later

/-- A path from its segments. -/
def ofPieces (segs : List Text) : Text := List.intercalate ['/'] segs

/-- Segments that name nothing. -/
def isIdle (segment : Text) : Bool := segment.isEmpty || segment == ['.']

/-- The name of the file or directory that a path leads to, if the path ends in a name. -/
def lastName? (path : Text) : Option Text :=
  ((segments path).filter (!isIdle ·)).getLast?.filter (· ≠ ['.', '.'])

/-- What follows the last dot of a name, unless the name starts with that dot. -/
def nameExtension? (name : Text) : Option Text :=
  match Text.splitAtLast? '.' name with
  | some (stem, extension) => if stem.isEmpty then none else some extension
  | none => none

/-- The extension of the last name, without its dot. -/
def extension? (path : Text) : Option Text := (lastName? path).bind nameExtension?

def isAbsolute (path : Text) : Bool := path.head? == some '/'

/-- Passes over idle segments from the end of a path, which is given in reverse; the first segment
of the path is never passed over. -/
def dropIdle : List Text → List Text
  | s :: t :: rest => if isIdle s then dropIdle (t :: rest) else s :: t :: rest
  | segs => segs

/-- The path less its last name, or nothing for a path that has none to lose. -/
def parent? (path : Text) : Option Text :=
  match dropIdle (segments path).reverse with
  | [] => none
  | [first] => if first.isEmpty then none else some []
  | _ :: above =>
    match dropIdle above with
    | [[]] => some ['/']
    | kept => some (ofPieces kept.reverse)

/-- A path taken from a directory. -/
def join (directory path : Text) : Text :=
  if isAbsolute path then path
  else if directory.isEmpty || directory.getLast? == some '/' then directory ++ path
  else directory ++ '/' :: path

end MediaNaming.FilePath
