import MediaNaming.FilePath

/-!
A tree of files and directories, and what a path leads to when it is followed from the root of the
tree. Two dots lead back to the directory passed before; nothing lies above the root, and an
absolute path leads nowhere.
-/

namespace MediaNaming

inductive FileTree where
  | file (contents : Text)
  | directory (entries : List (Text × FileTree))

namespace FileTree

def empty : FileTree := .directory []

/-- What the segments of a path lead to from a node, with the directories above it at hand. Only a
directory can be passed through, even by a segment that names nothing. -/
def follow? (above : List FileTree) (here : FileTree) : List Text → Option FileTree
  | [] => some here
  | s :: rest =>
    match here with
    | .file _ => none
    | .directory entries =>
      if FilePath.isIdle s then follow? above here rest
      else if s = ['.', '.'] then
        match above with
        | parent :: above => follow? above parent rest
        | [] => none
      else
        match entries.lookup s with
        | some next => follow? (here :: above) next rest
        | none => none

/-- What a path leads to. -/
def find? (tree : FileTree) (path : Text) : Option FileTree :=
  if path.isEmpty || FilePath.isAbsolute path then none
  else follow? [] tree (FilePath.segments path)

def isPresent (tree : FileTree) (path : Text) : Bool := (tree.find? path).isSome

/-- The contents of the file that a path leads to. -/
def read? (tree : FileTree) (path : Text) : Option Text :=
  match tree.find? path with
  | some (.file contents) => some contents
  | _ => none

/-- Changes the node under a list of names, making the directories on the way. -/
def modify (change : FileTree → FileTree) : List Text → FileTree → FileTree
  | [], tree => change tree
  | name :: names, tree =>
    let entries := match tree with
      | .directory entries => entries
      | .file _ => []
    .directory ((name, modify change names ((entries.lookup name).getD empty)) ::
      entries.filter (·.1 ≠ name))

/-- Adds a file, or a directory if the path ends with a slash. -/
def add (tree : FileTree) (path contents : Text) : FileTree :=
  let names := (FilePath.segments path).filter (!FilePath.isIdle ·)
  if path.getLast? == some '/' then
    tree.modify (fun
      | .directory entries => .directory entries
      | .file _ => empty) names
  else tree.modify (fun _ => .file contents) names

end FileTree

/-- The files around a program, as far as it can ask about them. -/
structure Files where
  isPresent : Text → Bool
  /-- The contents of a file, if there is one at the path and it can be read. -/
  read? : Text → Option Text

/-- The files of a tree, found from its root. -/
def FileTree.files (tree : FileTree) : Files where
  isPresent := tree.isPresent
  read? := tree.read?

instance : Coe FileTree Files where
  coe := FileTree.files

end MediaNaming
