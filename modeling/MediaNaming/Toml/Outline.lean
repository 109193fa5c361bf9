import MediaNaming.Toml.Basic

/-!
What the names of a document stand for. No name may be defined twice; a table is defined by its
header, or by the keys with dots that lead through it, but not by both. A table that only lies on
the way to one with a header may still get a header of its own. Keys with dots may pass through it
too, but none may end there.
-/

namespace MediaNaming.Toml

/-- A step into a table: to the value under a name, or to one of several tables of one name. -/
inductive Part where
  | name (t : Text)
  | item (n : Nat)
  deriving DecidableEq

/-- What a path stands for. -/
inductive Role where
  | value (v : Toml)
  /-- A table with a header. -/
  | headed
  /-- A table on the way to one with a header. -/
  | implied
  /-- A table on the way of a key with dots. -/
  | dotted
  /-- Tables of one name, and how many there are. -/
  | several (count : Nat)

structure Outline where
  /-- What is defined, the latest first. -/
  roles : List (List Part × Role) := []
  /-- The table that keys are added to. -/
  here : List Part := []

namespace Outline

def role? (o : Outline) (path : List Part) : Option Role := o.roles.lookup path

def define (o : Outline) (path : List Part) (role : Role) : Outline :=
  { o with roles := (path, role) :: o.roles }

/-- Passes through a table on the way to a header. -/
def enter? (o : Outline) (path : List Part) (name : Text) : Option (Outline × List Part) :=
  let path := path ++ [.name name]
  match o.role? path with
  | none => some (o.define path .implied, path)
  | some (.value _) => none
  | some (.several n) => some (o, path ++ [.item n])
  | some _ => some (o, path)

/-- The path to a header less its last name. -/
def enterAll? (o : Outline) (names : List Text) : Option (Outline × List Part) :=
  names.foldlM (fun (o, path) name => o.enter? path name) (o, [])

/-- Opens the table with a header. -/
def openTable? (o : Outline) (names : List Text) : Option Outline := do
  let last ← names.getLast?
  let (o, path) ← o.enterAll? names.dropLast
  let path := path ++ [.name last]
  match o.role? path with
  | none | some .implied => some { o.define path .headed with here := path }
  | some _ => none

/-- Opens one more of several tables of one name. -/
def openItem? (o : Outline) (names : List Text) : Option Outline := do
  let last ← names.getLast?
  let (o, path) ← o.enterAll? names.dropLast
  let path := path ++ [.name last]
  match o.role? path with
  | none => some { o.define path (.several 1) with here := path ++ [.item 1] }
  | some (.several n) =>
    some { o.define path (.several (n + 1)) with here := path ++ [.item (n + 1)] }
  | some _ => none

/-- Passes through a table on the way of a key with dots. -/
def descend? (o : Outline) (path : List Part) (name : Text) : Option (Outline × List Part) :=
  let path := path ++ [.name name]
  match o.role? path with
  | none => some (o.define path .dotted, path)
  | some .dotted | some .implied => some (o, path)
  | some (.several n) => some (o, path ++ [.item n])
  | some (.value _) | some .headed => none

/-- Whether a key that passed through those names may end in a table. One with dots ends only in a
table that keys with dots have made. -/
def mayEndIn (o : Outline) (passed : List Text) (path : List Part) : Bool :=
  match passed, o.role? path with
  | [], _ => true
  | _, some .dotted => true
  | _, _ => false

/-- Gives a value to a key of the open table. -/
def assign? (o : Outline) (key : List Text) (v : Toml) : Option Outline := do
  let last ← key.getLast?
  let passed := key.dropLast
  let (o, path) ← passed.foldlM (fun (o, path) name => o.descend? path name) (o, o.here)
  let target := path ++ [.name last]
  if o.mayEndIn passed path && (o.role? target).isNone then some (o.define target (.value v))
  else none

/-- What stands under a name outside all tables. -/
def root? (o : Outline) (name : String) : Option Toml :=
  (o.role? [.name name.toList]).map fun
    | .value v => v
    | .several _ => .array
    | _ => .table

end Outline

end MediaNaming.Toml
