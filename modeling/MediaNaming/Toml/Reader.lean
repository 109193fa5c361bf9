import MediaNaming.Toml.Outline
import MediaNaming.Toml.Quoted
import MediaNaming.Toml.Scalar

/-!
Documents from texts. Keys, values and lines are each read from the beginning of a text and leave
what follows. A loop goes on only while its readers take characters, which is why it ends.
-/

namespace MediaNaming.Toml

def isBareKeyChar (c : Char) : Bool := c.isAlphanum || c == '_' || c == '-'

/-- One name of a key, bare or quoted. -/
def keyName? (t : Text) : Option (Text × Text) :=
  let name := t.takeWhile isBareKeyChar
  if name.isEmpty then quoted? t else some (name, t.dropWhile isBareKeyChar)

/-- Names with dots between them. The white space after them is passed over. -/
def keyNames? (t : Text) : Option (List Text × Text) :=
  match keyName? t with
  | none => none
  | some (name, rest) =>
    match skipGap rest with
    | '.' :: after =>
      if (skipGap after).length < t.length then
        (keyNames? (skipGap after)).map fun (names, rest) => (name :: names, rest)
      else none
    | rest => some ([name], rest)
termination_by t.length

/-- The most containers inside each other, and the most names in a key. -/
def maxDepth : Nat := 80

/-- A key, unless it has too many names. -/
def key? (t : Text) : Option (List Text × Text) :=
  (keyNames? t).filter fun (names, _) => names.length ≤ maxDepth

/-- The rest of an array after its opening bracket or a comma; gives what follows the array. -/
def afterItems? (value? : Text → Option (Toml × Text)) (t : Text) : Option Text :=
  match skipLines t with
  | ']' :: rest => some rest
  | start =>
    match value? start with
    | none => none
    | some (_, rest) =>
      match skipLines rest with
      | ']' :: rest => some rest
      | ',' :: rest => if rest.length < t.length then afterItems? value? rest else none
      | _ => none
termination_by t.length

/-- A key, an equals sign and a value. What may stand around each is for `skip` to pass over. -/
def assignment? (skip : Text → Text) (value? : Text → Option (Toml × Text)) (t : Text) :
    Option ((List Text × Toml) × Text) := do
  let (key, rest) ← key? (skip t)
  match skip rest with
  | '=' :: rest =>
    let (v, rest) ← value? (skip rest)
    return ((key, v), skip rest)
  | _ => none

/-- The rest of an inline table after its opening brace or a comma; gives what follows the table. -/
def afterFields? (value? : Text → Option (Toml × Text)) (o : Outline) (t : Text) : Option Text :=
  match skipLines t with
  | '\x7d' :: rest => some rest
  | start =>
    match assignment? skipLines value? start with
    | none => none
    | some ((key, v), rest) =>
      match o.assign? key v, rest with
      | none, _ => none
      | some _, '\x7d' :: rest => some rest
      | some o, ',' :: rest => if rest.length < t.length then afterFields? value? o rest else none
      | _, _ => none
termination_by t.length

/-- The value at the beginning of a text, with at most that many containers inside each other, and
what follows it. -/
def value? (depth : Nat) (t : Text) : Option (Toml × Text) :=
  match t, depth with
  | '"' :: _, _ => (anyQuoted? t).map fun (s, rest) => (.text s, rest)
  | '\'' :: _, _ => (anyQuoted? t).map fun (s, rest) => (.text s, rest)
  | '[' :: _, 0 => none
  | '\x7b' :: _, 0 => none
  | '[' :: rest, depth + 1 => (afterItems? (value? depth) rest).map fun rest => (.array, rest)
  | '\x7b' :: rest, depth + 1 =>
    (afterFields? (value? depth) {} rest).map fun rest => (.table, rest)
  | _, _ =>
    let (word, rest) := splitWord t
    (ofWord? word).map fun v => (v, rest)

/-- The key between the brackets of a header, and what follows the first closing bracket. -/
def headerKey? (t : Text) : Option (List Text × Text) := do
  let (names, rest) ← key? (skipGap t)
  match rest with
  | ']' :: rest => return (names, rest)
  | _ => none

/-- A line that is not empty: a header or an assignment. -/
def line? (o : Outline) (t : Text) : Option (Outline × Text) :=
  match t with
  | '[' :: '[' :: rest => do
    let (names, rest) ← headerKey? rest
    match rest with
    | ']' :: rest => return (← o.openItem? names, ← lineEnd? rest)
    | _ => none
  | '[' :: rest => do
    let (names, rest) ← headerKey? rest
    return (← o.openTable? names, ← lineEnd? rest)
  | t => do
    let ((key, v), rest) ← assignment? skipGap (value? maxDepth) t
    return (← o.assign? key v, ← lineEnd? rest)

/-- The lines of a document, added to an outline. -/
def lines? (o : Outline) (t : Text) : Option Outline :=
  match skipLines t with
  | [] => some o
  | c :: start =>
    match line? o (c :: start) with
    | none => none
    | some (o, rest) => if rest.length < t.length then lines? o rest else none
termination_by t.length

/-- The outline of a document. A byte order mark in front of it does not count. -/
def ofText? : Text → Option Outline
  | '\uFEFF' :: rest => lines? {} rest
  | t => lines? {} t

end MediaNaming.Toml
