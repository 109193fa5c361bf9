import MediaNaming.Script.Guard
import MediaNaming.Template
import MediaNaming.Text.Replace

/-!
The steps of a script: to append a template to the name, to replace every occurrence of a text in
it, or to give the renaming up.
-/

namespace MediaNaming

inductive Step where
  | append (t : Template)
  /-- Every occurrence of the text `o :: old` gives way to `new`. -/
  | replace (o : Char) (old new : Text)
  | reject
  deriving DecidableEq

namespace Step

/-- The text after an opening quote up to the closing one, and what follows that. -/
def readQuoted? : Text → Option (Text × Text)
  | '\'' :: rest =>
    match rest.dropWhile (· ≠ '\'') with
    | _ :: after => some (rest.takeWhile (· ≠ '\''), after)
    | [] => none
  | _ => none

/-- Two quoted texts at the beginning of a text. Whatever stands between them or after them does
not count. -/
def readPair? (t : Text) : Option (Text × Text) := do
  let (old, rest) ← readQuoted? t
  let (new, _) ← readQuoted? (rest.dropWhile (· ≠ '\''))
  return (old, new)

/-- The first word of a text, and what follows it without white space at its ends. -/
def splitVerb (t : Text) : Text × Text :=
  (t.takeWhile (!Text.isBlank ·), Text.trim (t.dropWhile (!Text.isBlank ·)))

/-- The step that a text without white space at its ends writes. -/
def ofTrimmed? (t : Text) : Option Step :=
  let (verb, rest) := splitVerb t
  if verb.sameLetters "ADD".toList then
    some (.append (Template.ofText (rest.filter (· ≠ '\''))))
  else if verb.sameLetters "REPLACE".toList then
    match readPair? rest with
    | some (o :: old, new) => some (.replace o old new)
    | _ => none
  else if verb.sameLetters "FAIL".toList ∧ rest = [] then some .reject
  else none

/-- The step that a text writes. -/
def ofText (t : Text) : Except LineFault Step :=
  match ofTrimmed? t.trim with
  | some step => .ok step
  | none => .error (.malformedStep t.trim)

/-- The name after the step, or nothing if the step gives the renaming up. -/
def perform? (s : Settings) (b : Bundle) (name : Text) : Step → Option Text
  | .append t => some (name ++ t.render s b)
  | .replace o old new => some (Text.replaceAll o old new name)
  | .reject => none

end Step

end MediaNaming
