import MediaNaming.Text.Basic

/-!
The lines of a text. A line ends with a line feed, or with a carriage return and a line feed; the
last one may end with the text instead.
-/

namespace MediaNaming.Text

/-- The lines in order, without the characters that end them. -/
def lines : Text → List Text
  | [] => []
  | '\r' :: '\n' :: rest => [] :: lines rest
  | c :: rest =>
    if c = '\n' then [] :: lines rest
    else
      match lines rest with
      | [] => [[c]]
      | l :: ls => (c :: l) :: ls

/-- The beginnings of a text that stop after a line feed, and the whole text unless it ends with
one. -/
def lineEnds : Text → List Text
  | [] => []
  | c :: rest =>
    let later := (lineEnds rest).map (c :: ·)
    if c = '\n' then [c] :: later
    else if rest.isEmpty then [[c]]
    else later

end MediaNaming.Text
