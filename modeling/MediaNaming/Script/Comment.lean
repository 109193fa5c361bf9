import MediaNaming.Text.Basic

/-!
Comments. Two slashes start one unless they stand inside single quotes, and it runs to the end of
the line.
-/

namespace MediaNaming

/-- A line without its comment, where `quoted` tells whether the line begins inside quotes. -/
def stripCommentFrom (quoted : Bool) : Text → Text
  | [] => []
  | '\'' :: rest => '\'' :: stripCommentFrom (!quoted) rest
  | '/' :: '/' :: rest => if quoted then '/' :: stripCommentFrom quoted ('/' :: rest) else []
  | c :: rest => c :: stripCommentFrom quoted rest

/-- A line without its comment. -/
def stripComment (line : Text) : Text := stripCommentFrom false line

end MediaNaming
