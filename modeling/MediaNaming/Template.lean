import MediaNaming.Placeholder.Value

/-!
Templates: literal text with placeholders in it. A percent sign starts a placeholder only where a
known code follows it, and stands for itself everywhere else.
-/

namespace MediaNaming

inductive Piece where
  | literal (t : Text)
  | placeholder (p : Placeholder)
  deriving DecidableEq

/-- The pieces of a text in order. -/
abbrev Template := List Piece

namespace Template

/-- A literal character in front of a template joins the literal that stands there. -/
def consChar (c : Char) : Template → Template
  | .literal t :: rest => .literal (c :: t) :: rest
  | rest => .literal [c] :: rest

/-- Splits a text into literals and placeholders. -/
def ofText : Text → Template
  | [] => []
  | '%' :: a :: b :: c :: rest =>
    match Placeholder.ofCode? [a, b, c] with
    | some p => .placeholder p :: ofText rest
    | none => consChar '%' (ofText (a :: b :: c :: rest))
  | c :: rest => consChar c (ofText rest)

end Template

def Piece.toText : Piece → Text
  | .literal t => t
  | .placeholder p => p.toText

def Piece.render (s : Settings) (b : Bundle) : Piece → Text
  | .literal t => t
  | .placeholder p => p.render s b

namespace Template

/-- The text of a template, with its placeholders as they are written. -/
def toText (t : Template) : Text := t.flatMap Piece.toText

/-- The text of a template, with its placeholders filled in. -/
def render (s : Settings) (b : Bundle) (t : Template) : Text := t.flatMap (Piece.render s b)

end Template

end MediaNaming
