import MediaNaming.Text.Replace

/-!
Names that every file system takes. Characters that a path may not hold give way to look-alikes,
three dots become an ellipsis, and a dot at either end becomes a leader dot, so that the name is
neither hidden nor left with a bare dot before its extension.
-/

namespace MediaNaming.SafeName

/-- The characters that a name may not hold. -/
def forbidden : Text := ['*', '|', '\\', '/', ':', '"', '>', '<', '?']

/-- The character that stands in for a forbidden one. -/
def lookAlike : Char → Char
  | '*' => '★'
  | '|' => '¦'
  | '\\' => '⧹'
  | '/' => '⁄'
  | ':' => '։'
  | '"' => '″'
  | '>' => '›'
  | '<' => '‹'
  | '?' => '？'
  | c => c

def ellipsis : Char := '…'

/-- The look-alike of a dot. -/
def leaderDot : Char := '․'

def guardFirst : Text → Text
  | '.' :: rest => leaderDot :: rest
  | t => t

def guardLast (t : Text) : Text := if t.getLast? = some '.' then t.dropLast ++ [leaderDot] else t

/-- The safe name nearest to a text. White space at its end is kept, for an extension follows. -/
def ofText (t : Text) : Text :=
  guardLast (guardFirst (Text.replaceAll '.' ['.', '.'] [ellipsis] (t.trimStart.map lookAlike)))

/-- A name that is safe as it stands. -/
structure IsSafe (t : Text) : Prop where
  not_forbidden : ∀ c ∈ t, c ∉ forbidden
  no_three_dots : ¬['.', '.', '.'] <:+: t
  head_not_blank : ∀ c ∈ t.head?, Text.isBlank c = false
  head_ne_dot : t.head? ≠ some '.'
  last_ne_dot : t.getLast? ≠ some '.'

end MediaNaming.SafeName
