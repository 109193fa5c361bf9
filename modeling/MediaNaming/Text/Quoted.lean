import MediaNaming.Text.Case
import MediaNaming.Text.PrintableTable

/-!
Quoted texts, as messages show them: between double quotes, with a backslash before a quote or a
backslash, short names for the usual controls, and the code point of any other character that has
no visible form of its own.
-/

namespace MediaNaming.Text

/-- Characters that show as themselves between quotes. -/
def isVisible (c : Char) : Bool :=
  if c.toNat < 127 then 32 ≤ c.toNat
  else !inRanges invisibleRanges c && !inRanges graphemeExtendRanges c

def quoteChar (c : Char) : Text :=
  match c with
  | '"' => ['\\', '"']
  | '\\' => ['\\', '\\']
  | '\n' => ['\\', 'n']
  | '\r' => ['\\', 'r']
  | '\t' => ['\\', 't']
  | '\x00' => ['\\', '0']
  | c =>
    if isVisible c then [c]
    else ['\\', 'u', '\x7b'] ++ Nat.toDigits 16 c.toNat ++ ['\x7d']

/-- The text between double quotes. -/
def quoted (t : Text) : Text := '"' :: t.flatMap quoteChar ++ ['"']

end MediaNaming.Text
