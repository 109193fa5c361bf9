/-!
Texts as lists of characters. `String` occurs only in literals and messages; whatever is read,
compared or cut is a list, so that each operation below is a plain recursion on it.
-/

namespace MediaNaming

/-- A text is the list of its characters. -/
abbrev Text := List Char

namespace Text

/-- White space in the sense of the Unicode property of that name. -/
def isBlank (c : Char) : Bool :=
  let n := c.toNat
  (9 ≤ n && n ≤ 13) || n == 0x20 || n == 0x85 || n == 0xA0 || n == 0x1680 ||
    (0x2000 ≤ n && n ≤ 0x200A) || n == 0x2028 || n == 0x2029 || n == 0x202F ||
    n == 0x205F || n == 0x3000

/-- The text without its leading white space. -/
def trimStart (t : Text) : Text := t.dropWhile isBlank

/-- The text without its trailing white space. -/
def trimEnd (t : Text) : Text := (t.reverse.dropWhile isBlank).reverse

/-- The text without the white space at its ends. -/
def trim (t : Text) : Text := trimEnd (trimStart t)

/-- Nothing but white space. -/
def isBlankText (t : Text) : Bool := t.all isBlank

/-- The value, unless it is missing or blank. -/
def nonBlank? (t : Option Text) : Option Text := t.filter fun s => !isBlankText s

/-- The text with its ASCII letters small. -/
def asciiLower (t : Text) : Text := t.map Char.toLower

/-- The text with its ASCII letters capital. -/
def asciiUpper (t : Text) : Text := t.map Char.toUpper

/-- Equality up to the case of ASCII letters. -/
def sameLetters (s t : Text) : Bool := asciiLower s == asciiLower t

/-- The parts of a text around the first `c`, if there is one. -/
def splitAt? (c : Char) : Text → Option (Text × Text)
  | [] => none
  | x :: rest =>
    if x = c then some ([], rest) else (splitAt? c rest).map fun (s, t) => (x :: s, t)

/-- The parts of a text around the last `c`, if there is one. -/
def splitAtLast? (c : Char) : Text → Option (Text × Text)
  | [] => none
  | x :: rest =>
    match splitAtLast? c rest with
    | some (s, t) => some (x :: s, t)
    | none => if x = c then some ([], rest) else none

/-- The number of bytes of the text in UTF-8. -/
def byteSize : Text → Nat
  | [] => 0
  | c :: rest => c.utf8Size + byteSize rest

/-- The text less its first `n` bytes, unless the cut would split a character. -/
def dropBytes? : Nat → Text → Option Text
  | 0, t => some t
  | _ + 1, [] => none
  | n + 1, c :: rest => if c.utf8Size ≤ n + 1 then dropBytes? (n + 1 - c.utf8Size) rest else none

end Text

end MediaNaming
