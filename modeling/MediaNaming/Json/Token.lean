import MediaNaming.Text.Numeral

/-!
The tokens of a JSON text: punctuation, quoted texts with their escapes resolved, and words, which
are the longest runs of other characters. A word is a number or a literal name or nothing at all;
that is decided when the value is built.
-/

namespace MediaNaming.Json

inductive Token where
  | openBrace | closeBrace | openBracket | closeBracket | colon | comma
  | quoted (t : Text)
  | word (t : Text)
  deriving DecidableEq

/-- The four characters that may separate tokens. -/
def isSpace (c : Char) : Bool := c == ' ' || c == '\t' || c == '\n' || c == '\r'

def punctuation? : Char → Option Token
  | '\x7b' => some .openBrace
  | '\x7d' => some .closeBrace
  | '[' => some .openBracket
  | ']' => some .closeBracket
  | ':' => some .colon
  | ',' => some .comma
  | _ => none

/-- The character that a one-letter escape stands for. -/
def shortEscape? : Char → Option Char
  | '"' => some '"'
  | '\\' => some '\\'
  | '/' => some '/'
  | 'b' => some '\x08'
  | 'f' => some '\x0c'
  | 'n' => some '\n'
  | 'r' => some '\r'
  | 't' => some '\t'
  | _ => none

def isHighSurrogate (n : Nat) : Bool := 0xD800 ≤ n && n ≤ 0xDBFF

def isLowSurrogate (n : Nat) : Bool := 0xDC00 ≤ n && n ≤ 0xDFFF

/-- Resolves the escapes of a quoted text. Two escaped surrogates make one character, and a lone
one makes none. -/
def unescape? : Text → Option Text
  | [] => some []
  | '\\' :: 'u' :: a :: b :: c :: d :: rest => do
    let n ← Text.hex? [a, b, c, d]
    if isLowSurrogate n then none
    else if isHighSurrogate n then
      match rest with
      | '\\' :: 'u' :: e :: f :: g :: h :: rest => do
        let m ← Text.hex? [e, f, g, h]
        if isLowSurrogate m then
          (unescape? rest).map (Char.ofNat (0x10000 + (n - 0xD800) * 0x400 + (m - 0xDC00)) :: ·)
        else none
      | _ => none
    else (unescape? rest).map (Char.ofNat n :: ·)
  | '\\' :: c :: rest => do
    let e ← shortEscape? c
    (unescape? rest).map (e :: ·)
  | c :: rest => if c = '\\' then none else (unescape? rest).map (c :: ·)

/-- Where the reading of a text stands; what was read of an open token is kept in reverse. -/
inductive Scan where
  | between
  | word (read : Text)
  | quoted (read : Text)
  | escape (read : Text)

/-- A character that stands outside every token. -/
def Scan.enter (c : Char) : List Token × Scan :=
  if isSpace c then ([], .between)
  else if c = '"' then ([], .quoted [])
  else
    match punctuation? c with
    | some t => ([t], .between)
    | none => ([], .word [c])

/-- The tokens that a character completes, and where the reading stands after it. -/
def Scan.step? : Scan → Char → Option (List Token × Scan)
  | .between, c => some (enter c)
  | .word read, c =>
    if isSpace c || c == '"' || (punctuation? c).isSome then
      let (tokens, scan) := enter c
      some (.word read.reverse :: tokens, scan)
    else some ([], .word (c :: read))
  | .quoted read, c =>
    if c = '"' then (unescape? read.reverse).map fun t => ([.quoted t], .between)
    else if c = '\\' then some ([], .escape read)
    else if c.toNat < 0x20 then none
    else some ([], .quoted (c :: read))
  | .escape read, c => some ([], .quoted (c :: '\\' :: read))

/-- The tokens of the rest of a text. -/
def Scan.tokens? : Scan → Text → Option (List Token)
  | .between, [] => some []
  | .word read, [] => some [.word read.reverse]
  | .quoted _, [] => none
  | .escape _, [] => none
  | scan, c :: rest => do
    let (tokens, next) ← scan.step? c
    (next.tokens? rest).map (tokens ++ ·)

/-- The tokens of a text. -/
def tokens? (t : Text) : Option (List Token) := Scan.between.tokens? t

end MediaNaming.Json
