import MediaNaming.Toml.Basic
import MediaNaming.Text.Numeral

/-!
Quoted texts in their four forms: double quotes resolve escapes and single quotes do not, and
three quotes let a text run over several lines.
-/

namespace MediaNaming.Toml

/-- The body of a text in double quotes with its escapes as written, and what follows the closing
quote. -/
def basicBody? : Text → Option (Text × Text)
  | [] => none
  | '"' :: rest => some ([], rest)
  | '\\' :: c :: rest =>
    if isControl c then none else (basicBody? rest).map fun (s, r) => ('\\' :: c :: s, r)
  | c :: rest => if isControl c then none else (basicBody? rest).map fun (s, r) => (c :: s, r)

/-- The body of a text in single quotes, and what follows the closing quote. -/
def literalBody? : Text → Option (Text × Text)
  | [] => none
  | '\'' :: rest => some ([], rest)
  | c :: rest => if isControl c then none else (literalBody? rest).map fun (s, r) => (c :: s, r)

/-- The body of a text in three quotes, and what follows the closing ones. Up to two quotes may
stand right before the closing three, and lines keep the ends they are written with. -/
def longBody? (quote : Char) (escapes : Bool) : Text → Option (Text × Text)
  | [] => none
  | c :: rest =>
    if c = quote then
      let run := min 5 ((c :: rest).takeWhile (· = quote)).length
      if 3 ≤ run then some (List.replicate (run - 3) quote, (c :: rest).drop run)
      else (longBody? quote escapes rest).map fun (s, r) => (c :: s, r)
    else if escapes && c == '\\' && (rest.head? == some quote || rest.head? == some '\\') then
      match rest with
      | [] => none
      | e :: rest => (longBody? quote escapes rest).map fun (s, r) => (c :: e :: s, r)
    else if c = '\r' ∧ rest.head? ≠ some '\n' then none
    else if isControl c && c != '\n' && c != '\r' then none
    else (longBody? quote escapes rest).map fun (s, r) => (c :: s, r)

/-- A text in three quotes may start on the line after them. -/
def skipFirstNewline : Text → Text
  | '\n' :: rest => rest
  | '\r' :: '\n' :: rest => rest
  | t => t

/-- The character with that code point, unless it is a surrogate or none at all. -/
def codePoint? (n : Nat) : Option Char := if n.isValidChar then some (Char.ofNat n) else none

/-- The character whose code point the hexadecimal digits write. -/
def hexChar? (digits : Text) : Option Char := (Text.hex? digits).bind codePoint?

/-- The character that a one-letter escape stands for. -/
def shortEscape? : Char → Option Char
  | '"' => some '"'
  | '\\' => some '\\'
  | 'b' => some '\x08'
  | 'e' => some '\x1b'
  | 't' => some '\t'
  | 'n' => some '\n'
  | 'f' => some '\x0c'
  | 'r' => some '\r'
  | _ => none

/-- The character that the escape behind a backslash stands for, and what follows it. -/
def escape? : Text → Option (Char × Text)
  | [] => none
  | 'x' :: a :: b :: rest => (hexChar? [a, b]).map fun x => (x, rest)
  | 'u' :: a :: b :: c :: d :: rest => (hexChar? [a, b, c, d]).map fun x => (x, rest)
  | 'U' :: a :: b :: c :: d :: e :: f :: g :: h :: rest =>
    (hexChar? [a, b, c, d, e, f, g, h]).map fun x => (x, rest)
  | c :: rest => (shortEscape? c).map fun x => (x, rest)

/-- Holds for white space inside and between lines. -/
def isBlankOrLineEnd (c : Char) : Bool := isGap c || c == '\r' || c == '\n'

/-- What follows a backslash that ends its line, from the next visible character on. -/
def afterLineEnd? (t : Text) : Option Text :=
  match t.dropWhile isGap with
  | '\n' :: rest => some (rest.dropWhile isBlankOrLineEnd)
  | '\r' :: '\n' :: rest => some (rest.dropWhile isBlankOrLineEnd)
  | _ => none

theorem escape?_length_lt {t rest : Text} {x : Char} (h : escape? t = some (x, rest)) :
    rest.length < t.length := by
  unfold escape? at h
  split at h
  · cases h
  all_goals
    obtain ⟨y, _, hy⟩ := Option.map_eq_some_iff.1 h
    cases hy
    simp only [List.length_cons]
    omega

theorem afterLineEnd?_length_le {t rest : Text} (h : afterLineEnd? t = some rest) :
    rest.length ≤ t.length := by
  have hgap := (List.dropWhile_sublist isGap (l := t)).length_le
  have hblank (u : Text) := (List.dropWhile_sublist isBlankOrLineEnd (l := u)).length_le
  unfold afterLineEnd? at h
  split at h
  · next u hu =>
    cases h
    have := hblank u
    simp only [hu, List.length_cons] at hgap
    omega
  · next u hu =>
    cases h
    have := hblank u
    simp only [hu, List.length_cons] at hgap
    omega
  · cases h

/-- Resolves the escapes of a text in double quotes. Where `joins` holds, a backslash may also end a
line, and takes the white space up to the next visible character with it. -/
def unescape? (joins : Bool) : Text → Option Text
  | [] => some []
  | c :: rest =>
    if c = '\\' then
      match _hj : (if joins then afterLineEnd? rest else none) with
      | some after => unescape? joins after
      | none =>
        match _he : escape? rest with
        | some (x, after) => (unescape? joins after).map (x :: ·)
        | none => none
    else (unescape? joins rest).map (c :: ·)
termination_by t => t.length
decreasing_by
  · split at _hj
    · have := afterLineEnd?_length_le _hj
      simp only [List.length_cons]
      omega
    · cases _hj
  · have := escape?_length_lt _he
    simp only [List.length_cons]
    omega
  · simp only [List.length_cons]
    omega

/-- The quoted text at the beginning of a text, on one line, and what follows it. -/
def quoted? : Text → Option (Text × Text)
  | '"' :: rest => do
    let (body, rest) ← basicBody? rest
    return (← unescape? false body, rest)
  | '\'' :: rest => literalBody? rest
  | _ => none

/-- The quoted text at the beginning of a text, in any form, and what follows it. -/
def anyQuoted? : Text → Option (Text × Text)
  | '"' :: '"' :: '"' :: rest => do
    let (body, rest) ← longBody? '"' true (skipFirstNewline rest)
    return (← unescape? true body, rest)
  | '\'' :: '\'' :: '\'' :: rest => longBody? '\'' false (skipFirstNewline rest)
  | t => quoted? t

end MediaNaming.Toml
