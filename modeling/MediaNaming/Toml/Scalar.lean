import MediaNaming.Toml.Basic
import MediaNaming.Text.Finite

/-!
Values without quotes: truth values, integers, reals, and the four forms of dates and times.
-/

namespace MediaNaming.Toml

/-- The digits of a numeral without the underscores between them. The flag tells whether a digit
stands right before the text. -/
def joinDigits? (isDigit : Char → Bool) : Bool → Text → Option Text
  | true, [] => some []
  | false, [] => none
  | true, '_' :: rest => joinDigits? isDigit false rest
  | _, c :: rest => if isDigit c then (joinDigits? isDigit true rest).map (c :: ·) else none

def decimalDigits? (t : Text) : Option Text := joinDigits? Char.isDigit false t

/-- Digits without a leading zero, unless zero is all there is. -/
def wholeDigits? (t : Text) : Option Text :=
  (decimalDigits? t).filter fun ds => ds.head? ≠ some '0' ∨ ds.length = 1

/-- A sign, if there is one, and what follows it. -/
def splitSign : Text → Bool × Text
  | '-' :: rest => (true, rest)
  | '+' :: rest => (false, rest)
  | t => (false, t)

/-- An integer in a base other than ten. -/
def radixInt? (base : Nat) (t : Text) : Option Int :=
  let isDigit c := (Text.hexDigit? c).any (· < base)
  (joinDigits? isDigit false t).map fun ds =>
    ((ds.foldl (fun n c => base * n + (Text.hexDigit? c).getD 0) 0 : Nat) : Int)

/-- An integer that a word of 64 bits holds, with or without a sign. -/
def int? (t : Text) : Option Int :=
  let n? := match t with
    | '0' :: 'x' :: rest => radixInt? 16 rest
    | '0' :: 'o' :: rest => radixInt? 8 rest
    | '0' :: 'b' :: rest => radixInt? 2 rest
    | t =>
      let (negative, rest) := splitSign t
      (wholeDigits? rest).map fun ds =>
        if negative then -(Text.ofDigits 0 ds : Int) else (Text.ofDigits 0 ds : Int)
  n?.filter fun n => Int64.minValue.toInt ≤ n ∧ n < UInt64.size

/-- The exponent at the end of a real, or zero if nothing is left of it. -/
def exponent? : Text → Option Int
  | [] => some 0
  | e :: rest =>
    if e = 'e' ∨ e = 'E' then
      let (negative, digits) := splitSign rest
      (decimalDigits? digits).map fun ds =>
        if negative then -(Text.ofDigits 0 ds : Int) else (Text.ofDigits 0 ds : Int)
    else none

/-- A real number: a fraction, an exponent or both after the whole digits, or the word for an
infinity or for no number. -/
def isReal (t : Text) : Bool :=
  let body := (splitSign t).2
  let rest := body.dropWhile fun c => c.isDigit || c == '_'
  let parts : Option (Text × Text × Text) := do
    let whole ← wholeDigits? (body.takeWhile fun c => c.isDigit || c == '_')
    match rest with
    | '.' :: after =>
      let fraction ← decimalDigits? (after.takeWhile fun c => c.isDigit || c == '_')
      return (whole, fraction, after.dropWhile fun c => c.isDigit || c == '_')
    | _ => return (whole, [], rest)
  body == "inf".toList || body == "nan".toList ||
    match parts with
    | none => false
    | some (whole, fraction, tail) =>
      match exponent? tail with
      | none => false
      | some e =>
        !rest.isEmpty && Text.isFinite (Text.ofDigits 0 (whole ++ fraction)) (e - fraction.length)

/-- The number of days in a month of a year, or zero if there is no such month. -/
def daysInMonth (year month : Nat) : Nat :=
  match month with
  | 2 => if year % 4 = 0 ∧ (year % 100 ≠ 0 ∨ year % 400 = 0) then 29 else 28
  | 4 | 6 | 9 | 11 => 30
  | 1 | 3 | 5 | 7 | 8 | 10 | 12 => 31
  | _ => 0

/-- What follows a date at the beginning of a text. -/
def afterDate? : Text → Option Text
  | a :: b :: c :: d :: '-' :: e :: f :: '-' :: g :: h :: rest => do
    let year ← Text.digits? [a, b, c, d]
    let month ← Text.digits? [e, f]
    let day ← Text.digits? [g, h]
    if 1 ≤ day ∧ day ≤ daysInMonth year month then some rest else none
  | _ => none

/-- What follows the seconds of a time of day, with or without a fraction of them. -/
def afterSeconds? : Text → Option Text
  | e :: f :: rest => do
    let second ← Text.digits? [e, f]
    if 60 < second then none
    match rest with
    | '.' :: x :: after => if x.isDigit then some (after.dropWhile Char.isDigit) else none
    | rest => some rest
  | _ => none

/-- What follows a time of day at the beginning of a text. The seconds may be left out. -/
def afterTime? : Text → Option Text
  | a :: b :: ':' :: c :: d :: rest => do
    let hour ← Text.digits? [a, b]
    let minute ← Text.digits? [c, d]
    if 24 ≤ hour ∨ 60 ≤ minute then none
    match rest with
    | ':' :: rest => afterSeconds? rest
    | rest => some rest
  | _ => none

/-- The offset from universal time that may end a moment. -/
def isOffset : Text → Bool
  | [] => true
  | ['Z'] => true
  | ['z'] => true
  | [s, a, b, ':', c, d] =>
    (s == '+' || s == '-') && (Text.digits? [a, b]).any (· < 24) &&
      (Text.digits? [c, d]).any (· < 60)
  | _ => false

/-- A date, a time of day, or both, with an offset or without. -/
def isMoment (t : Text) : Bool :=
  match afterDate? t with
  | some [] => true
  | some (c :: rest) =>
    (c == 'T' || c == 't' || c == ' ') && (afterTime? rest).any isOffset
  | none => (afterTime? t).any (·.isEmpty)

/-- The value that a word writes. -/
def ofWord? (t : Text) : Option Toml :=
  if t = "true".toList then some (.bool true)
  else if t = "false".toList then some (.bool false)
  else
    match int? t with
    | some n => some (.int n)
    | none =>
      if isReal t then some .real
      else if isMoment t then some .moment
      else none

/-- The characters that end a word. -/
def endsWord (c : Char) : Bool :=
  isGap c || isControl c || [',', '[', ']', '\x7b', '\x7d', '=', '#', '"', '\''].contains c

/-- The word at the beginning of a text, and what follows it. A date takes in the time that stands
one space behind it. -/
def splitWord (t : Text) : Text × Text :=
  let word := t.takeWhile (!endsWord ·)
  let rest := t.dropWhile (!endsWord ·)
  match rest with
  | ' ' :: c :: after =>
    if (afterDate? word).any (·.isEmpty) && c.isDigit then
      (word ++ ' ' :: (c :: after).takeWhile (!endsWord ·), (c :: after).dropWhile (!endsWord ·))
    else (word, rest)
  | rest => (word, rest)

end MediaNaming.Toml
