import MediaNaming.Json.Basic
import MediaNaming.Text.Finite

/-!
JSON numerals. Only integers have a value here. Of any other number it is decided whether it is
finite, in the arithmetic of a quick reader: the leading digits that a word of 64 bits holds and the
power of ten are rounded each for itself, and then their product is. Close to the largest number
the result differs from the exact one in both directions.
-/

namespace MediaNaming.Json

/-- The number that the leading digits make after `n` as long as a word of 64 bits holds it, and
the digits left over. -/
def fillWord (n : Nat) : Text → Nat × Text
  | [] => (n, [])
  | c :: rest =>
    if Text.ofDigits n [c] < UInt64.size then fillWord (Text.ofDigits n [c]) rest else (n, c :: rest)

/-- Whether a numeral is finite. Each whole digit that is left over counts as a power of ten, and a
digit of the fraction that is left over does not count. -/
def isFinite (whole fraction : Text) (exponent : Int) : Bool :=
  let (n, wholeLeft) := fillWord 0 whole
  let (n, fractionLeft) := fillWord n fraction
  Text.isFiniteProduct n
    (exponent + wholeLeft.length + fractionLeft.length - fraction.length)

/-- The exponent that ends a numeral: a sign and at least one digit, or nothing at all. -/
def exponent? : Text → Option Int
  | [] => some 0
  | e :: t =>
    if e ≠ 'e' ∧ e ≠ 'E' then none
    else
      match t with
      | '-' :: t => (Text.digits? t).map fun n => -(n : Int)
      | '+' :: t => (Text.digits? t).map fun n => (n : Int)
      | t => (Text.digits? t).map fun n => (n : Int)

/-- The digits after the point, if there is one, and what follows them. -/
def fraction? : Text → Option (Text × Text)
  | '.' :: t =>
    let digits := t.takeWhile Char.isDigit
    if digits.isEmpty then none else some (digits, t.dropWhile Char.isDigit)
  | t => some ([], t)

/-- A number. It needs a digit on both sides of its point, has no leading zero, and must be
finite. -/
def number? (t : Text) : Option Json := do
  let (negative, body) := match t with
    | '-' :: t => (true, t)
    | t => (false, t)
  let whole := body.takeWhile Char.isDigit
  let rest := body.dropWhile Char.isDigit
  if whole.isEmpty || (whole.head? == some '0' && whole.length != 1) then none
  let (fraction, rest') ← fraction? rest
  let e ← exponent? rest'
  if !isFinite whole fraction e then none
  let n := Text.ofDigits 0 whole
  if rest.isEmpty && !(negative && n == 0) then
    some (.int (if negative then -(n : Int) else n))
  else some (.real t)

end MediaNaming.Json
