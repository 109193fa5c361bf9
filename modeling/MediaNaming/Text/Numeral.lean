import MediaNaming.Text.Basic

/-!
Decimal numerals. A sign may stand before the digits and any number of zeros may lead them; only
the ASCII digits count. Words of fixed width refuse a numeral that is out of their range, and the
unsigned ones refuse a minus sign even before zero.
-/

namespace MediaNaming.Text

/-- The number that a run of digits stands for, with `n` standing before them. -/
def ofDigits (n : Nat) (t : Text) : Nat := t.foldl (fun n c => 10 * n + (c.toNat - '0'.toNat)) n

/-- The number written by a non-empty run of digits. -/
def digits? (t : Text) : Option Nat :=
  if t ≠ [] ∧ t.all Char.isDigit then some (ofDigits 0 t) else none

/-- A natural number, with or without a plus sign. -/
def nat? : Text → Option Nat
  | '+' :: t => digits? t
  | t => digits? t

/-- An integer, with or without a sign. -/
def int? : Text → Option Int
  | '-' :: t => (digits? t).map fun n => -(n : Int)
  | t => (nat? t).map fun n => (n : Int)

/-- An integer of 64 bits, sign included. -/
def int64? (t : Text) : Option Int :=
  (int? t).filter fun n => Int64.minValue.toInt ≤ n ∧ n ≤ Int64.maxValue.toInt

def uint32? (t : Text) : Option UInt32 := ((nat? t).filter (· < UInt32.size)).map .ofNat

def uint64? (t : Text) : Option UInt64 := ((nat? t).filter (· < UInt64.size)).map .ofNat

/-- The value of a hexadecimal digit in either case. -/
def hexDigit? (c : Char) : Option Nat :=
  if c.isDigit then some (c.toNat - '0'.toNat)
  else if 'a' ≤ c ∧ c ≤ 'f' then some (c.toNat - 'a'.toNat + 10)
  else if 'A' ≤ c ∧ c ≤ 'F' then some (c.toNat - 'A'.toNat + 10)
  else none

/-- The number that a run of hexadecimal digits stands for. -/
def hex? (t : Text) : Option Nat := t.foldlM (fun n c => (hexDigit? c).map (16 * n + ·)) 0

/-- The digits of a number, without leading zeros. -/
def ofNat (n : Nat) : Text := Nat.toDigits 10 n

/-- The digits of an integer after its minus sign, if it has one. -/
def ofInt : Int → Text
  | .ofNat n => ofNat n
  | .negSucc n => '-' :: ofNat (n + 1)

/-- The digits of a number after as many zeros as fill `width` places. -/
def ofNatPadded (width n : Nat) : Text := (ofNat n).leftpad width '0'

end MediaNaming.Text
