import MediaNaming.Json.Number
import Mathlib.Data.List.TakeWhile

/-!
Numerals are read back. A number is written with digits only and without a zero that leads another
digit, which is the form that JSON asks for, and a number that fits a word is finite.
-/

namespace MediaNaming

namespace Text

theorem ofDigits_ofNat (n : Nat) : ofDigits 0 (ofNat n) = n := by
  have h := Nat.ofDigitChars_ten_toDigits (n := n)
  rwa [Nat.ofDigitChars_eq_foldl] at h

theorem isDigit_of_mem_ofNat {n : Nat} {c : Char} (hc : c ∈ ofNat n) : c.isDigit = true :=
  Nat.isDigit_of_mem_toDigits (by decide) (by decide) hc

theorem ofNat_ne_nil (n : Nat) : ofNat n ≠ [] := Nat.toDigits_ne_nil

/-- Only zero itself is written with a zero in front. -/
theorem eq_zero_of_head?_ofNat {n : Nat} (h : (ofNat n).head? = some '0') : n = 0 := by
  induction n using Nat.strongRecOn with
  | ind n ih =>
      rcases Nat.lt_or_ge n 10 with hn | hn
      · rw [ofNat, Nat.toDigits_of_lt_base hn] at h
        exact (by decide : ∀ n < 10, [Nat.digitChar n].head? = some '0' → n = 0) n hn h
      · obtain ⟨c, rest, hdigits⟩ := List.exists_cons_of_ne_nil (ofNat_ne_nil (n / 10))
        rw [ofNat, Nat.toDigits_of_base_le (by decide) hn, ← ofNat, hdigits] at h
        have hzero : n / 10 = 0 := ih (n / 10) (by omega) (by rw [hdigits]; exact h)
        omega

theorem length_eq_one_of_head?_ofNat {n : Nat} (h : (ofNat n).head? = some '0') :
    (ofNat n).length = 1 := by
  rw [eq_zero_of_head?_ofNat h]
  rfl

theorem takeWhile_ofNat (n : Nat) : (ofNat n).takeWhile Char.isDigit = ofNat n :=
  List.takeWhile_eq_self_iff.2 fun _ hc => isDigit_of_mem_ofNat hc

theorem dropWhile_ofNat (n : Nat) : (ofNat n).dropWhile Char.isDigit = [] :=
  List.dropWhile_eq_nil_iff.2 fun _ hc => isDigit_of_mem_ofNat hc

theorem le_ofDigits (n : Nat) (t : Text) : n ≤ ofDigits n t := by
  induction t generalizing n with
  | nil => exact Nat.le_refl n
  | cons c rest ih =>
      calc
        n ≤ 10 * n + (c.toNat - '0'.toNat) := by omega
        _ ≤ ofDigits n (c :: rest) := ih _

/-- Rounding no more than doubles a number. -/
theorem nearestBinary_le (n : Nat) : nearestBinary n ≤ 2 * n := by
  rcases Nat.eq_zero_or_pos n with rfl | hn
  · decide
  have hunit : Nat.pow 2 (n.log2 + 1 - 53) ≤ n :=
    calc
      2 ^ (n.log2 + 1 - 53) ≤ 2 ^ n.log2 := Nat.pow_le_pow_right (by decide) (by omega)
      _ ≤ n := Nat.log2_self_le (Nat.ne_of_gt hn)
  have hq : n / Nat.pow 2 (n.log2 + 1 - 53) * Nat.pow 2 (n.log2 + 1 - 53) ≤ n :=
    Nat.div_mul_le_self n _
  unfold nearestBinary
  dsimp only
  split
  · rw [Nat.add_mul]
    omega
  · omega

end Text

namespace Json

theorem fillWord_eq_of_lt {n : Nat} {t : Text} (h : Text.ofDigits n t < UInt64.size) :
    fillWord n t = (Text.ofDigits n t, []) := by
  induction t generalizing n with
  | nil => rfl
  | cons c rest ih =>
      have hc : Text.ofDigits n [c] < UInt64.size :=
        Nat.lt_of_le_of_lt (Text.le_ofDigits _ rest) h
      rw [fillWord, if_pos hc]
      exact ih h

theorem isFinite_ofNat {n : Nat} (h : n < UInt64.size) : isFinite (Text.ofNat n) [] 0 = true := by
  have hfill : fillWord 0 (Text.ofNat n) = (n, []) := by
    rw [fillWord_eq_of_lt, Text.ofDigits_ofNat]
    rwa [Text.ofDigits_ofNat]
  have hproduct : Text.nearestBinary n * Text.nearestBinary 1 < Text.infinityThreshold :=
    calc
      Text.nearestBinary n * Text.nearestBinary 1 ≤ 2 * n * 1 :=
        Nat.mul_le_mul (Text.nearestBinary_le n) (by decide)
      _ < Text.infinityThreshold := by
        have hsize : 2 * UInt64.size < Text.infinityThreshold := by decide +kernel
        omega
  simp only [isFinite, hfill, fillWord, Text.isFiniteProduct]
  split
  · rfl
  · simpa using hproduct

theorem number?_ofNat {n : Nat} (h : n < UInt64.size) :
    number? (Text.ofNat n) = some (.int n) := by
  obtain ⟨c, rest, hdigits⟩ := List.exists_cons_of_ne_nil (Text.ofNat_ne_nil n)
  have hc : c ≠ '-' := by
    rintro rfl
    exact absurd (Text.isDigit_of_mem_ofNat (hdigits ▸ List.mem_cons_self)) (by decide)
  have htake := Text.takeWhile_ofNat n
  have hdrop := Text.dropWhile_ofNat n
  have hvalue := Text.ofDigits_ofNat n
  have hzero := Text.length_eq_one_of_head?_ofNat (n := n)
  have hfinite := isFinite_ofNat h
  rw [hdigits] at htake hdrop hvalue hzero hfinite ⊢
  simpa [number?, hc, htake, hdrop, fraction?, exponent?, hvalue, hfinite] using hzero

theorem number?_neg_ofNat {n : Nat} (h : n < UInt64.size) (hn : n ≠ 0) :
    number? ('-' :: Text.ofNat n) = some (.int (-n)) := by
  have hzero := Text.length_eq_one_of_head?_ofNat (n := n)
  simpa [number?, Text.takeWhile_ofNat, Text.dropWhile_ofNat, Text.ofNat_ne_nil, fraction?,
    exponent?, Text.ofDigits_ofNat, isFinite_ofNat h, hn] using hzero

/-- An integer that fits a word in its absolute value is read back. -/
theorem number?_ofInt {n : Int} (h : n.natAbs < UInt64.size) :
    number? (Text.ofInt n) = some (.int n) := by
  cases n with
  | ofNat n => exact number?_ofNat h
  | negSucc n => exact number?_neg_ofNat h (Nat.succ_ne_zero n)

end Json

end MediaNaming
