import Mathlib.Algebra.Group.Int.Defs
import MediaNaming.Proofs.Numeral
import MediaNaming.Proofs.Text

/-!
The forms of a numeral. A numeral is an optional sign, any number of zeros and the digits of a
number, and exactly the texts of that form are read as numbers. An integer of 64 bits is read from
those whose value fits, and a word without a sign from those that fit and have no minus sign.
-/

namespace MediaNaming.Text

/-! ### Digits -/

/-- A digit is the one that its value is written with. -/
theorem ofNat_toNat_sub {c : Char} (h : c.isDigit = true) : ofNat (c.toNat - '0'.toNat) = [c] := by
  obtain ⟨hlow, hhigh⟩ := toNat_of_isDigit h
  have hzero : '0'.toNat = 48 := rfl
  have hchar : Nat.digitChar (c.toNat - '0'.toNat) = c := by
    apply Char.toNat_inj.mp
    rw [Nat.toNat_digitChar_of_lt_ten (by omega)]
    omega
  rw [ofNat, Nat.toDigits_of_lt_base (by omega), hchar]

/-- Digits behind the digits of a positive number write a number too. -/
theorem ofNat_append_digits {n : Nat} {t : Text} (hn : 0 < n) (ht : ∀ c ∈ t, c.isDigit = true) :
    ofNat n ++ t = ofNat (ofDigits n t) := by
  induction t generalizing n with
  | nil => exact List.append_nil _
  | cons c rest ih =>
      rw [List.forall_mem_cons] at ht
      have hbase : c.toNat - '0'.toNat < 10 := by
        have hrange := toNat_of_isDigit ht.1
        have hzero : '0'.toNat = 48 := rfl
        omega
      calc
        ofNat n ++ c :: rest = ofNat n ++ ofNat (c.toNat - '0'.toNat) ++ rest := by
          rw [ofNat_toNat_sub ht.1, List.append_assoc, List.singleton_append]
        _ = ofNat (10 * n + (c.toNat - '0'.toNat)) ++ rest := by
          rw [ofNat, ofNat, Nat.toDigits_append_toDigits (by decide) hn hbase, ofNat]
        _ = ofNat (ofDigits n (c :: rest)) := ih (by omega) ht.2

/-- Digits are zeros in front of the number that they write. -/
theorem exists_eq_zeros_append {t : Text} (hne : t ≠ []) (ht : ∀ c ∈ t, c.isDigit = true) :
    ∃ k, t = List.replicate k '0' ++ ofNat (ofDigits 0 t) := by
  induction t with
  | nil => exact absurd rfl hne
  | cons c rest ih =>
      rw [List.forall_mem_cons] at ht
      by_cases hc : c = '0'
      · subst hc
        by_cases hrest : rest = []
        · subst hrest
          exact ⟨0, rfl⟩
        · obtain ⟨k, hk⟩ := ih hrest ht.2
          refine ⟨k + 1, ?_⟩
          rw [List.replicate_succ, List.cons_append]
          exact congrArg (List.cons '0') hk
      · -- The number is positive from here on, so no digit that follows is lost.
        have hpos : 0 < c.toNat - '0'.toNat := by
          have hrange := toNat_of_isDigit ht.1
          have hzero : '0'.toNat = 48 := rfl
          have hne : c.toNat ≠ 48 := fun h => hc (Char.toNat_inj.mp h)
          omega
        have happend := ofNat_append_digits hpos ht.2
        rw [ofNat_toNat_sub ht.1] at happend
        refine ⟨0, ?_⟩
        rw [List.replicate_zero, List.nil_append]
        simpa [ofDigits] using happend

theorem ofDigits_zeros_append (k : Nat) (t : Text) :
    ofDigits 0 (List.replicate k '0' ++ t) = ofDigits 0 t := by
  induction k with
  | zero => rfl
  | succ k ih =>
      rw [List.replicate_succ, List.cons_append]
      exact ih

theorem isDigit_of_mem_zeros_append {k n : Nat} {c : Char}
    (hc : c ∈ List.replicate k '0' ++ ofNat n) : c.isDigit = true := by
  rcases List.mem_append.mp hc with hc | hc
  · rw [List.eq_of_mem_replicate hc]
    rfl
  · exact isDigit_of_mem_ofNat hc

theorem zeros_append_ne_nil (k n : Nat) : List.replicate k '0' ++ ofNat n ≠ [] :=
  List.append_ne_nil_of_right_ne_nil _ (ofNat_ne_nil n)

theorem digits?_eq_some_iff {t : Text} {n : Nat} :
    digits? t = some n ↔ ∃ k, List.replicate k '0' ++ ofNat n = t := by
  unfold digits?
  refine ⟨fun h => ?_, ?_⟩
  · split at h
    · next hdigits =>
      obtain ⟨k, hk⟩ := exists_eq_zeros_append hdigits.1 (List.all_eq_true.mp hdigits.2)
      rw [Option.some.inj h] at hk
      exact ⟨k, hk.symm⟩
    · cases h
  · rintro ⟨k, rfl⟩
    have hdigits : (List.replicate k '0' ++ ofNat n).all Char.isDigit = true :=
      List.all_eq_true.mpr fun _ => isDigit_of_mem_zeros_append
    rw [if_pos ⟨zeros_append_ne_nil k n, hdigits⟩, ofDigits_zeros_append, ofDigits_ofNat]

/-! ### Signs -/

inductive Sign where
  | absent | plus | minus
  deriving DecidableEq

def Sign.toText : Sign → Text
  | .absent => []
  | .plus => ['+']
  | .minus => ['-']

structure Numeral where
  sign : Sign
  /-- How many zeros lead the digits of the number. -/
  zeros : Nat
  /-- The number without its sign. -/
  size : Nat

namespace Numeral

def digits (w : Numeral) : Text := List.replicate w.zeros '0' ++ ofNat w.size

def toText (w : Numeral) : Text := w.sign.toText ++ w.digits

def value (w : Numeral) : Int := if w.sign = .minus then -(w.size : Int) else w.size

theorem digits?_digits (w : Numeral) : digits? w.digits = some w.size :=
  digits?_eq_some_iff.mpr ⟨w.zeros, rfl⟩

theorem isDigit_of_mem_digits {w : Numeral} {c : Char} (hc : c ∈ w.digits) : c.isDigit = true :=
  isDigit_of_mem_zeros_append hc

theorem digits_ne_nil (w : Numeral) : w.digits ≠ [] := zeros_append_ne_nil w.zeros w.size

/-- The first of the digits does not pass for a sign. -/
theorem exists_digits_eq_cons (w : Numeral) :
    ∃ c rest, w.digits = c :: rest ∧ c ≠ '+' ∧ c ≠ '-' := by
  obtain ⟨c, rest, hdigits⟩ := List.exists_cons_of_ne_nil w.digits_ne_nil
  have hc : c.isDigit = true := isDigit_of_mem_digits (hdigits ▸ List.mem_cons_self)
  refine ⟨c, rest, hdigits, ?_, ?_⟩
  · rintro rfl
    cases hc
  · rintro rfl
    cases hc

theorem nat?_toText {w : Numeral} (h : w.sign ≠ .minus) : nat? w.toText = some w.size := by
  have hread := w.digits?_digits
  rw [toText]
  cases hsign : w.sign with
  | minus => exact absurd hsign h
  | plus => simp [Sign.toText, nat?, hread]
  | absent =>
      obtain ⟨c, rest, hdigits, hplus, -⟩ := w.exists_digits_eq_cons
      rw [hdigits] at hread ⊢
      simp [Sign.toText, nat?, hplus, hread]

theorem int?_toText (w : Numeral) : int? w.toText = some w.value := by
  have hread := w.digits?_digits
  rw [toText, value]
  cases w.sign with
  | minus => simp [Sign.toText, int?, hread]
  | plus => simp [Sign.toText, int?, nat?, hread]
  | absent =>
      obtain ⟨c, rest, hdigits, hplus, hminus⟩ := w.exists_digits_eq_cons
      rw [hdigits] at hread ⊢
      simp [Sign.toText, int?, nat?, hminus, hplus, hread]

end Numeral

/-- Exactly the numerals without a minus sign are read as natural numbers. -/
theorem nat?_eq_some_iff {t : Text} {n : Nat} :
    nat? t = some n ↔ ∃ w : Numeral, w.toText = t ∧ w.sign ≠ .minus ∧ w.size = n := by
  refine ⟨fun h => ?_, ?_⟩
  · unfold nat? at h
    split at h
    · obtain ⟨k, rfl⟩ := digits?_eq_some_iff.mp h
      exact ⟨⟨.plus, k, n⟩, rfl, by simp, rfl⟩
    · obtain ⟨k, rfl⟩ := digits?_eq_some_iff.mp h
      exact ⟨⟨.absent, k, n⟩, rfl, by simp, rfl⟩
  · rintro ⟨w, rfl, hsign, rfl⟩
    exact Numeral.nat?_toText hsign

theorem uint32?_eq_some_iff {t : Text} {k : UInt32} :
    uint32? t = some k ↔ ∃ w : Numeral, w.toText = t ∧ w.sign ≠ .minus ∧ w.size = k.toNat := by
  rw [← nat?_eq_some_iff, uint32?, Option.map_eq_some_iff]
  refine ⟨?_, fun h => ⟨k.toNat, ?_, UInt32.ofNat_toNat⟩⟩
  · rintro ⟨n, hn, rfl⟩
    obtain ⟨hread, hlt⟩ := Option.filter_eq_some_iff.mp hn
    rw [hread, UInt32.toNat_ofNat_of_lt' (of_decide_eq_true hlt)]
  · exact Option.filter_eq_some_iff.mpr ⟨h, decide_eq_true k.toNat_lt⟩

/-- Exactly the numerals are read as integers, each as its value. -/
theorem int?_eq_some_iff {t : Text} {n : Int} :
    int? t = some n ↔ ∃ w : Numeral, w.toText = t ∧ w.value = n := by
  refine ⟨fun h => ?_, ?_⟩
  · unfold int? at h
    split at h
    · simp only [Option.map_eq_some_iff, Option.bind_eq_bind, Option.bind_eq_some_iff,
        Option.pure_def, Option.some.injEq] at h
      obtain ⟨-, ⟨m, hm, rfl⟩, rfl⟩ := h
      obtain ⟨k, rfl⟩ := digits?_eq_some_iff.mp hm
      exact ⟨⟨.minus, k, m⟩, rfl, rfl⟩
    · simp only [Option.map_eq_some_iff, Option.bind_eq_bind, Option.bind_eq_some_iff,
        Option.pure_def, Option.some.injEq] at h
      obtain ⟨-, ⟨m, hm, rfl⟩, rfl⟩ := h
      obtain ⟨w, hw, hsign, rfl⟩ := nat?_eq_some_iff.mp hm
      exact ⟨w, hw, if_neg hsign⟩
  · rintro ⟨w, rfl, rfl⟩
    exact w.int?_toText

theorem int64?_eq_some_iff {t : Text} {n : Int} :
    int64? t = some n ↔
      (∃ w : Numeral, w.toText = t ∧ w.value = n) ∧ -2 ^ 63 ≤ n ∧ n < 2 ^ 63 := by
  have hmin : Int64.minValue.toInt = -2 ^ 63 := by decide
  have hmax : Int64.maxValue.toInt = 2 ^ 63 - 1 := by decide
  rw [int64?, Option.filter_eq_some_iff, int?_eq_some_iff, decide_eq_true_eq, hmin, hmax]
  refine and_congr_right fun _ => ?_
  omega

/-! ### The characters of a numeral -/

namespace Numeral

theorem toText_ne_nil (w : Numeral) : w.toText ≠ [] :=
  List.append_ne_nil_of_right_ne_nil _ w.digits_ne_nil

theorem mem_toText {w : Numeral} {c : Char} (hc : c ∈ w.toText) :
    c = '+' ∨ c = '-' ∨ c.isDigit = true := by
  rcases List.mem_append.mp hc with hc | hc
  · cases hsign : w.sign with
    | absent => simp [hsign, Sign.toText] at hc
    | plus => simp_all [Sign.toText]
    | minus => simp_all [Sign.toText]
  · exact .inr (.inr (isDigit_of_mem_digits hc))

theorem not_isAlpha_of_mem_toText {w : Numeral} {c : Char} (hc : c ∈ w.toText) :
    c.isAlpha = false := by
  rcases mem_toText hc with rfl | rfl | hdigit
  · rfl
  · rfl
  · have hrange := toNat_of_isDigit hdigit
    rw [Bool.eq_false_iff]
    intro halpha
    have hletter := toNat_of_isAlpha halpha
    omega

/-- No numeral is a word. -/
theorem exists_not_isAlpha (w : Numeral) : ∃ c ∈ w.toText, c.isAlpha = false := by
  obtain ⟨c, rest, htext⟩ := List.exists_cons_of_ne_nil w.toText_ne_nil
  have hmem : c ∈ w.toText := htext ▸ List.mem_cons_self
  exact ⟨c, hmem, not_isAlpha_of_mem_toText hmem⟩

theorem not_isBlank_of_mem_toText {w : Numeral} {c : Char} (hc : c ∈ w.toText) :
    isBlank c = false := by
  rcases mem_toText hc with rfl | rfl | hdigit
  · rfl
  · rfl
  · exact not_isBlank_of_isAlphanum (by simp [Char.isAlphanum, hdigit])

end Numeral

end MediaNaming.Text
