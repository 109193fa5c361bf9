import MediaNaming.Text.Basic

/-!
TOML values. A configuration is made of texts, integers and truth values; of every other value only
the kind is kept, since nothing is read from it.
-/

namespace MediaNaming

inductive Toml where
  | text (t : Text)
  | int (n : Int)
  | bool (b : Bool)
  | real
  | moment
  | array
  | table
  deriving DecidableEq

namespace Toml

/-- The white space that may stand within a line. -/
def isGap (c : Char) : Bool := c == ' ' || c == '\t'

/-- The controls that a line may not hold. -/
def isControl (c : Char) : Bool := (c.toNat < 0x20 && c != '\t') || c.toNat == 0x7F

def skipGap (t : Text) : Text := t.dropWhile isGap

def skipComment : Text → Text
  | '#' :: rest => rest.dropWhile (!isControl ·)
  | t => t

/-- What follows the end of a line, if nothing but white space and a comment is left on it. -/
def lineEnd? (t : Text) : Option Text :=
  match skipComment (skipGap t) with
  | [] => some []
  | '\n' :: rest => some rest
  | '\r' :: '\n' :: rest => some rest
  | _ => none

theorem skipGap_length_le (t : Text) : (skipGap t).length ≤ t.length :=
  (List.dropWhile_sublist _).length_le

theorem skipComment_length_le (t : Text) : (skipComment t).length ≤ t.length := by
  unfold skipComment
  split
  · next rest => exact Nat.le_succ_of_le (List.dropWhile_sublist (!isControl ·)).length_le
  · exact Nat.le_refl _

/-- The end of a line takes at least one character of a text that has any. -/
theorem lineEnd?_length_lt {c : Char} {t rest : Text} (h : lineEnd? (c :: t) = some rest) :
    rest.length < (c :: t).length := by
  have h₁ := skipComment_length_le (skipGap (c :: t))
  have h₂ := skipGap_length_le (c :: t)
  unfold lineEnd? at h
  split at h
  · cases h
    exact Nat.succ_pos _
  · next ht =>
    cases h
    rw [ht] at h₁
    exact Nat.le_trans h₁ h₂
  · next ht =>
    cases h
    rw [ht] at h₁
    exact Nat.le_trans (Nat.le_of_succ_le h₁) h₂
  · cases h

/-- Passes over line ends, white space and comments. -/
def skipLines (t : Text) : Text :=
  match _ht : skipGap t with
  | [] => []
  | c :: rest =>
    match _h : lineEnd? (c :: rest) with
    | some next => skipLines next
    | none => c :: rest
termination_by t.length
decreasing_by
  have h₁ := lineEnd?_length_lt _h
  have h₂ := skipGap_length_le t
  rw [_ht] at h₂
  omega

end Toml

end MediaNaming
