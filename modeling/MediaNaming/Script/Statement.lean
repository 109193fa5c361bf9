import MediaNaming.Script.Comment
import MediaNaming.Script.Step

/-!
Statements: a step, alone after `DO` or behind a guard after `IF`. Keywords are known in any case
and need white space after them.
-/

namespace MediaNaming

structure Statement where
  guard : Option Guard
  step : Step
  deriving DecidableEq

/-- What follows a keyword of two letters at the beginning of a text. -/
def afterKeyword? (keyword : Text) : Text → Option Text
  | a :: b :: c :: rest =>
    if Text.sameLetters [a, b] keyword ∧ Text.isBlank c then some (c :: rest) else none
  | _ => none

namespace Statement

/-- The statement that a line writes which has no comment and no white space at its ends. -/
def ofTrimmed (line : Text) : Except LineFault Statement :=
  match afterKeyword? ['D', 'O'] line with
  | some rest => (Step.ofText rest).map fun step => ⟨none, step⟩
  | none =>
    match afterKeyword? ['I', 'F'] line with
    | none => .error (.malformedLine line)
    | some rest => do
      let (guard, rest) ← Guard.read rest
      match afterKeyword? ['D', 'O'] rest.trimStart with
      | none => throw (.malformedLine line)
      | some rest => return ⟨some guard, ← Step.ofText rest⟩

/-- Whether the statement takes part in a run. -/
def isActive (st : Statement) (b : Bundle) : Bool :=
  match st.guard with
  | none => true
  | some g => g.holds b

end Statement

end MediaNaming
