import MediaNaming.Script.Statement
import MediaNaming.Text.Lines

/-!
Scripts. Every line is read on its own and is a statement, a line that is skipped with the reason
why, or nothing; what one line holds has no bearing on another.
-/

namespace MediaNaming

/-- What a line of a script holds. -/
inductive Line where
  | blank
  | statement (st : Statement)
  /-- A line that is not understood, without its comment. -/
  | skipped (t : Text) (reason : LineFault)
  deriving DecidableEq

def Line.ofText (raw : Text) : Line :=
  match (stripComment raw).trim with
  | [] => .blank
  | c :: rest =>
    match Statement.ofTrimmed (c :: rest) with
    | .ok st => .statement st
    | .error reason => .skipped (c :: rest) reason

def Line.statement? : Line → Option Statement
  | .statement st => some st
  | _ => none

def Line.skipped? : Line → Option (Text × LineFault)
  | .skipped t reason => some (t, reason)
  | _ => none

/-- Something under the number of its line. -/
structure Numbered (α : Type) where
  number : Nat
  item : α
  deriving DecidableEq

structure Script where
  statements : List (Numbered Statement) := []
  skipped : List (Numbered (Text × LineFault)) := []
  deriving DecidableEq

namespace Script

/-- What `pick` finds on the lines, with their numbers counted from `n`. -/
def pickFrom {α : Type} (pick : Line → Option α) (n : Nat) : List Line → List (Numbered α)
  | [] => []
  | l :: rest =>
    match pick l with
    | some a => ⟨n, a⟩ :: pickFrom pick (n + 1) rest
    | none => pickFrom pick (n + 1) rest

/-- The script on a list of lines, the first of which has number one. -/
def ofLines (ls : List Line) : Script where
  statements := pickFrom Line.statement? 1 ls
  skipped := pickFrom Line.skipped? 1 ls

/-- The script that a text writes. -/
def ofText (t : Text) : Script := ofLines (t.lines.map Line.ofText)

def isEmpty (script : Script) : Bool := script.statements.isEmpty

end Script

end MediaNaming
