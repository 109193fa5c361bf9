import MediaNaming.SafeName
import MediaNaming.Script.Basic

/-!
Runs of a script over a bundle. A file that is not linked, has no series or has no extension keeps
its name whatever the script says. A guarded step that gives up ends the run on its line; one
without a guard does nothing. What the other steps build up is the new name, less its extension.
-/

namespace MediaNaming

inductive Outcome where
  /-- The new name, with its extension. -/
  | renamed (name : Text)
  /-- A guarded step on that line gave up. -/
  | failed (line : Nat)
  | empty
  | unlinked
  | seriesMissing
  | extensionMissing
  deriving DecidableEq

namespace Outcome

def name? : Outcome → Option Text
  | .renamed name => some name
  | _ => none

def message : Outcome → Text
  | .renamed name => "renamed to ".toList ++ name
  | .failed line => "script failed on line ".toList ++ Text.ofNat line
  | .empty => "script produced an empty name".toList
  | .unlinked => "file is not linked to any episode".toList
  | .seriesMissing => "series metadata is missing".toList
  | .extensionMissing => "file has no extension".toList

end Outcome

/-- The name after a statement, or the number of its line if it gives up. -/
def Numbered.run (s : Settings) (b : Bundle) (name : Text) (st : Numbered Statement) :
    Except Nat Text :=
  if !st.item.isActive b then .ok name
  else if st.item.guard = none ∧ st.item.step = .reject then .ok name
  else
    match st.item.step.perform? s b name with
    | some name => .ok name
    | none => .error st.number

/-- The name that the statements build up, or the line on which they give up. -/
def Script.build (s : Settings) (b : Bundle) (script : Script) : Except Nat Text :=
  script.statements.foldlM (Numbered.run s b) []

/-- The stem of the new name: backticks become single quotes, and the settings may ask for a safe
name. -/
def finish (s : Settings) (built : Text) : Text :=
  let stem := built.map fun c => if c = '\x60' then '\'' else c
  if s.safeNames then SafeName.ofText stem else stem

/-- What a script makes of the name of a file. -/
def Script.run (s : Settings) (script : Script) (b : Bundle) : Except CutFault Outcome :=
  if !b.hasEpisode then .ok .unlinked
  else if b.series.isNone then .ok .seriesMissing
  else
    b.file.extension.map fun
      | none => .extensionMissing
      | some extension =>
        match script.build s b with
        | .error line => .failed line
        | .ok built =>
          match finish s built with
          | [] => .empty
          | stem => .renamed (stem ++ extension)

end MediaNaming
