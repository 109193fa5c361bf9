import MediaNaming.Json.Reader
import MediaNaming.Settings
import MediaNaming.Toml.Reader

/-!
Configurations: the settings of a run and the path of the script to run. Each is written in TOML or
in JSON under the same three keys; keys that are not known are passed over, and a known key may be
given only once.
-/

namespace MediaNaming

structure Config where
  settings : Settings := {}
  /-- The file that holds the script; without one the stock script runs. -/
  scriptPath : Option Text := none
  deriving DecidableEq

namespace Config

def scriptPathKey : String := "script_path"

def toJson (c : Config) : Json :=
  .ofFields (Settings.keys.zip [.ofNat c.settings.maxTitleLength.toNat, .bool c.settings.safeNames]
    ++ [(scriptPathKey, Json.ofOption .text c.scriptPath)])

def ofJson? : Json → Option Config
  | .object fields => do
    let maxTitleLength ← Json.onlyField? fields "max_episode_title_length"
    let safeNames ← Json.onlyField? fields "replace_invalid_path_characters"
    let scriptPath ← Json.onlyField? fields scriptPathKey
    return {
      settings := {
        maxTitleLength := ← Json.orElse? Json.uint64? 33 maxTitleLength
        safeNames := ← Json.orElse? Json.bool? true safeNames }
      scriptPath := ← Json.nullable? Json.text? scriptPath }
  | _ => none

/-- The configuration that a JSON text writes. -/
def ofJsonText? (t : Text) : Option Config := (Json.ofText? t).bind ofJson?

end Config

/-- An integer in the range of an unsigned word of 64 bits. -/
def Toml.uint64? : Toml → Option UInt64
  | .int (.ofNat n) => if n < UInt64.size then some (.ofNat n) else none
  | _ => none

def Toml.bool? : Toml → Option Bool
  | .bool b => some b
  | _ => none

def Toml.text? : Toml → Option Text
  | .text t => some t
  | _ => none

namespace Config

/-- A value that stands for `absent` if it is not given. -/
def orElse? {α : Type} (value? : Toml → Option α) (absent : α) : Option Toml → Option α
  | none => some absent
  | some v => value? v

def ofToml? (o : Toml.Outline) : Option Config := do
  return {
    settings := {
      maxTitleLength := ← orElse? Toml.uint64? 33 (o.root? "max_episode_title_length")
      safeNames := ← orElse? Toml.bool? true (o.root? "replace_invalid_path_characters") }
    scriptPath := ← orElse? (fun v => v.text?.map some) none (o.root? scriptPathKey) }

/-- The configuration that a TOML text writes. -/
def ofTomlText? (t : Text) : Option Config := (Toml.ofText? t).bind ofToml?

/-- The configuration that a text writes in either form, read as TOML if that is possible. -/
def ofText? (t : Text) : Option Config := (ofTomlText? t).or (ofJsonText? t)

end Config

end MediaNaming
