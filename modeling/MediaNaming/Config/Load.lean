import MediaNaming.Config.Basic
import MediaNaming.Config.Fault
import MediaNaming.Config.Flag
import MediaNaming.FileTree
import MediaNaming.StockScript

/-!
Where a configuration comes from. One source is taken whole: the file that a variable names, else
the text of a variable, else the first default file that is present, else the defaults. Variables
for single values are laid over it. A path to a script in a file is taken from the directory of
that file.
-/

namespace MediaNaming

/-- The source that a configuration was taken from. -/
inductive Source where
  | default
  | inlineJson
  | namedFile (path : Text)
  | defaultFile (path : Text)
  deriving DecidableEq

/-- The files that are looked for, in order. -/
def defaultPaths : List Text :=
  ["namecraft.toml".toList, "namecraft.json".toList, "config/namecraft.toml".toList,
    "config/namecraft.json".toList]

/-- The forms of a configuration file. -/
inductive ConfigForm where
  | json | toml | either
  deriving DecidableEq

/-- The form that the extension of a path tells. -/
def ConfigForm.ofPath (path : Text) : ConfigForm :=
  match FilePath.extension? path with
  | some ['j', 's', 'o', 'n'] => .json
  | some ['t', 'o', 'm', 'l'] => .toml
  | some ['t', 'm', 'l'] => .toml
  | _ => .either

namespace Config

/-- The value, or the fault of a text that has none. -/
def orFault (fault : ConfigFault) (c : Option Config) : Except ConfigFault Config :=
  c.elim (.error fault) .ok

/-- The configuration that a JSON text writes. -/
def ofJsonText (t : Text) : Except ConfigFault Config := orFault .invalidJson (ofJsonText? t)

/-- The configuration that a text writes in either form, and where the text is from. -/
def ofText (origin t : Text) : Except ConfigFault Config :=
  orFault (.unrecognised origin) (ofText? t)

/-- The configuration that a text writes in the form that its path tells. -/
def ofFileText (path contents : Text) : Except ConfigFault Config :=
  match ConfigForm.ofPath path with
  | .json => orFault (.invalidFile path) (ofJsonText? contents)
  | .toml => orFault (.invalidFile path) (ofTomlText? contents)
  | .either => ofText path contents

/-- The configuration with its path to a script taken from a directory. -/
def rebase (directory : Text) (c : Config) : Config :=
  { c with scriptPath := c.scriptPath.map (FilePath.join directory) }

/-- The configuration in the file at a path. -/
def ofFile (files : Files) (path : Text) : Except ConfigFault Config :=
  match files.read? path with
  | none => .error (.unreadable path)
  | some contents =>
    (ofFileText path contents).map fun c =>
      match FilePath.parent? path with
      | some directory => c.rebase directory
      | none => c

/-- The configuration of the source that comes first. -/
def base (env : Environment) (files : Files) : Except ConfigFault (Config × Source) :=
  match env.value? .configPath with
  | some path => (ofFile files path).map fun c => (c, .namedFile path)
  | none =>
    match env.value? .configJson with
    | some t =>
      (orFault (.invalidVariable .configJson) (ofJsonText? t)).map fun c => (c, .inlineJson)
    | none =>
      match defaultPaths.find? files.isPresent with
      | some path => (ofFile files path).map fun c => (c, .defaultFile path)
      | none => .ok ({}, .default)

/-- The longest title that the variable for it allows, or else the given length. -/
def titleLengthOver (env : Environment) (n : UInt64) : Except ConfigFault UInt64 :=
  match env.value? .maxTitleLength with
  | none => .ok n
  | some raw => (Text.uint64? raw.trim).elim (.error (.notANumber .maxTitleLength raw)) .ok

/-- The choice that the variable for safe names makes, or else the given one. -/
def safeNamesOver (env : Environment) (b : Bool) : Except ConfigFault Bool :=
  match env.value? .safeNames with
  | none => .ok b
  | some raw => (flag? raw).elim (.error (.notABoolean .safeNames raw)) .ok

/-- Lays the variables for single values over a configuration. -/
def withOverrides (env : Environment) (c : Config) : Except ConfigFault Config := do
  let maxTitleLength ← titleLengthOver env c.settings.maxTitleLength
  let safeNames ← safeNamesOver env c.settings.safeNames
  return {
    settings := { maxTitleLength, safeNames }
    scriptPath := (env.value? .scriptPath).or c.scriptPath }

/-- The configuration of an environment and the files in it, and the source it was taken from. -/
def load (env : Environment) (files : Files) : Except ConfigFault (Config × Source) := do
  let (c, source) ← base env files
  return (← c.withOverrides env, source)

/-- The text of the script to run. -/
def scriptText (files : Files) (c : Config) : Except ConfigFault Text :=
  match c.scriptPath with
  | none => .ok StockScript.text
  | some path => (files.read? path).elim (.error (.scriptUnreadable path)) .ok

/-- The script to run, which must have a statement. -/
def script (files : Files) (c : Config) : Except ConfigFault Script := do
  let t ← c.scriptText files
  let script := Script.ofText t
  if script.isEmpty then throw .scriptEmpty
  return script

end Config

end MediaNaming
