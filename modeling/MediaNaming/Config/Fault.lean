import MediaNaming.Text.Quoted

/-!
The variables of the environment that a configuration depends on, and what can go wrong with it.
-/

namespace MediaNaming

inductive Variable where
  | configPath | configJson | scriptPath | maxTitleLength | safeNames
  deriving DecidableEq

namespace Variable

def all : List Variable := [.configPath, .configJson, .scriptPath, .maxTitleLength, .safeNames]

def name : Variable → String
  | .configPath => "NAMECRAFT_CONFIG_PATH"
  | .configJson => "NAMECRAFT_CONFIG_JSON"
  | .scriptPath => "NAMECRAFT_SCRIPT_PATH"
  | .maxTitleLength => "NAMECRAFT_MAX_EPISODE_TITLE_LENGTH"
  | .safeNames => "NAMECRAFT_REPLACE_INVALID_PATH_CHARACTERS"

end Variable

/-- The values of the variables that are set. -/
abbrev Environment := Variable → Option Text

/-- The value of a variable, unless it is blank. -/
def Environment.value? (env : Environment) (v : Variable) : Option Text := Text.nonBlank? (env v)

inductive ConfigFault where
  | unreadable (path : Text)
  /-- A file whose name tells its form does not have that form. -/
  | invalidFile (path : Text)
  /-- A text in neither form. -/
  | unrecognised (origin : Text)
  | invalidJson
  /-- The configuration in a variable is not valid. -/
  | invalidVariable (v : Variable)
  | notANumber (v : Variable) (raw : Text)
  | notABoolean (v : Variable) (raw : Text)
  | scriptUnreadable (path : Text)
  | scriptEmpty
  deriving DecidableEq

def ConfigFault.message : ConfigFault → Text
  | .unreadable path => "failed to read renamer config from ".toList ++ path
  | .invalidFile path => "invalid renamer config ".toList ++ path
  | .unrecognised origin => "failed to parse renamer config ".toList ++ origin
  | .invalidJson => "invalid renamer config json".toList
  | .invalidVariable v => "failed to parse ".toList ++ v.name.toList
  | .notANumber v raw => v.name.toList ++ " must be a number, got ".toList ++ raw.quoted
  | .notABoolean v raw => v.name.toList ++ " must be a boolean, got ".toList ++ raw.quoted
  | .scriptUnreadable path => "failed to read rename script from ".toList ++ path
  | .scriptEmpty => "rename script contains no usable statements".toList

end MediaNaming
