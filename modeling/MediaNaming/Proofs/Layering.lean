import MediaNaming.Config.Load
import Mathlib.Logic.ExistsUnique

/-!
The layers of a configuration. One source wins, and only its own variable or file and the sources
that rank above it have a say in that; it gives a configuration or a fault of its own, and then the
variables for single values are laid over it.
-/

namespace MediaNaming

variable {env env' : Environment} {files files' : Files}

/-- What a text in a certain form writes. -/
def ConfigForm.config? : ConfigForm → Text → Option Config
  | .json => Config.ofJsonText?
  | .toml => Config.ofTomlText?
  | .either => Config.ofText?

/-- The fault of a file that is not in the form that its path tells. -/
def ConfigForm.fault (path : Text) : ConfigForm → ConfigFault
  | .json | .toml => .invalidFile path
  | .either => .unrecognised path

namespace Config

/-- A configuration that was found in a file: its path to a script is taken from the directory of
the file, unless it is absolute. -/
def takenFrom (path : Text) (c : Config) : Config where
  settings := c.settings
  scriptPath := c.scriptPath.map fun script =>
    if FilePath.isAbsolute script then script
    else match FilePath.parent? path with
      | some directory => FilePath.join directory script
      | none => script

end Config

namespace Source

/-- The file that a source is. -/
def path? : Source → Option Text
  | .namedFile path | .defaultFile path => some path
  | .inlineJson | .default => none

/-- What a source holds: a configuration, or nothing that can be used as one. -/
inductive Holds (env : Environment) (files : Files) : Source → Except ConfigFault Config → Prop
  | default : Holds env files .default (.ok {})
  | inlineJson {t : Text} {c : Config} (hjson : env.value? .configJson = some t)
      (hc : Config.ofJsonText? t = some c) : Holds env files .inlineJson (.ok c)
  | invalidJson {t : Text} (hjson : env.value? .configJson = some t)
      (hc : Config.ofJsonText? t = none) :
      Holds env files .inlineJson (.error (.invalidVariable .configJson))
  | file {s : Source} {path t : Text} {c : Config} (hs : s.path? = some path)
      (ht : files.read? path = some t) (hc : (ConfigForm.ofPath path).config? t = some c) :
      Holds env files s (.ok (c.takenFrom path))
  | unreadable {s : Source} {path : Text} (hs : s.path? = some path)
      (ht : files.read? path = none) : Holds env files s (.error (.unreadable path))
  | invalidFile {s : Source} {path t : Text} (hs : s.path? = some path)
      (ht : files.read? path = some t) (hc : (ConfigForm.ofPath path).config? t = none) :
      Holds env files s (.error ((ConfigForm.ofPath path).fault path))

/-- Two surroundings in which a source and all that ranks above it are the same. -/
inductive Kept (env : Environment) (files : Files) (env' : Environment) (files' : Files) :
    Source → Prop
  | namedFile {path : Text} (hpath : env'.value? .configPath = env.value? .configPath)
      (ht : files'.read? path = files.read? path) : Kept env files env' files' (.namedFile path)
  | inlineJson (hpath : env'.value? .configPath = env.value? .configPath)
      (hjson : env'.value? .configJson = env.value? .configJson) :
      Kept env files env' files' .inlineJson
  | defaultFile {path : Text} (hpath : env'.value? .configPath = env.value? .configPath)
      (hjson : env'.value? .configJson = env.value? .configJson)
      (habove : ∀ p ∈ defaultPaths.takeWhile (· ≠ path), files'.isPresent p = files.isPresent p)
      (hpresent : files'.isPresent path = files.isPresent path)
      (ht : files'.read? path = files.read? path) : Kept env files env' files' (.defaultFile path)
  | default (hpath : env'.value? .configPath = env.value? .configPath)
      (hjson : env'.value? .configJson = env.value? .configJson)
      (hpresent : ∀ p ∈ defaultPaths, files'.isPresent p = files.isPresent p) :
      Kept env files env' files' .default

end Source

namespace Config

theorem ofFileText_eq (path t : Text) :
    ofFileText path t =
      orFault ((ConfigForm.ofPath path).fault path) ((ConfigForm.ofPath path).config? t) := by
  rw [ofFileText]
  cases ConfigForm.ofPath path <;> rfl

theorem takenFrom_eq (path : Text) (c : Config) :
    (match FilePath.parent? path with
      | some directory => c.rebase directory
      | none => c) = c.takenFrom path := by
  rcases c with ⟨settings, scriptPath⟩
  cases hparent : FilePath.parent? path with
  | none => cases scriptPath <;> simp [takenFrom, hparent]
  | some directory =>
      cases scriptPath with
      | none => rfl
      | some script =>
          simp only [rebase, takenFrom, hparent, Option.map_some, FilePath.join]
          split <;> rfl

theorem ofFile_of_unreadable {path : Text} (h : files.read? path = none) :
    ofFile files path = .error (.unreadable path) := by
  rw [ofFile, h]

theorem ofFile_of_config? {path t : Text} {c : Config} (h : files.read? path = some t)
    (hc : (ConfigForm.ofPath path).config? t = some c) :
    ofFile files path = .ok (c.takenFrom path) := by
  rw [ofFile, h]
  simp only [ofFileText_eq, hc, orFault, Option.elim, Except.map]
  exact congrArg Except.ok (takenFrom_eq path c)

theorem ofFile_of_config?_eq_none {path t : Text} (h : files.read? path = some t)
    (hc : (ConfigForm.ofPath path).config? t = none) :
    ofFile files path = .error ((ConfigForm.ofPath path).fault path) := by
  rw [ofFile, h]
  simp only [ofFileText_eq, hc, orFault, Option.elim, Except.map]

theorem ofFile_of_holds {s : Source} {path : Text} {r : Except ConfigFault Config}
    (hpath : s.path? = some path) (hr : s.Holds env files r) : ofFile files path = r := by
  cases hr with
  | default => cases hpath
  | inlineJson hjson hc => cases hpath
  | invalidJson hjson hc => cases hpath
  | file hs ht hc =>
      cases hs.symm.trans hpath
      exact ofFile_of_config? ht hc
  | unreadable hs ht =>
      cases hs.symm.trans hpath
      exact ofFile_of_unreadable ht
  | invalidFile hs ht hc =>
      cases hs.symm.trans hpath
      exact ofFile_of_config?_eq_none ht hc

end Config

/-! ### The source that wins -/

namespace Source

theorem Kept.read?_eq {s : Source} {path : Text} (hkept : s.Kept env files env' files')
    (hs : s.path? = some path) : files'.read? path = files.read? path := by
  cases hkept with
  | namedFile hpath ht =>
      cases hs
      exact ht
  | inlineJson => cases hs
  | defaultFile hpath hjson habove hpresent ht =>
      cases hs
      exact ht
  | default => cases hs

theorem Kept.holds {s : Source} {r : Except ConfigFault Config}
    (hkept : s.Kept env files env' files') (h : s.Holds env files r) : s.Holds env' files' r := by
  cases h with
  | default => exact .default
  | inlineJson hjson hc =>
      cases hkept with
      | inlineJson hpath' hjson' => exact .inlineJson (hjson'.trans hjson) hc
  | invalidJson hjson hc =>
      cases hkept with
      | inlineJson hpath' hjson' => exact .invalidJson (hjson'.trans hjson) hc
  | file hs ht hc => exact .file hs ((hkept.read?_eq hs).trans ht) hc
  | unreadable hs ht => exact .unreadable hs ((hkept.read?_eq hs).trans ht)
  | invalidFile hs ht hc => exact .invalidFile hs ((hkept.read?_eq hs).trans ht) hc

end Source

namespace Config

section Overrides

variable {α : Type} {v : Variable} {value? : Text → Option α} {fault : Text → ConfigFault}

end Overrides

/-- A file that is named, beside a text that is not valid, and a value to lay over it. -/
def layeredEnvironment : Environment
  | .configPath => some "conf/own.toml".toList
  | .configJson => some "\x7b not json".toList
  | .safeNames => some " Off ".toList
  | .scriptPath | .maxTitleLength => none

def ownFile : Text := "max_episode_title_length = 40\nscript_path = 'r.txt'\n".toList

def layeredFiles : Files := FileTree.empty.add "conf/own.toml".toList ownFile

theorem holds_layered :
    (Source.namedFile "conf/own.toml".toList).Holds layeredEnvironment layeredFiles
      (.ok ⟨⟨40, true⟩, some "conf/r.txt".toList⟩) := by
  have hpath : (Source.namedFile "conf/own.toml".toList).path? = some "conf/own.toml".toList := rfl
  have hread : layeredFiles.read? "conf/own.toml".toList = some ownFile := by decide +kernel
  have hconfig : (ConfigForm.ofPath "conf/own.toml".toList).config? ownFile =
      some ⟨⟨40, true⟩, some "r.txt".toList⟩ := by
    decide +kernel
  exact .file hpath hread hconfig

end Config

end MediaNaming
