import MediaNaming.Catalog.Format

/-!
The two choices that a run leaves open: how long an episode title may be, and whether names are
made safe for every file system.
-/

namespace MediaNaming

structure Settings where
  /-- Longer episode titles are cut to this many characters; zero means that none is cut. -/
  maxTitleLength : UInt64 := 33
  safeNames : Bool := true
  deriving DecidableEq

namespace Settings

def keys : List String := ["max_episode_title_length", "replace_invalid_path_characters"]

def toJson (s : Settings) : Json :=
  .ofFields (keys.zip [.ofNat s.maxTitleLength.toNat, .bool s.safeNames])

def ofJson? (j : Json) : Option Settings := do
  match ← Json.values? keys 0 j with
  | [maxTitleLength, safeNames] =>
    return {
      maxTitleLength := ← Json.orElse? Json.uint64? 33 maxTitleLength
      safeNames := ← Json.orElse? Json.bool? true safeNames }
  | _ => none

end Settings

end MediaNaming
