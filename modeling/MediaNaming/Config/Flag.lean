import MediaNaming.Text.Basic

/-!
The words for yes and no that a variable may hold.
-/

namespace MediaNaming

/-- A truth value, in any ASCII case and with blanks around it. -/
def flag? (raw : Text) : Option Bool :=
  let word := raw.trim
  if ["1", "true", "yes", "on"].any fun w => Text.sameLetters w.toList word then some true
  else if ["0", "false", "no", "off"].any fun w => Text.sameLetters w.toList word then some false
  else none

end MediaNaming
