import MediaNaming.Criterion.Decision

/-!
Guards: a first test and the tests joined to it. Where a semicolon joins any, the first test and
all of those must pass and the tests after commas do not count; otherwise one passing test is
enough. A guard is read from the beginning of a text, and what follows it is left to the caller.
-/

namespace MediaNaming

/-- Why a line of a script is not understood. -/
inductive LineFault where
  | malformedLine (t : Text)
  | malformedStep (t : Text)
  | unknownTest (letter : Char)
  deriving DecidableEq

def LineFault.message : LineFault → Text
  | .malformedLine t => "Malformed line: ".toList ++ t
  | .malformedStep t => "Malformed action: ".toList ++ t
  | .unknownTest letter => "Unknown test letter: ".toList ++ [letter]

/-- A letter and its parameter. -/
structure Test where
  /-- The letter as written. -/
  letter : Char
  /-- The parameter without white space at its ends. -/
  parameter : Text
  deriving DecidableEq

namespace Test

/-- The question that the letter asks, if it asks one. -/
def criterion? (t : Test) : Option Criterion := Criterion.ofLetter? t.letter

/-- Whether the test passes; one that asks nothing does not. -/
def holds (t : Test) (b : Bundle) : Bool :=
  match t.criterion? with
  | some k => k.holds t.parameter b
  | none => false

/-- The parameter in parentheses at the beginning of a text, and what follows them. -/
def readParameter? : Text → Option (Text × Text)
  | '(' :: rest =>
    match rest.dropWhile (· ≠ ')') with
    | _ :: after => some (Text.trim (rest.takeWhile (· ≠ ')')), after)
    | [] => none
  | _ => none

/-- The test at the beginning of a text, and what follows it. -/
def read? (t : Text) : Option (Test × Text) :=
  match t.trimStart with
  | letter :: rest =>
    if letter.isAlpha then
      (readParameter? (Text.trimStart rest)).map fun (parameter, rest) =>
        (⟨letter, parameter⟩, rest)
    else none
  | [] => none

/-- The test at the beginning of a text, or the fault of a line that has none there. -/
def read (t : Text) : Except LineFault (Test × Text) :=
  match read? t with
  | some r => .ok r
  | none => .error (.malformedLine t.trim)

end Test

/-- How a test is joined to the tests before it. -/
inductive Joint where
  | also | orElse
  deriving DecidableEq

def Joint.symbol : Joint → Char
  | .also => ';'
  | .orElse => ','

/-- The joint at the beginning of a text, and what follows it. -/
def Joint.read? (t : Text) : Option (Joint × Text) :=
  match t.trimStart with
  | ';' :: rest => some (.also, rest)
  | ',' :: rest => some (.orElse, rest)
  | _ => none

structure Guard where
  first : Test
  /-- The tests after semicolons. -/
  required : List Test := []
  /-- The tests after commas. -/
  alternatives : List Test := []
  deriving DecidableEq

namespace Test

theorem length_trimStart_le (t : Text) : t.trimStart.length ≤ t.length :=
  (List.dropWhile_sublist _).length_le

theorem readParameter?_length_lt {t p rest : Text} (h : readParameter? t = some (p, rest)) :
    rest.length < t.length := by
  unfold readParameter? at h
  split at h
  · next u =>
    split at h
    · next c v hv =>
      cases h
      have hu := (List.dropWhile_sublist (· ≠ ')') (l := u)).length_le
      rw [hv] at hu
      simp only [List.length_cons] at hu ⊢
      omega
    · cases h
  · cases h

theorem read?_length_lt {t : Text} {x : Test} {rest : Text} (h : read? t = some (x, rest)) :
    rest.length < t.length := by
  unfold read? at h
  split at h
  · next c u hu =>
    split at h
    · obtain ⟨⟨p, r⟩, hp, hr⟩ := Option.map_eq_some_iff.1 h
      cases hr
      have h₁ := readParameter?_length_lt hp
      have h₂ := length_trimStart_le u
      have h₃ := length_trimStart_le t
      rw [hu] at h₃
      simp only [List.length_cons] at h₃
      omega
    · cases h
  · cases h

theorem read_length_lt {t : Text} {x : Test} {rest : Text} (h : read t = .ok (x, rest)) :
    rest.length < t.length := by
  unfold read at h
  split at h
  · next r hr =>
    cases h
    exact read?_length_lt hr
  · cases h

end Test

theorem Joint.read?_length_lt {t : Text} {j : Joint} {rest : Text}
    (h : Joint.read? t = some (j, rest)) : rest.length < t.length := by
  have hle := Test.length_trimStart_le t
  unfold Joint.read? at h
  split at h
  · next ht =>
    cases h
    rw [ht] at hle
    exact hle
  · next ht =>
    cases h
    rw [ht] at hle
    exact hle
  · cases h

namespace Guard

/-- The tests joined to a guard at the beginning of a text, with their joints, and what follows. -/
def readJoined (t : Text) : Except LineFault (List (Joint × Test) × Text) :=
  match _hj : Joint.read? t with
  | none => .ok ([], t)
  | some (joint, after) =>
    match _ht : Test.read after with
    | .error fault => .error fault
    | .ok (test, rest) => (readJoined rest).map fun (tests, rest) => ((joint, test) :: tests, rest)
termination_by t.length
decreasing_by
  have := Joint.read?_length_lt _hj
  have := Test.read_length_lt _ht
  omega

/-- The guard that joins tests to a first one. -/
def ofTests (first : Test) (joined : List (Joint × Test)) : Guard where
  first := first
  required := (joined.filter (·.1 = .also)).map (·.2)
  alternatives := (joined.filter (·.1 = .orElse)).map (·.2)

/-- The guard at the beginning of a text, and what follows it. Only the first test must ask
something. -/
def read (t : Text) : Except LineFault (Guard × Text) := do
  let (first, rest) ← Test.read t
  if first.criterion?.isNone then throw (.unknownTest first.letter)
  let (joined, rest) ← readJoined rest
  return (ofTests first joined, rest)

def holds (g : Guard) (b : Bundle) : Bool :=
  if g.required.isEmpty then g.first.holds b || g.alternatives.any (·.holds b)
  else g.first.holds b && g.required.all (·.holds b)

end Guard

end MediaNaming
