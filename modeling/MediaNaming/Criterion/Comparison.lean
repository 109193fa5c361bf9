import MediaNaming.Text.Basic

/-!
What the parameter of a test asks for: an exclamation mark negates it, an operator orders numbers,
and the rest is the value to compare with. Negation turns an equality around and leaves an order as
it is.
-/

namespace MediaNaming

inductive Relation where
  | greater | greaterOrEqual | less | lessOrEqual
  deriving DecidableEq

namespace Relation

def symbol : Relation → Text
  | .greater => ['>']
  | .greaterOrEqual => ['>', '=']
  | .less => ['<']
  | .lessOrEqual => ['<', '=']

/-- Whether `x` stands in that relation to `y`. -/
def holds : Relation → Int → Int → Bool
  | .greater, x, y => y < x
  | .greaterOrEqual, x, y => y ≤ x
  | .less, x, y => x < y
  | .lessOrEqual, x, y => x ≤ y

end Relation

structure Comparison where
  negated : Bool
  relation : Option Relation
  /-- The value, without white space at its ends. -/
  value : Text
  deriving DecidableEq

namespace Comparison

/-- An exclamation mark in front of a text, and what follows it. -/
def splitNegation : Text → Bool × Text
  | '!' :: rest => (true, rest)
  | t => (false, t)

/-- The operator in front of a text, and what follows it. -/
def splitRelation : Text → Option Relation × Text
  | '>' :: '=' :: rest => (some .greaterOrEqual, rest)
  | '>' :: rest => (some .greater, rest)
  | '<' :: '=' :: rest => (some .lessOrEqual, rest)
  | '<' :: rest => (some .less, rest)
  | t => (none, t)

/-- The parameter of a test on a number. -/
def ofText (raw : Text) : Comparison :=
  let (negated, rest) := splitNegation raw.trim
  let (relation, value) := splitRelation rest
  { negated, relation, value := value.trim }

/-- The parameter of a test on a text, where an operator is a part of the value. -/
def ofPlainText (raw : Text) : Comparison :=
  let (negated, value) := splitNegation raw.trim
  { negated, relation := none, value := value.trim }

/-- The answer of a test of equality. -/
def answer (op : Comparison) (equal : Bool) : Bool := equal != op.negated

/-- The answer of a test on a number. -/
def compare (op : Comparison) (actual expected : Int) : Bool :=
  match op.relation with
  | none => op.answer (actual == expected)
  | some r => r.holds actual expected

end Comparison

end MediaNaming
