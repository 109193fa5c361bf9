import MediaNaming.Text.Basic

/-!
JSON values. An object keeps its fields in the order in which they are written, repeated keys
included, and a number says whether it was written as an integer.
-/

namespace MediaNaming

inductive Json where
  | null
  | bool (b : Bool)
  | int (n : Int)
  /-- A number with a fraction or an exponent, or a negative zero, as written. -/
  | real (literal : Text)
  | text (t : Text)
  | array (items : List Json)
  | object (fields : List (Text × Json))

namespace Json

/-- The value under the first field of that name. -/
def field? (fields : List (Text × Json)) (key : String) : Option Json := fields.lookup key.toList

/-- The value under the only field of that name, if there is one. Several are refused. -/
def onlyField? (fields : List (Text × Json)) (key : String) : Option (Option Json) :=
  if fields.countP (·.1 == key.toList) ≤ 1 then some (field? fields key) else none

def bool? : Json → Option Bool
  | .bool b => some b
  | _ => none

def text? : Json → Option Text
  | .text t => some t
  | _ => none

/-- The items of an array, each read by `item?`. -/
def list? {α : Type} (item? : Json → Option α) : Json → Option (List α)
  | .array items => items.mapM item?
  | _ => none

/-- `null` for a missing value. -/
def optional? {α : Type} (value? : Json → Option α) : Json → Option (Option α)
  | .null => some none
  | j => (value? j).map some

/-- An integer in the range of an unsigned word of 32 bits. -/
def uint32? : Json → Option UInt32
  | .int (.ofNat n) => if n < UInt32.size then some (.ofNat n) else none
  | _ => none

/-- An integer in the range of an unsigned word of 64 bits. -/
def uint64? : Json → Option UInt64
  | .int (.ofNat n) => if n < UInt64.size then some (.ofNat n) else none
  | _ => none

/-- An integer in the range of a signed word of 32 bits. -/
def int32? : Json → Option Int32
  | .int n => if Int32.minValue.toInt ≤ n ∧ n ≤ Int32.maxValue.toInt then some (.ofInt n) else none
  | _ => none

/-- A record of texts keyed by texts. -/
def textFields? : Json → Option (List (Text × Text))
  | .object fields => fields.mapM fun (k, v) => (text? v).map (k, ·)
  | _ => none

/-- `null` for a value that is missing. -/
def ofOption {α : Type} (ofValue : α → Json) : Option α → Json
  | none => .null
  | some a => ofValue a

def ofNat (n : Nat) : Json := .int n

def ofString (s : String) : Json := .text s.toList

/-- An object from its keys and values in order. -/
def ofFields (fields : List (String × Json)) : Json :=
  .object (fields.map fun (k, v) => (k.toList, v))

end Json

end MediaNaming
