import MediaNaming.Json.Number
import MediaNaming.Json.Token

/-!
Values from tokens. The containers that are open are kept as a list of frames, so that reading is
one pass over the tokens and the depth of a value is the length of that list. A text is read as a
whole, so what cannot be read is refused wherever it stands.
-/

namespace MediaNaming.Json

/-- What a word stands for. -/
def ofWord? (t : Text) : Option Json :=
  if t = "null".toList then some .null
  else if t = "true".toList then some (.bool true)
  else if t = "false".toList then some (.bool false)
  else number? t

/-- A container that waits for a value, with what it holds already in reverse. -/
inductive Frame where
  | item (done : List Json)
  | field (done : List (Text × Json)) (key : Text)

/-- What may follow the tokens read so far. -/
inductive State where
  /-- A value. -/
  | value (above : List Frame)
  /-- The first item of an array, or its end. -/
  | firstItem (above : List Frame)
  /-- A comma in an array, or its end. -/
  | nextItem (done : List Json) (above : List Frame)
  /-- The first key of an object, or its end. -/
  | firstKey (above : List Frame)
  /-- A key. -/
  | nextKey (done : List (Text × Json)) (above : List Frame)
  /-- The colon after a key. -/
  | colon (done : List (Text × Json)) (key : Text) (above : List Frame)
  /-- A comma in an object, or its end. -/
  | nextField (done : List (Text × Json)) (above : List Frame)
  /-- Nothing. -/
  | finished (j : Json)

/-- The deepest nesting that is read. -/
def maxDepth : Nat := 127

/-- Puts a value into the innermost container. -/
def State.complete (j : Json) : List Frame → State
  | [] => .finished j
  | .item done :: above => .nextItem (j :: done) above
  | .field done k :: above => .nextField ((k, j) :: done) above

/-- The token that starts a value. -/
def State.start? (above : List Frame) : Token → Option State
  | .quoted t => some (complete (.text t) above)
  | .word t => (ofWord? t).map (complete · above)
  | .openBracket => if above.length < maxDepth then some (.firstItem above) else none
  | .openBrace => if above.length < maxDepth then some (.firstKey above) else none
  | _ => none

def State.step? : State → Token → Option State
  | .value above, t => start? above t
  | .firstItem above, .closeBracket => some (complete (.array []) above)
  | .firstItem above, t => start? (.item [] :: above) t
  | .nextItem done above, .comma => some (.value (.item done :: above))
  | .nextItem done above, .closeBracket => some (complete (.array done.reverse) above)
  | .firstKey above, .closeBrace => some (complete (.object []) above)
  | .firstKey above, .quoted k => some (.colon [] k above)
  | .nextKey done above, .quoted k => some (.colon done k above)
  | .colon done k above, .colon => some (.value (.field done k :: above))
  | .nextField done above, .comma => some (.nextKey done above)
  | .nextField done above, .closeBrace => some (complete (.object done.reverse) above)
  | _, _ => none

/-- The value that a list of tokens writes. -/
def ofTokens? (tokens : List Token) : Option Json :=
  match tokens.foldlM State.step? (.value []) with
  | some (.finished j) => some j
  | _ => none

/-- The value that a text writes. -/
def ofText? (t : Text) : Option Json := (tokens? t).bind ofTokens?

end MediaNaming.Json
