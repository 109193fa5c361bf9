import MediaNaming.Json.Basic
import MediaNaming.Text.Numeral

/-!
Writing a JSON value on one line: no blanks between the tokens, the fields of an object in their
own order, and only quotes, backslashes and controls escaped.
-/

namespace MediaNaming.Json

def escapeChar (c : Char) : Text :=
  match c with
  | '"' => ['\\', '"']
  | '\\' => ['\\', '\\']
  | '\n' => ['\\', 'n']
  | '\r' => ['\\', 'r']
  | '\t' => ['\\', 't']
  | '\x08' => ['\\', 'b']
  | '\x0c' => ['\\', 'f']
  | c =>
    if c.toNat < 0x20 then ['\\', 'u'] ++ (Nat.toDigits 16 c.toNat).leftpad 4 '0'
    else [c]

def quote (t : Text) : Text := '"' :: t.flatMap escapeChar ++ ['"']

mutual

def toText : Json → Text
  | .null => "null".toList
  | .bool true => "true".toList
  | .bool false => "false".toList
  | .int n => Text.ofInt n
  | .real literal => literal
  | .text t => quote t
  | .array items => '[' :: itemsToText items ++ [']']
  | .object fields => '\x7b' :: fieldsToText fields ++ ['\x7d']

def itemsToText : List Json → Text
  | [] => []
  | [j] => toText j
  | j :: rest => toText j ++ ',' :: itemsToText rest

def fieldsToText : List (Text × Json) → Text
  | [] => []
  | [(k, j)] => quote k ++ ':' :: toText j
  | (k, j) :: rest => quote k ++ ':' :: toText j ++ ',' :: fieldsToText rest

end

end MediaNaming.Json
