import ScriptedMap.Json.Numeral
import ScriptedMap.Json.Token

namespace ScriptedMap.Json

/-- An array or an object of which the parts before the present one have been read, last part first.
An object also has the name of the present part. -/
inductive Frame where
  | array (items : List Json)
  | object (fields : List (Option String × Json)) (name : Option String)

/-- The value of a word: a literal name or a numeral. -/
def ofWord? (word : List Char) : Option Json :=
  if word = "null".toList then some .null
  else if word = "true".toList then some (.boolean true)
  else if word = "false".toList then some (.boolean false)
  else (Numeral.ofWord? word).map fun n => (n.number?.map .number).getD .unreadable

/-- The object with these fields, unless one of the names is unreadable. -/
def ofFields (fields : List (Option String × Json)) : Json :=
  match fields.mapM fun f => f.1.map fun name => (name, f.2) with
  | some fields => .object fields
  | none => .unreadable

mutual

/-- Reads on where a value must begin. -/
def value? (frames : List Frame) : List Token → Option Json
  | .word w :: ts =>
    match ofWord? w with
    | some v => next? v frames ts
    | none => none
  | .text s :: ts => next? ((s.map .text).getD .unreadable) frames ts
  | .openArray :: .closeArray :: ts => next? (.array []) frames ts
  | .openArray :: ts => value? (.array [] :: frames) ts
  | .openObject :: .closeObject :: ts => next? (.object []) frames ts
  | .openObject :: .text name :: .colon :: ts => value? (.object [] name :: frames) ts
  | _ => none

/-- Reads on after the value `v`. -/
def next? (v : Json) : List Frame → List Token → Option Json
  | [], [] => some v
  | .array items :: frames, .comma :: ts => value? (.array (v :: items) :: frames) ts
  | .array items :: frames, .closeArray :: ts => next? (.array (v :: items).reverse) frames ts
  | .object fields name :: frames, .comma :: .text name' :: .colon :: ts =>
    value? (.object ((name, v) :: fields) name' :: frames) ts
  | .object fields name :: frames, .closeObject :: ts =>
    next? (ofFields ((name, v) :: fields).reverse) frames ts
  | _, _ => none

end

/-- The value that a text holds, some of whose parts may denote nothing. -/
def read? (text : String) : Option Json := (Token.ofText? text.toList).bind (value? [])

/-- How deep a value may be nested that is read as a whole. -/
def maxDepth : Nat := 127

/-- The value that a text holds, if every part of it denotes something. -/
def readable? (text : String) : Option Json := (read? text).filter (isReadable maxDepth)

end ScriptedMap.Json
