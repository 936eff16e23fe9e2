import ScriptedMap.Binary64.Arithmetic

namespace ScriptedMap

/-- A number is an integer of at most 64 bits, with or without a sign, or else a binary64 number. -/
inductive Json.Number where
  | integer (i : Int)
  | real (x : Binary64)
deriving DecidableEq, Repr

/-- A JSON value. Objects keep their fields as they are written, repeated names included.
`unreadable` stands for what is written by the rules and yet denotes nothing: a number out of range,
a text with half of a surrogate pair, an object one of whose names is such a text. -/
inductive Json where
  | null
  | boolean (b : Bool)
  | number (n : Json.Number)
  | text (s : String)
  | array (items : List Json)
  | object (fields : List (String × Json))
  | unreadable
deriving Repr

namespace Json

def Number.toReal : Number → Binary64
  | .integer i => .ofInt i
  | .real x => x

def ofReal (x : Binary64) : Json := .number (.real x)

def ofNat (n : Nat) : Json := .number (.integer n)

/-- The number, if the value is one. -/
def real? : Json → Option Binary64
  | .number n => some n.toReal
  | _ => none

/-- The natural number below `bound`, if the value is one and written as an integer. -/
def natural? (bound : Nat) : Json → Option Nat
  | .number (.integer i) => if 0 ≤ i ∧ i < bound then some i.toNat else none
  | _ => none

def text? : Json → Option String
  | .text s => some s
  | _ => none

def boolean? : Json → Option Bool
  | .boolean b => some b
  | _ => none

def array? : Json → Option (List Json)
  | .array items => some items
  | _ => none

/-- The field of an object; of several with one name the last counts. -/
def field? (name : String) : Json → Option Json
  | .object fields => (fields.reverse.find? (·.1 == name)).map (·.2)
  | _ => none

mutual

/-- Everything in the value denotes something, and arrays and objects are nested at most `depth`
deep. -/
def isReadable (depth : Nat) : Json → Bool
  | .unreadable => false
  | .array items => depth != 0 && areReadable (depth - 1) items
  | .object fields => depth != 0 && fieldsReadable (depth - 1) fields
  | _ => true

def areReadable (depth : Nat) : List Json → Bool
  | [] => true
  | v :: vs => isReadable depth v && areReadable depth vs

def fieldsReadable (depth : Nat) : List (String × Json) → Bool
  | [] => true
  | (_, v) :: fs => isReadable depth v && fieldsReadable depth fs

end

end Json

end ScriptedMap
