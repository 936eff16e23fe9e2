import ScriptedMap.Json.Basic

namespace ScriptedMap.Json

variable {α : Type}

/-- The part of the given name, or in an array the one at `position`. A missing part is `absent`; a
part given twice is refused. -/
def part? (position : Nat) (name : String) (read : Json → Option α) (absent : Option α) :
    Json → Option α
  | .object fields =>
    match fields.filter (·.1 == name) with
    | [] => absent
    | [(_, v)] => read v
    | _ => none
  | .array items =>
    match items[position]? with
    | none => absent
    | some v => read v
  | _ => none

/-- The value can be a record of `size` parts, the last of which may be missing in an array. -/
def fitsWithin (size : Nat) : Json → Bool
  | .object _ => true
  | .array items => items.length ≤ size
  | _ => false

/-- The value can be a record of `size` parts. -/
def fits (size : Nat) : Json → Bool
  | .object _ => true
  | .array items => items.length == size
  | _ => false

/-- The entries of an object, their values read by `read`. -/
def entries? (read : Json → Option α) : Json → Option (List (String × α))
  | .object fields => fields.mapM fun f => (read f.2).map (f.1, ·)
  | _ => none

/-- A value that may be `null` instead. -/
def optional? (read : Json → Option α) : Json → Option (Option α)
  | .null => some none
  | v => (read v).map some

/-- One name of several: a text, or an object with one field of that name
in which nothing stands. -/
def choice? : Json → Option String
  | .text name => some name
  | .object [(name, .null)] => some name
  | .object [(name, .object [])] => some name
  | _ => none

end ScriptedMap.Json
