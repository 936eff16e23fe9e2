import ScriptedMap.Json.Basic

namespace ScriptedMap.Json

/-- Puts an entry into its place in the order of names, or in the place of the one with its name. -/
def place (entry : String × Json) : List (String × Json) → List (String × Json)
  | [] => [entry]
  | e :: rest =>
    if entry.1 = e.1 then entry :: rest
    else if entry.1 < e.1 then entry :: e :: rest
    else e :: place entry rest

mutual

/-- The value as messages show it: with the names of its objects in order, each once with its last
value. -/
def canonical : Json → Json
  | .array items => .array (canonicalItems items)
  | .object fields => .object ((canonicalFields fields).foldl (fun sorted e => place e sorted) [])
  | v => v

def canonicalItems : List Json → List Json
  | [] => []
  | v :: vs => canonical v :: canonicalItems vs

def canonicalFields : List (String × Json) → List (String × Json)
  | [] => []
  | (name, v) :: fs => (name, canonical v) :: canonicalFields fs

end

end ScriptedMap.Json
