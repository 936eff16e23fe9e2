namespace ScriptedMap

/-- Names and their values; no name stands twice in a table built by `insert`. -/
abbrev Table (α : Type) := List (String × α)

namespace Table

variable {α : Type}

def get? (table : Table α) (name : String) : Option α := List.lookup name table

/-- Gives the name a value: in its old place if it has one, and else at the end. -/
def insert (table : Table α) (name : String) (value : α) : Table α :=
  match table with
  | [] => [(name, value)]
  | (n, v) :: rest => if n = name then (n, value) :: rest else (n, v) :: insert rest name value

/-- The table with these entries; of several for one name the last gives the value. -/
def ofEntries (entries : List (String × α)) : Table α :=
  entries.foldl (fun table e => table.insert e.1 e.2) []

def names (table : Table α) : List String := table.map (·.1)

end Table

end ScriptedMap
