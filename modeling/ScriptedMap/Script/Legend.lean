import ScriptedMap.Config.Basic
import ScriptedMap.Script.Basic
import ScriptedMap.Text.Ascii

namespace ScriptedMap

structure LegendEntry where
  label : String
  color : String
deriving DecidableEq, Repr

namespace Legend

/-- The names with one more, unless it is there in other letter case. -/
def addName (names : List String) (name : String) : List String :=
  if names.any (sameIgnoringCase · name) then names else names ++ [name]

/-- The names by color with one more name. -/
def addFill (groups : Table (List String)) (color name : String) : Table (List String) :=
  groups.insert color (addName ((groups.get? color).getD []) name)

/-- The territories that commands fill and the colors drawn for them. -/
def fills (config : Config) (commands : List Command) : List (String × String) :=
  (commands.filterMap Command.fill?).map fun f => (f.1, config.resolveColor (some f.2))

/-- The names of the filled territories by color. -/
def groups (config : Config) (commands : List Command) : Table (List String) :=
  (fills config commands).foldl (fun groups f => addFill groups f.2 f.1) []

end Legend

/-- One entry for each color in which the script fills territories, in the order in which the colors
first come. -/
def Script.legend (config : Config) (script : Script) : List LegendEntry :=
  (Legend.groups config script.commands).map fun g => ⟨", ".intercalate g.2, g.1⟩

end ScriptedMap
