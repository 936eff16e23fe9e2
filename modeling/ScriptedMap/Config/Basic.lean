import ScriptedMap.Geo.Point
import ScriptedMap.Script.Command
import ScriptedMap.Table
import ScriptedMap.Text.Lowercase

namespace ScriptedMap

/-- An effect of the catalog. -/
structure EffectKind where
  label : String
  category : String
deriving DecidableEq, Repr

/-- For how many milliseconds each movement of the camera lasts. -/
structure SettleTimes where
  zoom : Nat
  fly : Nat
  cinematic : Nat
deriving DecidableEq, Repr

/-- How a cinematic shot stands unless the script says. -/
structure CinematicDefaults where
  pitch : Binary64
  bearing : Binary64
deriving DecidableEq, Repr

structure Config where
  /-- Colors by name, in the order in which they are shown. -/
  palette : Table String
  /-- The color of what is given none. -/
  defaultColor : String
  /-- Other names of territories and the names they stand for, both normalized. -/
  aliases : Table String
  /-- The points that represent some territories, by name in lower case. -/
  fixedCenters : Table Point
  effects : Table EffectKind
  settle : SettleTimes
  cinematic : CinematicDefaults
deriving DecidableEq, Repr

/-- The time that passes after a command before the next may come, in milliseconds. -/
def SettleTimes.after (settle : SettleTimes) : Command → Nat
  | .zoom .. => settle.zoom
  | .fly .. => settle.fly
  | .cinematic .. => settle.cinematic
  | .wait ms => ms
  | _ => 0

namespace Config

/-- The color to draw for a color of a script. Palette names know no case; any other color is drawn
as it is written. -/
def resolveColor (config : Config) : Option String → String
  | none => config.defaultColor
  | some token =>
    if token.isEmpty then config.defaultColor
    else (config.palette.get? (lowercase token)).getD token

/-- The color is a code after a `#`, or the palette has it. -/
def isKnownColor (config : Config) (token : String) : Bool :=
  token.toList.head? == some '#' || (config.palette.get? (lowercase token)).isSome

end Config

end ScriptedMap
