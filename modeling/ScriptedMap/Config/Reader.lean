import ScriptedMap.Config.Standard
import ScriptedMap.Json.Reader
import ScriptedMap.Json.Record

namespace ScriptedMap

def milliseconds? : Json → Option Nat := Json.natural? (Nat.pow 2 64)

def SettleTimes.ofJson? (v : Json) : Option SettleTimes :=
  if v.fitsWithin 3 then do
    let zoom ← v.part? 0 "zoom_ms" milliseconds? (some standard.zoom)
    let fly ← v.part? 1 "fly_ms" milliseconds? (some standard.fly)
    let cinematic ← v.part? 2 "cinematic_ms" milliseconds? (some standard.cinematic)
    return ⟨zoom, fly, cinematic⟩
  else none

def CinematicDefaults.ofJson? (v : Json) : Option CinematicDefaults :=
  if v.fitsWithin 2 then do
    let pitch ← v.part? 0 "pitch" Json.real? (some standard.pitch)
    let bearing ← v.part? 1 "bearing" Json.real? (some standard.bearing)
    return ⟨pitch, bearing⟩
  else none

def EffectKind.ofJson? (v : Json) : Option EffectKind :=
  if v.fits 2 then do
    return ⟨← v.part? 0 "label" Json.text? none, ← v.part? 1 "category" Json.text? none⟩
  else none

/-- A center is an array of a longitude and a latitude. -/
def Point.ofPair? : Json → Option Point
  | .array [lng, lat] => do return ⟨← lng.real?, ← lat.real?⟩
  | _ => none

namespace Config

variable {α : Type}

def table? (read : Json → Option α) (v : Json) : Option (Table α) :=
  (v.entries? read).map Table.ofEntries

/-- What the record gives takes the place of the standard value as a whole; what it leaves out stays
standard. -/
def ofJson? (v : Json) : Option Config :=
  if v.fitsWithin 7 then do
    let palette ← v.part? 0 "palette" (table? Json.text?) (some standard.palette)
    let defaultColor ← v.part? 1 "default_color" Json.text? (some standard.defaultColor)
    let aliases ← v.part? 2 "aliases" (table? Json.text?) (some standard.aliases)
    let fixedCenters ← v.part? 3 "fixed_centers" (table? Point.ofPair?) (some standard.fixedCenters)
    let effects ← v.part? 4 "effects" (table? EffectKind.ofJson?) (some standard.effects)
    let settle ← v.part? 5 "settle" SettleTimes.ofJson? (some standard.settle)
    let cinematic ← v.part? 6 "cinematic" CinematicDefaults.ofJson? (some standard.cinematic)
    return ⟨palette, defaultColor, aliases, fixedCenters, effects, settle, cinematic⟩
  else none

/-- Reads a configuration. -/
def ofText? (text : String) : Option Config := (Json.read? text).bind ofJson?

/-- What is said of a text that is no configuration. -/
def unreadableMessage : String := "parsing config JSON: invalid JSON"

end Config

end ScriptedMap
