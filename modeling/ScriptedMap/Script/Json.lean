import ScriptedMap.Json.Printer
import ScriptedMap.Json.Reader
import ScriptedMap.Json.Record
import ScriptedMap.Script.Basic

namespace ScriptedMap

namespace Endpoint

def toJson : Endpoint → Json
  | point place => .object [("lat", .ofReal place.lat), ("lng", .ofReal place.lng)]
  | territory name => .text name

def ofJson? (v : Json) : Option Endpoint :=
  match v with
  | .text name => some (territory name)
  | .object _ => do
    let lat ← v.part? 0 "lat" Json.real? none
    let lng ← v.part? 1 "lng" Json.real? none
    return point ⟨lng, lat⟩
  | _ => none

end Endpoint

namespace LegendChange

/-- The names of the changes, in an order by which they can be numbered instead. -/
def modes : List String := ["entry", "auto", "hide"]

def mode? : Json → Option String
  | .text name => some name
  | v => (v.natural? modes.length).bind fun i => modes[i]?

/-- The parts after the keyword. -/
def parts : LegendChange → List (String × Json)
  | entry label color => [("mode", .text "entry"), ("label", .text label), ("color", .text color)]
  | auto => [("mode", .text "auto")]
  | hide => [("mode", .text "hide")]

/-- Reads the parts after the keyword. -/
def ofJson? (v : Json) : Option LegendChange := do
  let mode ← v.part? 1 "mode" mode? none
  if mode == "entry" && v.fits 4 then
    return entry (← v.part? 2 "label" Json.text? none) (← v.part? 3 "color" Json.text? none)
  if mode == "auto" && v.fits 2 then return auto
  if mode == "hide" && v.fits 2 then return hide
  none

end LegendChange

namespace Command

def ofPoint (place : Point) : List (String × Json) :=
  [("lat", .ofReal place.lat), ("lng", .ofReal place.lng)]

/-- What is not given is `null`. -/
def orNull (v : Option Json) : Json := v.getD .null

/-- The parts of a command after its keyword. -/
def parts : Command → List (String × Json)
  | country name color animation =>
    [("name", .text name), ("color", .text color), ("animation", .text animation.name)]
  | region name parent color animation occupied =>
    [("name", .text name), ("country", .text parent), ("color", .text color),
     ("animation", .text animation.name), ("occupied", .boolean occupied)]
  | line source target color =>
    [("from", source.toJson), ("to", target.toJson), ("color", .text color)]
  | attack source target color curve width headSize =>
    [("from", source.toJson), ("to", target.toJson), ("color", .text color),
     ("curve", .ofReal curve), ("width", .ofReal width), ("headSize", .ofReal headSize)]
  | bubble place text color => ofPoint place ++ [("text", .text text), ("color", .text color)]
  | label place text size color =>
    ofPoint place ++
      [("text", .text text), ("size", .ofNat size), ("color", orNull (color.map .text))]
  | arrow place text direction color =>
    ofPoint place ++
      [("text", .text text), ("direction", .text direction.name), ("color", .text color)]
  | year text highlight => [("text", .text text), ("highlight", .boolean highlight)]
  | effect place name color size =>
    ofPoint place ++ [("effectName", .text name), ("color", .text color), ("size", .ofReal size)]
  | legend change => change.parts
  | zoom target => [("target", .text target)]
  | fly place level => ofPoint place ++ [("zoom", .ofReal level)]
  | cinematic place level pitch bearing =>
    ofPoint place ++ [("zoom", .ofReal level), ("pitch", orNull (pitch.map .ofReal)),
      ("bearing", orNull (bearing.map .ofReal))]
  | wait ms => [("ms", .ofNat ms)]
  | remove what => [("scope", .text what.name)]

def toJson (command : Command) : Json :=
  .object (("type", .text command.keyword.name) :: command.parts)

variable {α : Type}

/-- A part that must be there. -/
def need (position : Nat) (name : String) (read : Json → Option α) (v : Json) : Option α :=
  v.part? position name read none

def place? (v : Json) : Option Point := do
  return ⟨← need 2 "lng" Json.real? v, ← need 1 "lat" Json.real? v⟩

def animation? (v : Json) : Option Animation := v.choice?.bind Animation.ofName?

def direction? (v : Json) : Option Direction := v.choice?.bind Direction.ofName?

def removal? (v : Json) : Option Removal := v.choice?.bind Removal.ofName?

/-- How many parts a command with the keyword has; those of a legend depend on its change. -/
def partCount? : Keyword → Option Nat
  | .country => some 4
  | .region => some 6
  | .line => some 4
  | .attack => some 7
  | .bubble => some 5
  | .label => some 6
  | .arrow => some 6
  | .year => some 3
  | .effect => some 6
  | .legend => none
  | .zoom => some 2
  | .fly => some 4
  | .cinematic => some 6
  | .wait => some 2
  | .remove => some 2

/-- Reads the parts after the keyword. -/
def ofParts? (keyword : Keyword) (v : Json) : Option Command :=
  match keyword with
  | .country => do
    return country (← need 1 "name" Json.text? v) (← need 2 "color" Json.text? v)
      (← need 3 "animation" animation? v)
  | .region => do
    return region (← need 1 "name" Json.text? v) (← need 2 "country" Json.text? v)
      (← need 3 "color" Json.text? v) (← need 4 "animation" animation? v)
      (← need 5 "occupied" Json.boolean? v)
  | .line => do
    return line (← need 1 "from" Endpoint.ofJson? v) (← need 2 "to" Endpoint.ofJson? v)
      (← need 3 "color" Json.text? v)
  | .attack => do
    return attack (← need 1 "from" Endpoint.ofJson? v) (← need 2 "to" Endpoint.ofJson? v)
      (← need 3 "color" Json.text? v) (← need 4 "curve" Json.real? v)
      (← need 5 "width" Json.real? v) (← need 6 "headSize" Json.real? v)
  | .bubble => do
    return bubble (← place? v) (← need 3 "text" Json.text? v) (← need 4 "color" Json.text? v)
  | .label => do
    return label (← place? v) (← need 3 "text" Json.text? v)
      (← need 4 "size" (Json.natural? (Nat.pow 2 32)) v)
      (← v.part? 5 "color" (Json.optional? Json.text?) (some none))
  | .arrow => do
    return arrow (← place? v) (← need 3 "text" Json.text? v) (← need 4 "direction" direction? v)
      (← need 5 "color" Json.text? v)
  | .year => do
    return year (← need 1 "text" Json.text? v) (← need 2 "highlight" Json.boolean? v)
  | .effect => do
    return effect (← place? v) (← need 3 "effectName" Json.text? v) (← need 4 "color" Json.text? v)
      (← need 5 "size" Json.real? v)
  | .legend => (LegendChange.ofJson? v).map legend
  | .zoom => (need 1 "target" Json.text? v).map zoom
  | .fly => do return fly (← place? v) (← need 3 "zoom" Json.real? v)
  | .cinematic => do
    return cinematic (← place? v) (← need 3 "zoom" Json.real? v)
      (← v.part? 4 "pitch" (Json.optional? Json.real?) (some none))
      (← v.part? 5 "bearing" (Json.optional? Json.real?) (some none))
  | .wait => (need 1 "ms" (Json.natural? (Nat.pow 2 64)) v).map wait
  | .remove => (need 1 "scope" removal? v).map remove

/-- Reads a command. -/
def ofJson? (v : Json) : Option Command := do
  let keyword ← Keyword.ofName? (← need 0 "type" Json.text? v)
  if (partCount? keyword).all v.fits then ofParts? keyword v else none

/-- Reads a command from a JSON text. -/
def ofText? (text : String) : Option Command := (Json.readable? text).bind ofJson?

end Command

namespace Script

def toJson (script : Script) : Json :=
  .object [("commands", .array (script.commands.map Command.toJson)),
    ("source_lines", .array (script.sourceLines.map Json.ofNat)),
    ("rejected_lines", .array (script.rejectedLines.map Json.ofNat))]

/-- The script as an indented JSON text. -/
def dump (script : Script) : String := script.toJson.pretty

end Script

end ScriptedMap
