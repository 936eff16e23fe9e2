import ScriptedMap.Geo.Point
import ScriptedMap.Script.Command
import ScriptedMap.Script.Legend

namespace ScriptedMap

/-- How a territory is filled. -/
inductive Fill where
  | solid (animation : Animation)
  /-- Striped, for a region that is occupied. -/
  | occupied
deriving DecidableEq, Repr

structure ArrowStyle where
  curve : Binary64
  width : Binary64
  /-- An arrow whose head has no size has none. -/
  headSize : Binary64
deriving DecidableEq, Repr

/-- Straight, thin and without a head. -/
def ArrowStyle.plainLine : ArrowStyle := ⟨0, 0.5, 0⟩

/-- The texts at the ends of an arrow. -/
structure ArrowLabels where
  source : String
  target : String
deriving DecidableEq, Repr

/-- What stands at a point of the map. -/
inductive Marker where
  | bubble (text color : String)
  | label (text : String) (size : Nat) (color : String)
  | callout (text : String) (direction : Direction) (color : String)
  /-- The symbol of an effect, with the label that the catalog gives it. -/
  | symbol (effect label color : String) (scale : Binary64)
deriving DecidableEq, Repr

def Marker.isSymbol : Marker → Bool
  | symbol .. => true
  | _ => false

/-- The part of a marker that stands on its point. -/
inductive Anchor where
  | center
  | left
  | right
deriving DecidableEq, Repr

/-- Where the camera goes, and how it stands there. -/
structure Shot where
  place : Point
  zoom : Binary64
  pitch : Binary64
  bearing : Binary64
deriving DecidableEq, Repr

/-- What the surface is asked to change. A marker is numbered by the surface, so the number is no
part of a call that is asked for. -/
inductive Call (Id : Type) where
  | drawTerritory (name color : String) (fill : Fill)
  | drawConnector (source target color : String)
  | drawArrow (source target : Point) (color : String) (style : ArrowStyle)
      (labels : Option ArrowLabels)
  | placeMarker (id : Id) (marker : Marker) (place : Point) (anchor : Anchor)
  | removeLastMarker
  | clearConnectors
  | clearSymbols
  | showYear (text : String) (highlight : Bool)
  | addLegendEntry (entry : LegendEntry)
  | showLegend (entries : List LegendEntry)
  | hideLegend
  | panTo (place : Point) (zoom : Binary64)
  | panToBounds (bounds : Box)
  | cinematic (shot : Shot)
  | clearAll
deriving DecidableEq, Repr

/-- A call before the surface has numbered its marker. -/
abbrev Request := Call Unit

namespace Call

variable {Id : Type}

/-- The call puts something new on the map. -/
def isDraw : Call Id → Bool
  | drawTerritory .. => true
  | drawConnector .. => true
  | drawArrow .. => true
  | placeMarker .. => true
  | _ => false

def isClear : Call Id → Bool
  | clearAll => true
  | _ => false

/-- The call moves the camera and does nothing else. -/
def isCamera : Call Id → Bool
  | panTo .. => true
  | panToBounds .. => true
  | cinematic .. => true
  | _ => false

/-- The call with the given number for the marker it places. -/
def numbered (number : Nat) : Request → Call Nat
  | drawTerritory name color fill => drawTerritory name color fill
  | drawConnector source target color => drawConnector source target color
  | drawArrow source target color style labels => drawArrow source target color style labels
  | placeMarker _ marker place anchor => placeMarker number marker place anchor
  | removeLastMarker => removeLastMarker
  | clearConnectors => clearConnectors
  | clearSymbols => clearSymbols
  | showYear text highlight => showYear text highlight
  | addLegendEntry entry => addLegendEntry entry
  | showLegend entries => showLegend entries
  | hideLegend => hideLegend
  | panTo place zoom => panTo place zoom
  | panToBounds bounds => panToBounds bounds
  | cinematic shot => cinematic shot
  | clearAll => clearAll

end Call

end ScriptedMap
