import ScriptedMap.Surface.Call
import ScriptedMap.Text.Quoted

namespace ScriptedMap

/-- Whole numbers have no point. -/
def logNumber : NumberStyle := ⟨.up, false, none⟩

/-- Whole numbers end in `.0`. -/
def partNumber : NumberStyle := ⟨.up, true, none⟩

def Animation.title : Animation → String
  | none => "None"
  | pulse => "Pulse"
  | fade => "Fade"
  | radial => "Radial"
  | sweep => "Sweep"

def Direction.title : Direction → String
  | left => "Left"
  | right => "Right"

def Fill.write : Fill → String
  | solid animation => s!"Solid({animation.title})"
  | occupied => "Occupied"

/-- A name before its parts. -/
def writeParts (name : String) (parts : List (String × String)) : String :=
  let list := ", ".intercalate (parts.map fun p => p.1 ++ ": " ++ p.2)
  name ++ " \x7b " ++ list ++ " \x7d"

def Marker.write : Marker → String
  | bubble text color => writeParts "Bubble" [("text", quoteText text), ("color", quoteText color)]
  | label text size color =>
    writeParts "Label" [("text", quoteText text), ("size", toString size),
      ("color", quoteText color)]
  | callout text direction color =>
    writeParts "Callout"
      [("text", quoteText text), ("direction", direction.title), ("color", quoteText color)]
  | symbol effect title color scale =>
    writeParts "Symbol"
      [("effect", quoteText effect), ("label", quoteText title), ("color", quoteText color),
       ("scale", partNumber.write scale)]

/-- A latitude, a longitude and a zoom. -/
def writeView (place : Point) (zoom : Binary64) : String :=
  s!"{logNumber.write place.lat}, {logNumber.write place.lng} z{logNumber.write zoom}"

def Call.write : Call Nat → String
  | drawTerritory name color fill => s!"fill {name} {color} {fill.write}"
  | drawConnector source target color => s!"connect {source} -> {target} {color}"
  | drawArrow source target color _ _ => s!"arrow {source.write} -> {target.write} {color}"
  | placeMarker id marker place _ => s!"marker #{id} at {place.write}: {marker.write}"
  | removeLastMarker => "remove last marker"
  | clearConnectors => "clear arrows"
  | clearSymbols => "clear effects"
  | showYear text highlight => s!"year {text}" ++ if highlight then " (highlight)" else ""
  | addLegendEntry entry => s!"legend {entry.label} {entry.color}"
  | showLegend entries => s!"auto legend ({entries.length} entries)"
  | hideLegend => "hide legend"
  | panTo place zoom => s!"fly to {writeView place zoom}"
  | panToBounds bounds => s!"zoom to {bounds.write}"
  | cinematic shot =>
    s!"cinematic to {writeView shot.place shot.zoom} "
      ++ s!"pitch {logNumber.write shot.pitch} bearing {logNumber.write shot.bearing}"
  | clearAll => "clear"

end ScriptedMap
