import ScriptedMap.Geo.Point

namespace ScriptedMap

abbrev Ring := List Point

abbrev Polygon := List Ring

structure Territory where
  name : String
  /-- The country of a region. -/
  parent : Option String
  polygons : List Polygon
deriving DecidableEq, Repr

namespace Territory

/-- All points of all rings. -/
def positions (t : Territory) : List Point := t.polygons.flatten.flatten

/-- The least box around the territory. -/
def bounds? (t : Territory) : Option Box := Box.around? t.positions

/-- The box around the territory; that of a territory without points is the origin. -/
def boundingBox (t : Territory) : Box := t.bounds?.getD ⟨⟨0, 0⟩, ⟨0, 0⟩⟩

end Territory

end ScriptedMap
