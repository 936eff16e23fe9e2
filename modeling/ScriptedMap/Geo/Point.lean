import ScriptedMap.Binary64.Arithmetic
import ScriptedMap.Decimal.Writing

namespace ScriptedMap

/-- A place on the map in degrees. -/
structure Point where
  lng : Binary64
  lat : Binary64
deriving DecidableEq, Repr, Inhabited

/-- The points between two corners. -/
structure Box where
  min : Point
  max : Point
deriving DecidableEq, Repr, Inhabited

namespace Point

/-- The lesser coordinates of two points. -/
protected def min (p q : Point) : Point := ⟨p.lng.min q.lng, p.lat.min q.lat⟩

/-- The greater coordinates of two points. -/
protected def max (p q : Point) : Point := ⟨p.lng.max q.lng, p.lat.max q.lat⟩

/-- Both coordinates with three places. -/
def write (p : Point) : String := s!"[{writeFixed 3 p.lng}, {writeFixed 3 p.lat}]"

end Point

namespace Box

/-- The least box that holds the given point as well. -/
def extend (b : Box) (p : Point) : Box := ⟨b.min.min p, b.max.max p⟩

/-- The least box around some points. -/
def around? : List Point → Option Box
  | [] => none
  | p :: ps => some (ps.foldl extend ⟨p, p⟩)

def center (b : Box) : Point := ⟨(b.min.lng + b.max.lng) / 2, (b.min.lat + b.max.lat) / 2⟩

def write (b : Box) : String := s!"[{b.min.write}, {b.max.write}]"

end Box

end ScriptedMap
