import ScriptedMap.Surface.Call

namespace ScriptedMap

structure Camera where
  center : Point
  zoom : Binary64
  pitch : Binary64
  bearing : Binary64
deriving DecidableEq, Repr

namespace Camera

def initial : Camera := ⟨⟨0, 20⟩, 2, 0, 0⟩

/-- The camera after a call. -/
def after {Id : Type} (camera : Camera) : Call Id → Camera
  | .panTo place zoom => { camera with center := place, zoom }
  | .panToBounds bounds => { camera with center := bounds.center }
  | .cinematic shot => ⟨shot.place, shot.zoom, shot.pitch, shot.bearing⟩
  | _ => camera

end Camera

/-- A surface without a screen. Clearing it takes the markers away and numbers the next from zero,
and leaves the camera where it is. -/
structure Surface where
  /-- All calls, the oldest first. -/
  calls : List (Call Nat)
  markers : List (Nat × Marker)
  nextMarker : Nat
  camera : Camera
deriving DecidableEq, Repr

namespace Surface

def initial : Surface := ⟨[], [], 0, .initial⟩

/-- The markers after a call, the oldest first. -/
def markersAfter (markers : List (Nat × Marker)) : Call Nat → List (Nat × Marker)
  | .placeMarker id marker _ _ => markers ++ [(id, marker)]
  | .removeLastMarker => markers.dropLast
  | .clearSymbols => markers.filter (!·.2.isSymbol)
  | .clearAll => []
  | _ => markers

/-- The number of the next marker after a call. -/
def nextMarkerAfter (next : Nat) : Call Nat → Nat
  | .placeMarker .. => next + 1
  | .clearAll => 0
  | _ => next

/-- The surface after a numbered call. -/
def record (s : Surface) (call : Call Nat) : Surface where
  calls := s.calls ++ [call]
  markers := markersAfter s.markers call
  nextMarker := nextMarkerAfter s.nextMarker call
  camera := s.camera.after call

/-- Does what is asked, under the next number if it is a marker. -/
def draw (s : Surface) (request : Request) : Surface := s.record (request.numbered s.nextMarker)

def drawAll (s : Surface) (requests : List Request) : Surface := requests.foldl draw s

/-- The calls after the last that cleared the surface, or all if none did. -/
def sinceClear (s : Surface) : List (Call Nat) := (s.calls.reverse.takeWhile (!·.isClear)).reverse

end Surface

end ScriptedMap
