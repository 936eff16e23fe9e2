import Mathlib.Data.List.Basic
import Mathlib.Data.List.Forall2
import ScriptedMap.Proofs.Surface.Log

namespace ScriptedMap

/-- The marker is words that stand on the map. -/
def Marker.isText : Marker → Bool
  | bubble .. => true
  | label .. => true
  | callout .. => true
  | symbol .. => false

namespace Call

/-- What a call makes of a stack of markers, the last of them on top. -/
def onStack (stack : List (Nat × Marker)) : Call Nat → List (Nat × Marker)
  | placeMarker id marker _ _ => stack ++ [(id, marker)]
  | removeLastMarker => stack.dropLast
  | clearSymbols => stack.filter fun m => m.2.isText
  | _ => stack

/-- The number of the marker that a call places. -/
def placed? : Call Nat → Option Nat
  | placeMarker id _ _ _ => some id
  | _ => none

/-- The point that a call puts in the middle of the view. For a box it is half-way between the
sides. -/
def center? : Call Nat → Option Point
  | panTo place _ => some place
  | panToBounds ⟨⟨west, south⟩, ⟨east, north⟩⟩ => some ⟨(west + east) / 2, (south + north) / 2⟩
  | cinematic shot => some shot.place
  | _ => none

/-- The zoom that a call asks for. A box asks for none. -/
def zoom? : Call Nat → Option Binary64
  | panTo _ zoom => some zoom
  | cinematic shot => some shot.zoom
  | _ => none

/-- The pitch that a call asks for. Only a shot has one. -/
def pitch? : Call Nat → Option Binary64
  | cinematic shot => some shot.pitch
  | _ => none

/-- The bearing that a call asks for. Only a shot has one. -/
def bearing? : Call Nat → Option Binary64
  | cinematic shot => some shot.bearing
  | _ => none

end Call

/-- What the calls have asked for last, or the value at first if none has asked for any. -/
def lastAsked {α : Type} (asks : Call Nat → Option α) (first : α) (calls : List (Call Nat)) : α :=
  ((calls.filterMap asks).getLast?).getD first

theorem lastAsked_concat {α : Type} (asks : Call Nat → Option α) (first : α)
    (calls : List (Call Nat)) (call : Call Nat) :
    lastAsked asks first (calls ++ [call]) = (asks call).getD (lastAsked asks first calls) := by
  rw [lastAsked, List.filterMap_append, List.getLast?_append]
  cases h : asks call <;> simp [h, lastAsked]

namespace Camera

/-- Each part of the camera is what the calls have asked for last. -/
structure IsWhereAsked (c : Camera) (calls : List (Call Nat)) : Prop where
  center : c.center = lastAsked Call.center? initial.center calls
  zoom : c.zoom = lastAsked Call.zoom? initial.zoom calls
  pitch : c.pitch = lastAsked Call.pitch? initial.pitch calls
  bearing : c.bearing = lastAsked Call.bearing? initial.bearing calls

theorem isWhereAsked_initial : initial.IsWhereAsked [] := ⟨rfl, rfl, rfl, rfl⟩

/-- A call moves the parts of the camera that it asks for and leaves the others. -/
theorem IsWhereAsked.after {c : Camera} {calls : List (Call Nat)} (h : c.IsWhereAsked calls)
    (call : Call Nat) : (c.after call).IsWhereAsked (calls ++ [call]) := by
  constructor
  case center =>
    rw [lastAsked_concat, ← h.center]
    cases call <;> rfl
  case zoom =>
    rw [lastAsked_concat, ← h.zoom]
    cases call <;> rfl
  case pitch =>
    rw [lastAsked_concat, ← h.pitch]
    cases call <;> rfl
  case bearing =>
    rw [lastAsked_concat, ← h.bearing]
    cases call <;> rfl

end Camera

namespace Surface

theorem markersAfter_eq_onStack {call : Call Nat} (h : call.isClear = false)
    (markers : List (Nat × Marker)) : markersAfter markers call = call.onStack markers := by
  cases call with
  | clearAll => cases h
  | clearSymbols =>
    refine List.filter_congr ?_
    intro m _
    cases m.2 <;> rfl
  | _ => rfl

/-- A call that places no marker only takes markers away and keeps the order of the others. -/
theorem markersAfter_sublist {call : Call Nat} (h : call.placed? = none)
    (markers : List (Nat × Marker)) : (markersAfter markers call).Sublist markers := by
  cases call with
  | placeMarker id marker place anchor => cases h
  | removeLastMarker => exact List.dropLast_sublist markers
  | clearSymbols => exact List.filter_sublist
  | clearAll => exact List.nil_sublist markers
  | _ => exact List.Sublist.refl markers

theorem markers_draw_eq_onStack (s : Surface) {r : Request} (hr : r.isClear = false) :
    (s.draw r).markers = (r.numbered s.nextMarker).onStack s.markers :=
  markersAfter_eq_onStack (by rw [Call.isClear_numbered, hr]) s.markers

theorem nextMarkerAfter_of_placed? {call : Call Nat} (hclear : call.isClear = false)
    (hplaced : call.placed? = none) (next : Nat) : nextMarkerAfter next call = next := by
  cases call with
  | placeMarker id marker place anchor => cases hplaced
  | clearAll => cases hclear
  | _ => rfl

theorem forall₂_numberAll (next : Nat) (rs : List Request) :
    List.Forall₂ (fun r call => ∃ n, call = r.numbered n) rs (numberAll next rs) := by
  induction rs generalizing next with
  | nil => exact .nil
  | cons r rs ih => exact .cons ⟨next, rfl⟩ (ih _)

/-- The markers are what the calls since the surface was cleared make of an empty stack. Their
numbers increase, and those of all markers placed since then are the numbers up to the next one. -/
structure AgreesWithLog (s : Surface) : Prop where
  markers : s.markers = s.sinceClear.foldl Call.onStack []
  numbers : s.sinceClear.filterMap Call.placed? = List.range s.nextMarker
  increasing : (s.markers.map (·.1)).Pairwise (· < ·)
  below : ∀ m ∈ s.markers, m.1 < s.nextMarker

theorem agreesWithLog_initial : initial.AgreesWithLog := ⟨rfl, rfl, .nil, nofun⟩

theorem agreesWithLog_clear (s : Surface) : (s.draw .clearAll).AgreesWithLog := by
  have hsince : (s.draw .clearAll).sinceClear = [] := sinceClear_clearAll s
  refine ⟨?_, ?_, .nil, nofun⟩
  · rw [hsince]
    rfl
  · rw [hsince]
    rfl

/-- A call that places no marker leaves the numbers as they were. -/
theorem AgreesWithLog.draw_of_placed?_eq_none {s : Surface} (h : s.AgreesWithLog) {r : Request}
    (hr : r.isClear = false) (hplaced : (r.numbered s.nextMarker).placed? = none) :
    (s.draw r).AgreesWithLog := by
  have hcall : (r.numbered s.nextMarker).isClear = false := by rw [Call.isClear_numbered, hr]
  have hnext : (s.draw r).nextMarker = s.nextMarker := nextMarkerAfter_of_placed? hcall hplaced _
  have hsub : (s.draw r).markers.Sublist s.markers := markersAfter_sublist hplaced s.markers
  constructor
  case markers =>
    rw [markers_draw_eq_onStack s hr, h.markers, sinceClear_draw s hr, List.foldl_concat]
  case numbers =>
    rw [sinceClear_draw s hr, List.filterMap_append, h.numbers, hnext]
    simp [hplaced]
  case increasing => exact h.increasing.sublist (hsub.map _)
  case below =>
    intro m hm
    rw [hnext]
    exact h.below m (hsub.subset hm)

/-- A marker is placed on top of the others and under a number above theirs. -/
theorem AgreesWithLog.draw_placeMarker {s : Surface} (h : s.AgreesWithLog) (id : Unit)
    (marker : Marker) (place : Point) (anchor : Anchor) :
    (s.draw (.placeMarker id marker place anchor)).AgreesWithLog := by
  have hmarkers : (s.draw (.placeMarker id marker place anchor)).markers
      = s.markers ++ [(s.nextMarker, marker)] := rfl
  have hnext : (s.draw (.placeMarker id marker place anchor)).nextMarker = s.nextMarker + 1 := rfl
  have hsince := sinceClear_draw s (r := .placeMarker id marker place anchor) rfl
  constructor
  case markers =>
    rw [hmarkers, hsince, List.foldl_concat, ← h.markers]
    rfl
  case numbers =>
    rw [hsince, List.filterMap_append, h.numbers, hnext, List.range_succ]
    rfl
  case increasing =>
    rw [hmarkers, List.map_append, List.pairwise_append]
    refine ⟨h.increasing, List.pairwise_singleton _ _, ?_⟩
    intro n hn k hk
    obtain ⟨m, hm, rfl⟩ := List.mem_map.mp hn
    obtain rfl := List.mem_singleton.mp hk
    exact h.below m hm
  case below =>
    intro m hm
    rw [hmarkers, List.mem_append, List.mem_singleton] at hm
    rw [hnext]
    cases hm with
    | inl hold => exact Nat.lt_succ_of_lt (h.below m hold)
    | inr hnew =>
      rw [hnew]
      exact Nat.lt_succ_self s.nextMarker

theorem AgreesWithLog.draw {s : Surface} (h : s.AgreesWithLog) (r : Request) :
    (s.draw r).AgreesWithLog := by
  cases r with
  | clearAll => exact agreesWithLog_clear s
  | placeMarker id marker place anchor => exact h.draw_placeMarker id marker place anchor
  | _ => exact h.draw_of_placed?_eq_none rfl rfl

theorem AgreesWithLog.drawAll {s : Surface} (h : s.AgreesWithLog) (rs : List Request) :
    (s.drawAll rs).AgreesWithLog := by
  induction rs generalizing s with
  | nil => exact h
  | cons r rs ih => exact ih (h.draw r)

theorem isWhereAsked_drawAll (s : Surface) (h : s.camera.IsWhereAsked s.calls) (rs : List Request) :
    (s.drawAll rs).camera.IsWhereAsked (s.drawAll rs).calls := by
  induction rs generalizing s with
  | nil => exact h
  | cons r rs ih => exact ih (s.draw r) (h.after (r.numbered s.nextMarker))

/-- The log holds what was asked for, one call for each request. The markers are what the calls
since the surface was cleared make of an empty stack, and their numbers increase; the markers placed
since then have been numbered one by one from zero, those among them that have been taken away as
well. The camera has each of its parts from the last call that asked for it, before the surface was
cleared or since. -/
theorem drawAll_initial_agrees (rs : List Request) :
    List.Forall₂ (fun r call => ∃ n, call = r.numbered n) rs (initial.drawAll rs).calls ∧
    (initial.drawAll rs).markers = (initial.drawAll rs).sinceClear.foldl Call.onStack [] ∧
    (initial.drawAll rs).sinceClear.filterMap Call.placed?
      = List.range (initial.drawAll rs).nextMarker ∧
    ((initial.drawAll rs).markers.map (·.1)).Pairwise (· < ·) ∧
    (initial.drawAll rs).camera.IsWhereAsked (initial.drawAll rs).calls := by
  have hlog : (initial.drawAll rs).calls = numberAll 0 rs := calls_drawAll initial rs
  have hagrees : (initial.drawAll rs).AgreesWithLog := agreesWithLog_initial.drawAll rs
  refine ⟨?_, hagrees.markers, hagrees.numbers, hagrees.increasing, ?_⟩
  · rw [hlog]
    exact forall₂_numberAll 0 rs
  · exact isWhereAsked_drawAll initial Camera.isWhereAsked_initial rs

/-- A shot before the surface is cleared, a flight and a box since then; a symbol and a bubble that
are taken away again. -/
def tour : List Request :=
  [.placeMarker () (.bubble "Rome" "#f00") ⟨12, 42⟩ .center, .cinematic ⟨⟨12, 42⟩, 6, 30, 10⟩,
   .clearAll, .placeMarker () (.label "Po" 12 "#00f") ⟨10, 45⟩ .center, .panTo ⟨10, 45⟩ 5,
   .placeMarker () (.symbol "flag" "Flag" "#f00" 1) ⟨10, 45⟩ .center,
   .placeMarker () (.bubble "Milan" "#f00") ⟨9, 45⟩ .center, .removeLastMarker, .clearSymbols,
   .placeMarker () (.callout "Turin" .left "#f00") ⟨8, 45⟩ .right, .panToBounds ⟨⟨6, 36⟩, ⟨18, 48⟩⟩]

/-- The numbers of the markers that were taken away are not given to the next. The box sets the
center alone: the zoom is still that of the flight, and the angles are those of the shot. -/
theorem drawAll_initial_agrees_tour :
    let s := initial.drawAll tour
    s.markers = [(0, .label "Po" 12 "#00f"), (3, .callout "Turin" .left "#f00")] ∧
      s.sinceClear.filterMap Call.placed? = [0, 1, 2, 3] ∧
      s.camera.center = ⟨12, 42⟩ ∧ s.camera.zoom = 5 ∧ s.camera.pitch = 30 ∧
      s.camera.bearing = 10 := by
  obtain ⟨-, hmarkers, hnumbers, -, hcamera⟩ := drawAll_initial_agrees tour
  have hcenter : lastAsked Call.center? Camera.initial.center (initial.drawAll tour).calls =
      ⟨12, 42⟩ := by decide +kernel
  exact ⟨hmarkers, hnumbers, hcamera.center.trans hcenter, hcamera.zoom, hcamera.pitch,
    hcamera.bearing⟩

end Surface

end ScriptedMap
