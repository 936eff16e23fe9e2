import ScriptedMap.Surface.Basic

namespace ScriptedMap

namespace Call

@[simp] theorem isClear_numbered (number : Nat) (r : Request) :
    (r.numbered number).isClear = r.isClear := by
  cases r <;> rfl

@[simp] theorem isCamera_numbered (number : Nat) (r : Request) :
    (r.numbered number).isCamera = r.isCamera := by
  cases r <;> rfl

theorem isClear_of_isCamera {Id : Type} {call : Call Id} (h : call.isCamera = true) :
    call.isClear = false := by
  cases call with
  | clearAll => cases h
  | _ => rfl

/-- The call says how close the camera comes. -/
def setsZoom {Id : Type} : Call Id → Bool
  | panTo .. => true
  | cinematic .. => true
  | _ => false

/-- The call says how the camera is tilted and turned. -/
def setsAngles {Id : Type} : Call Id → Bool
  | cinematic .. => true
  | _ => false

end Call

namespace Camera

/-- What a call says of one part of the camera, it says whatever the camera was before; other calls
keep that part. Two cameras that differ in it are told apart by the calls that do not set it. -/
theorem foldl_after_eq_iff {α : Type} (part : Camera → α) (sets : Call Nat → Bool)
    (keeps : ∀ call c d, part (after c call) = part (after d call) ↔
      sets call = true ∨ part c = part d) (calls : List (Call Nat)) (c d : Camera) :
    part (calls.foldl after c) = part (calls.foldl after d) ↔
      calls.any sets = true ∨ part c = part d := by
  induction calls generalizing c d with
  | nil => simp
  | cons call calls ih =>
    simp only [List.foldl_cons, ih, keeps, List.any_cons, Bool.or_eq_true]
    rw [or_left_comm, or_assoc]

theorem center_after_iff (call : Call Nat) (c d : Camera) :
    (c.after call).center = (d.after call).center ↔ call.isCamera = true ∨ c.center = d.center := by
  cases call <;> simp [after, Call.isCamera]

theorem zoom_after_iff (call : Call Nat) (c d : Camera) :
    (c.after call).zoom = (d.after call).zoom ↔ call.setsZoom = true ∨ c.zoom = d.zoom := by
  cases call <;> simp [after, Call.setsZoom]

def angles (c : Camera) : Binary64 × Binary64 := (c.pitch, c.bearing)

theorem angles_after_iff (call : Call Nat) (c d : Camera) :
    (c.after call).angles = (d.after call).angles ↔
      call.setsAngles = true ∨ c.angles = d.angles := by
  cases call <;> simp [after, angles, Call.setsAngles]

theorem eq_iff_parts (c d : Camera) :
    c = d ↔ c.center = d.center ∧ c.zoom = d.zoom ∧ c.angles = d.angles := by
  cases c; cases d
  simp [angles]

/-- Two cameras agree after the same calls exactly if the calls set all the parts in which they
differ. -/
theorem foldl_after_agree_iff (calls : List (Call Nat)) (c d : Camera) :
    calls.foldl after c = calls.foldl after d ↔
      (calls.any Call.isCamera = true ∨ c.center = d.center) ∧
      (calls.any Call.setsZoom = true ∨ c.zoom = d.zoom) ∧
      (calls.any Call.setsAngles = true ∨ c.angles = d.angles) := by
  rw [eq_iff_parts, foldl_after_eq_iff center _ center_after_iff,
    foldl_after_eq_iff zoom _ zoom_after_iff, foldl_after_eq_iff angles _ angles_after_iff]

end Camera

namespace Surface

theorem markersAfter_of_isCamera (markers : List (Nat × Marker)) {call : Call Nat}
    (h : call.isCamera = true) : markersAfter markers call = markers := by
  cases call with
  | panTo place zoom => rfl
  | panToBounds bounds => rfl
  | cinematic shot => rfl
  | _ => cases h

theorem nextMarkerAfter_of_isCamera (next : Nat) {call : Call Nat} (h : call.isCamera = true) :
    nextMarkerAfter next call = next := by
  cases call with
  | panTo place zoom => rfl
  | panToBounds bounds => rfl
  | cinematic shot => rfl
  | _ => cases h

@[simp] theorem drawAll_nil (s : Surface) : s.drawAll [] = s := rfl

@[simp] theorem drawAll_cons (s : Surface) (r : Request) (rs : List Request) :
    s.drawAll (r :: rs) = (s.draw r).drawAll rs := rfl

theorem drawAll_append (s : Surface) (rs ts : List Request) :
    s.drawAll (rs ++ ts) = (s.drawAll rs).drawAll ts := List.foldl_append

/-- The calls that requests become on a surface whose next marker has the given number. -/
def numberAll (next : Nat) : List Request → List (Call Nat)
  | [] => []
  | r :: rs => r.numbered next :: numberAll (nextMarkerAfter next (r.numbered next)) rs

theorem calls_drawAll (s : Surface) (rs : List Request) :
    (s.drawAll rs).calls = s.calls ++ numberAll s.nextMarker rs := by
  induction rs generalizing s with
  | nil => simp [numberAll]
  | cons r rs ih => simp [ih, numberAll, draw, record]

theorem sinceClear_record (s : Surface) (call : Call Nat) :
    (s.record call).sinceClear = if call.isClear then [] else s.sinceClear ++ [call] := by
  cases h : call.isClear <;> simp [sinceClear, record, h]

theorem sinceClear_draw (s : Surface) {r : Request} (hr : r.isClear = false) :
    (s.draw r).sinceClear = s.sinceClear ++ [r.numbered s.nextMarker] := by
  simp only [draw, sinceClear_record, Call.isClear_numbered, hr, Bool.false_eq_true, if_false]

theorem sinceClear_clearAll (s : Surface) : (s.draw .clearAll).sinceClear = [] := by
  rw [draw, sinceClear_record]
  rfl

/-- The calls up to the last that cleared the surface, or none if none did. -/
def upToClear (s : Surface) : List (Call Nat) := (s.calls.reverse.dropWhile (!·.isClear)).reverse

theorem upToClear_append_sinceClear (s : Surface) : s.upToClear ++ s.sinceClear = s.calls := by
  rw [upToClear, sinceClear, ← List.reverse_append, List.takeWhile_append_dropWhile,
    List.reverse_reverse]

/-- `s` shows what `t` shows: since it was cleared it has received what `t` has received in all, and
the same markers have come of it. -/
structure Shows (s t : Surface) : Prop where
  calls : s.sinceClear = t.calls
  markers : s.markers = t.markers
  nextMarker : s.nextMarker = t.nextMarker

theorem shows_initial (s : Surface) : (s.draw .clearAll).Shows .initial :=
  ⟨sinceClear_clearAll s, rfl, rfl⟩

theorem Shows.draw {s t : Surface} (h : s.Shows t) {r : Request} (hr : r.isClear = false) :
    (s.draw r).Shows (t.draw r) := by
  refine ⟨?_, ?_, ?_⟩
  · rw [sinceClear_draw s hr, h.calls, h.nextMarker]
    rfl
  · simp [Surface.draw, record, h.markers, h.nextMarker]
  · simp [Surface.draw, record, h.nextMarker]

/-- A relation of surfaces to surfaces never cleared, which holds where a surface is cleared and is
kept where both are asked for the same. -/
structure Tracks (R : Surface → Surface → Prop) : Prop where
  clear : ∀ s : Surface, R (s.draw .clearAll) .initial
  draw : ∀ {s t : Surface} {r : Request}, R s t → r.isClear = false → R (s.draw r) (t.draw r)

theorem Tracks.drawAll {R : Surface → Surface → Prop} (hR : Tracks R) {s t : Surface} (h : R s t)
    {rs : List Request} (hrs : ∀ r ∈ rs, r.isClear = false) : R (s.drawAll rs) (t.drawAll rs) := by
  induction rs generalizing s t with
  | nil => exact h
  | cons r rs ih =>
    have hfirst : R (s.draw r) (t.draw r) := hR.draw h (hrs r (by simp))
    exact ih hfirst fun q hq => hrs q (by simp [hq])

theorem shows_tracks : Tracks Shows := ⟨shows_initial, fun h hr => h.draw hr⟩

/-- `s` shows what `t` shows, but its camera may have been moved otherwise. -/
structure Draws (s t : Surface) : Prop where
  calls : s.sinceClear.filter (!·.isCamera) = t.calls.filter (!·.isCamera)
  markers : s.markers = t.markers
  nextMarker : s.nextMarker = t.nextMarker

theorem Shows.draws {s t : Surface} (h : s.Shows t) : s.Draws t :=
  ⟨congrArg _ h.calls, h.markers, h.nextMarker⟩

theorem Draws.draw {s t : Surface} (h : s.Draws t) {r : Request} (hr : r.isClear = false) :
    (s.draw r).Draws (t.draw r) := by
  refine ⟨?_, ?_, ?_⟩
  · have ht : (t.draw r).calls = t.calls ++ [r.numbered t.nextMarker] := rfl
    rw [sinceClear_draw s hr, ht, List.filter_append, List.filter_append, h.calls, h.nextMarker]
  · simp [Surface.draw, record, h.markers, h.nextMarker]
  · simp [Surface.draw, record, h.nextMarker]

theorem draws_tracks : Tracks Draws :=
  ⟨fun s => (shows_initial s).draws, fun h hr => h.draw hr⟩

/-- A move of the camera draws nothing. -/
theorem Draws.draw_camera {s t : Surface} (h : s.Draws t) {r : Request} (hr : r.isCamera = true) :
    (s.draw r).Draws t := by
  have hcall : (r.numbered s.nextMarker).isCamera = true := by
    rw [Call.isCamera_numbered, hr]
  refine ⟨?_, ?_, ?_⟩
  · rw [sinceClear_draw s (Call.isClear_of_isCamera hr), List.filter_append, h.calls]
    simp [hr]
  · rw [← h.markers]
    exact markersAfter_of_isCamera s.markers hcall
  · rw [← h.nextMarker]
    exact nextMarkerAfter_of_isCamera s.nextMarker hcall

/-- The camera stands where all calls together have moved it. -/
def FollowsCalls (s : Surface) : Prop := s.camera = s.calls.foldl Camera.after .initial

theorem followsCalls_initial : initial.FollowsCalls := rfl

theorem FollowsCalls.draw {s : Surface} (h : s.FollowsCalls) (r : Request) :
    (s.draw r).FollowsCalls := by
  have hs : s.camera = s.calls.foldl Camera.after .initial := h
  simp [FollowsCalls, Surface.draw, record, hs]

theorem FollowsCalls.drawAll {s : Surface} (h : s.FollowsCalls) (rs : List Request) :
    (s.drawAll rs).FollowsCalls := by
  induction rs generalizing s with
  | nil => exact h
  | cons r rs ih => exact ih (h.draw r)

/-- The camera as it stood when the surface was cleared. -/
def cameraAtClear (s : Surface) : Camera := s.upToClear.foldl Camera.after .initial

/-- Clearing keeps the camera: it has moved on from where it stood then. -/
theorem FollowsCalls.camera_eq {s : Surface} (h : s.FollowsCalls) :
    s.camera = s.sinceClear.foldl Camera.after s.cameraAtClear := by
  rw [cameraAtClear, ← List.foldl_append, upToClear_append_sinceClear]
  exact h

/-- All of a surface that can be seen, but for the calls it has received. -/
def view (s : Surface) : List (Nat × Marker) × Nat × Camera := (s.markers, s.nextMarker, s.camera)

/-- A surface that shows what a surface never cleared shows has the same view exactly if each part
of the camera was at its first place when the surface was cleared or has been set since. -/
theorem Shows.view_eq_iff {s t : Surface} (h : s.Shows t) (hs : s.FollowsCalls)
    (ht : t.FollowsCalls) :
    s.view = t.view ↔
      (t.calls.any Call.isCamera = true ∨ s.cameraAtClear.center = Camera.initial.center) ∧
      (t.calls.any Call.setsZoom = true ∨ s.cameraAtClear.zoom = Camera.initial.zoom) ∧
      (t.calls.any Call.setsAngles = true ∨ s.cameraAtClear.angles = Camera.initial.angles) := by
  have hc : t.camera = t.calls.foldl Camera.after .initial := ht
  simp only [view, h.markers, h.nextMarker, Prod.mk.injEq, true_and]
  rw [hs.camera_eq, h.calls, hc, Camera.foldl_after_agree_iff]

end Surface

end ScriptedMap
