import ScriptedMap.Proofs.Timeline.Course

namespace ScriptedMap

namespace Operation

/-- The operation goes back to an earlier command and begins with a cleared surface. -/
def rewinds (p : Playback) : Operation → Bool
  | restart => true
  | stepBackward => decide (0 < p.cursor)
  | _ => false

end Operation

namespace Scene

/-- What holds of a playback at all times, unless a run is dropped. -/
structure Consistent (scene : Scene) (p : Playback) : Prop where
  camera : p.surface.FollowsCalls
  shows : 0 < p.cursor → p.surface.Shows (scene.picture p.script p.cursor)

variable {scene : Scene} {p : Playback}

theorem consistent_initial (scene : Scene) : scene.Consistent .initial :=
  ⟨Surface.followsCalls_initial, fun h => absurd h (Nat.lt_irrefl 0)⟩

variable {R : Surface → Surface → Prop}

/-- Where the first command is played the surface is cleared, and so it tracks the commands before
the cursor, of which there are none. -/
theorem clearAtStart_tracks (hR : Surface.Tracks R)
    (h : 0 < p.cursor → R p.surface (scene.picture p.script p.cursor)) :
    R p.clearAtStart.surface (scene.picture p.script p.cursor) := by
  rw [Playback.clearAtStart_surface]
  split
  · rename_i hp
    rw [hp, picture_zero]
    exact hR.clear p.surface
  · rename_i hp
    exact h (Nat.pos_of_ne_zero hp)

theorem GoesOnTo.tracks {o : Outcome} {last : Nat} (hgo : GoesOnTo scene p o last)
    (hR : Surface.Tracks R) (h : 0 < p.cursor → R p.surface (scene.picture p.script p.cursor)) :
    0 < o.next.cursor → R o.next.surface (scene.picture o.next.script o.next.cursor) := by
  rw [hgo.script, hgo.cursor, hgo.surface]
  rcases Nat.eq_or_lt_of_le hgo.le with hl | hl
  · -- nothing has been played
    subst hl
    rw [surfaceAt_self]
    exact h
  · intro _
    rw [surfaceAt_of_lt hl, scene.picture_stretch p.script hgo.le]
    exact hR.drawAll (clearAtStart_tracks hR h) isClear_of_mem_requests

theorem Consistent.clearAtStart_followsCalls (h : scene.Consistent p) :
    p.clearAtStart.surface.FollowsCalls := by
  rw [Playback.clearAtStart_surface]
  split
  · exact h.camera.draw .clearAll
  · exact h.camera

theorem GoesOnTo.consistent {o : Outcome} {last : Nat} (hgo : GoesOnTo scene p o last)
    (h : scene.Consistent p) : scene.Consistent o.next := by
  refine ⟨?_, hgo.tracks Surface.shows_tracks h.shows⟩
  rw [hgo.surface]
  rcases Nat.eq_or_lt_of_le hgo.le with hl | hl
  · rw [← hl, surfaceAt_self]
    exact h.camera
  · rw [surfaceAt_of_lt hl]
    exact h.clearAtStart_followsCalls.drawAll _

/-- A step back leads to a surface that has been cleared and on which the commands before the new
cursor have been drawn. -/
theorem stepBackward_next (scene : Scene) {p : Playback} (hp : 0 < p.cursor) :
    (scene.stepBackward p).next = { p with
      cursor := p.cursor - 1
      state := .idle
      surface := (p.surface.draw .clearAll).drawAll
        (scene.requests p.script (p.script.commands.take (p.cursor - 1))) } := by
  have htake : (p.script.entries.take (p.cursor - 1)).map (·.command) =
      p.script.commands.take (p.cursor - 1) := List.map_take
  have hreplay := scene.replay_surface p.script 0 (p.surface.draw .clearAll)
    (p.script.entries.take (p.cursor - 1))
  rw [htake] at hreplay
  rw [stepBackward, if_neg (Nat.ne_of_gt hp), ← hreplay]
  rfl

theorem stepBackward_of_zero (scene : Scene) {p : Playback} (hp : p.cursor = 0) :
    scene.stepBackward p = p.finish .atStart 0 := by
  rw [stepBackward, if_pos hp]

/-- Whatever the surface was, an operation that goes back leads to one that tracks the commands that
are left. -/
theorem perform_rewinds_tracks (scene : Scene) (hR : Surface.Tracks R) {o : Operation}
    (ho : o.rewinds p = true) :
    let q := (scene.perform p o).next
    R q.surface (scene.picture q.script q.cursor) := by
  intro q
  cases o with
  | restart => exact hR.clear p.surface
  | stepBackward =>
    have hp : 0 < p.cursor := by simpa [Operation.rewinds] using ho
    have hq : q = _ := scene.stepBackward_next hp
    rw [hq]
    exact hR.drawAll (hR.clear p.surface) isClear_of_mem_requests
  | load script => cases ho
  | run i => cases ho
  | stepForward => cases ho
  | stop => cases ho
  | requestStop => cases ho
  | withdrawStop => cases ho

theorem stepBackward_consistent (h : scene.Consistent p) :
    scene.Consistent (scene.stepBackward p).next := by
  by_cases hp : 0 < p.cursor
  · have ho : Operation.stepBackward.rewinds p = true := by simpa [Operation.rewinds] using hp
    refine ⟨?_, fun _ => scene.perform_rewinds_tracks Surface.shows_tracks ho⟩
    rw [scene.stepBackward_next hp]
    exact (h.camera.draw .clearAll).drawAll _
  · rw [scene.stepBackward_of_zero (Nat.eq_zero_of_not_pos hp)]
    exact h

theorem perform_consistent {o : Operation} (ho : o.drops = false) (h : scene.Consistent p) :
    scene.Consistent (scene.perform p o).next := by
  cases o with
  | load script => exact ⟨h.camera, fun hq => absurd hq (Nat.lt_irrefl 0)⟩
  | run i =>
    have hi : i.drops = false := ho
    exact (scene.run_goesOnTo hi p).consistent h
  | stepForward =>
    obtain ⟨last, hgo⟩ := scene.stepForward_goesOnTo p
    exact hgo.consistent h
  | stepBackward => exact stepBackward_consistent h
  | stop => exact ⟨h.camera, h.shows⟩
  | restart => exact ⟨h.camera.draw .clearAll, fun hq => absurd hq (Nat.lt_irrefl 0)⟩
  | requestStop => exact ⟨h.camera, h.shows⟩
  | withdrawStop => exact ⟨h.camera, h.shows⟩

theorem performAll_consistent {operations : List Operation}
    (hdrops : ∀ o ∈ operations, o.drops = false) (h : scene.Consistent p) :
    scene.Consistent (scene.performAll p operations).next := by
  induction operations generalizing p with
  | nil => exact h
  | cons o os ih =>
    have hfirst := perform_consistent (hdrops o (by simp)) h
    exact ih (fun o ho => hdrops o (by simp [ho])) hfirst

/-- A surface shows the commands before the cursor where there are any, and where the last operation
has gone back. -/
theorem perform_shows {o : Operation} (ho : o.drops = false) (h : scene.Consistent p) :
    let q := (scene.perform p o).next
    0 < q.cursor ∨ o.rewinds p = true → q.surface.Shows (scene.picture q.script q.cursor) := by
  rintro q (hq | hr)
  · exact (perform_consistent ho h).shows hq
  · exact scene.perform_rewinds_tracks Surface.shows_tracks hr

/-- Whatever has been done, the surface has received since it was cleared what a new surface
receives from the commands before the cursor, and the same markers stand on it. Where an operation
has gone back to the first command, the surface is empty. -/
theorem surface_at_cursor (scene : Scene) (operations : List Operation)
    (hdrops : ∀ o ∈ operations, o.drops = false) :
    let p := (scene.performAll .initial operations).next
    let restarted := (scene.perform p .restart).next
    let back := (scene.perform p .stepBackward).next
    (0 < p.cursor → p.surface.sinceClear = (scene.picture p.script p.cursor).calls ∧
      p.surface.markers = (scene.picture p.script p.cursor).markers) ∧
    (restarted.surface.sinceClear = [] ∧ restarted.surface.markers = []) ∧
    (p.cursor = 1 →
      back.cursor = 0 ∧ back.surface.sinceClear = [] ∧ back.surface.markers = []) := by
  intro p restarted back
  have hp : scene.Consistent p := performAll_consistent hdrops scene.consistent_initial
  refine ⟨?_, ?_, ?_⟩
  · intro hc
    exact ⟨(hp.shows hc).calls, (hp.shows hc).markers⟩
  · have hr : restarted.surface.Shows .initial := Surface.shows_initial p.surface
    exact ⟨hr.calls, hr.markers⟩
  · intro hc
    have hpos : 0 < p.cursor := by omega
    have hback : back = _ := scene.stepBackward_next hpos
    have hzero : back.cursor = 0 := by
      rw [hback, hc]
    have hs : back.surface.Shows (scene.picture back.script back.cursor) :=
      scene.perform_rewinds_tracks Surface.shows_tracks (o := .stepBackward) (decide_eq_true hpos)
    rw [hzero, picture_zero] at hs
    exact ⟨hzero, hs.calls, hs.markers⟩

/-- A run that is stopped in a wait, two steps back and two forward. -/
theorem surface_at_cursor_after_steps :
    let script : Script :=
      ⟨[⟨0, .zoom "atlantis"⟩, ⟨1, .label ⟨0, 0⟩ "Yerevan" 12 none⟩, ⟨2, .wait 5⟩,
        ⟨3, .remove .last⟩], []⟩
    let operations : List Operation :=
      [.load script, .run (.stopAt 3), .stepBackward, .stepBackward, .stepForward, .stepForward]
    let p := (bare.performAll .initial operations).next
    (∀ o ∈ operations, o.drops = false) ∧ p.cursor = 3 ∧
      p.surface.markers = [(0, .label "Yerevan" 12 "#3b82f6")] ∧
      (bare.perform p .restart).next.surface.markers = [] := by
  intro script operations p
  have hdrops : ∀ o ∈ operations, o.drops = false := by decide
  have hp : p.cursor = 3 := by decide
  obtain ⟨hshown, hrestarted, -⟩ := bare.surface_at_cursor operations hdrops
  obtain ⟨-, hmarkers⟩ := hshown (by decide)
  refine ⟨hdrops, hp, ?_, hrestarted.2⟩
  rw [hmarkers]
  decide

/-- What can be seen at a cursor is what the commands before it draw, but for the camera, which is
not moved back where the surface is cleared. The camera is that of the commands exactly if each of
its parts stood at its first place when the surface was last cleared, or has been set since. -/
theorem view_at_cursor_iff (scene : Scene) (operations : List Operation) (o : Operation)
    (hdrops : ∀ o' ∈ operations ++ [o], o'.drops = false) :
    let p := (scene.performAll .initial operations).next
    let q := (scene.perform p o).next
    let picture := scene.picture q.script q.cursor
    0 < q.cursor ∨ o.rewinds p = true →
      q.surface.markers = picture.markers ∧ q.surface.nextMarker = picture.nextMarker ∧
      (q.surface.view = picture.view ↔
        (picture.calls.any Call.isCamera = true ∨
          q.surface.cameraAtClear.center = Camera.initial.center) ∧
        (picture.calls.any Call.setsZoom = true ∨
          q.surface.cameraAtClear.zoom = Camera.initial.zoom) ∧
        (picture.calls.any Call.setsAngles = true ∨
          q.surface.cameraAtClear.angles = Camera.initial.angles)) := by
  intro p q picture hq
  have ho : o.drops = false := hdrops o (by simp)
  have hp : scene.Consistent p :=
    performAll_consistent (fun o' ho' => hdrops o' (by simp [ho'])) scene.consistent_initial
  have hs : q.surface.Shows picture := perform_shows ho hp hq
  have hcamera : q.surface.FollowsCalls := (perform_consistent ho hp).camera
  exact ⟨hs.markers, hs.nextMarker,
    hs.view_eq_iff hcamera (scene.picture_followsCalls q.script q.cursor)⟩

/-- A script that flies moves the camera, and one that is loaded after it does not move it back. -/
theorem view_at_cursor_iff_after_load :
    let operations : List Operation :=
      [.load ⟨[⟨0, .fly ⟨2, 1⟩ 3⟩], []⟩, .run .none, .load ⟨[⟨0, .wait 5⟩], []⟩]
    let q := (bare.perform (bare.performAll .initial operations).next .stepForward).next
    0 < q.cursor ∧ (∀ o ∈ operations ++ [.stepForward], o.drops = false) ∧
      q.surface.markers = [] ∧ q.surface.view ≠ (bare.picture q.script q.cursor).view := by
  intro operations q
  have hdrops : ∀ o ∈ operations ++ [.stepForward], o.drops = false := by decide
  have hq : 0 < q.cursor := by decide
  obtain ⟨hmarkers, -, hview⟩ := bare.view_at_cursor_iff operations .stepForward hdrops (.inl hq)
  refine ⟨hq, hdrops, ?_, ?_⟩
  · rw [hmarkers]
    decide
  · intro h
    have hcenter := (hview.mp h).1
    revert hcenter
    decide +kernel

/-- A surface that is cleared is not always as it was at first. -/
theorem view_not_initial_after_restart :
    ¬∀ (scene : Scene) (operations : List Operation),
      (∀ o ∈ operations, o.drops = false) →
        (scene.perform (scene.performAll .initial operations).next .restart).next.surface.view =
          Surface.initial.view := by
  intro h
  have hview := h bare [.load ⟨[⟨0, .fly ⟨2, 1⟩ 3⟩], []⟩, .run .none] (by decide)
  revert hview
  decide +kernel

end Scene

end ScriptedMap
