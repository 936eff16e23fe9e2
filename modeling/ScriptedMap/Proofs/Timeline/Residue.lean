import ScriptedMap.Proofs.Timeline.Shown

namespace ScriptedMap

namespace Surface

theorem nextMarker_drawAll {s t : Surface} (h : s.nextMarker = t.nextMarker) (rs : List Request) :
    (s.drawAll rs).nextMarker = (t.drawAll rs).nextMarker := by
  induction rs generalizing s t with
  | nil => exact h
  | cons r rs ih =>
    apply ih
    simp only [draw, record, h]

end Surface

namespace Playback

/-- The playback on another surface. -/
def on (p : Playback) (s : Surface) : Playback := { p with surface := s }

theorem on_surface (p : Playback) : p.on p.surface = p := rfl

/-- What is asked of the surface before the command at the cursor. -/
def opening (p : Playback) : List Request := if p.cursor = 0 then [.clearAll] else []

theorem clearAtStart_on (p : Playback) (s : Surface) :
    (p.on s).clearAtStart = p.on (s.drawAll p.opening) := by
  have hcursor : (p.on s).cursor = p.cursor := rfl
  unfold clearAtStart opening
  rw [hcursor]
  split <;> rfl

end Playback

/-- The outcome on another surface. -/
def Outcome.on (o : Outcome) (s : Surface) : Outcome := { o with next := o.next.on s }

/-- What is observed of an operation, whatever the surface has been before. -/
structure Observation where
  status : Option Status
  elapsed : Nat
  /-- The calls that the operation has made. -/
  calls : List (Call Nat)
  events : List Event
  state : RunState
  cursor : Nat
  stopRequested : Bool
deriving DecidableEq, Repr

namespace Scene

def observation (p : Playback) (o : Outcome) : Observation where
  status := o.status
  elapsed := o.elapsed
  calls := o.next.surface.calls.drop p.surface.calls.length
  events := o.events
  state := o.next.state
  cursor := o.next.cursor
  stopRequested := o.next.stopRequested

/-- What is observed of operations one after the other. -/
def observe (scene : Scene) (p : Playback) : List Operation → List Observation
  | [] => []
  | o :: os =>
    let outcome := scene.perform p o
    observation p outcome :: scene.observe outcome.next os

theorem play_on (scene : Scene) (i : Interruption) (elapsed : Nat) (p : Playback)
    (es : List Entry) :
    ∃ (outcome : Outcome) (rs : List Request),
      ∀ s, scene.play i elapsed (p.on s) es = outcome.on (s.drawAll rs) := by
  induction es generalizing elapsed p with
  | nil => exact ⟨{ p with state := .idle }.finish .done elapsed, [], fun s => rfl⟩
  | cons e es ih =>
    by_cases hstop : p.stopRequested = true
    · refine ⟨{ p with state := .stopped }.finish .stopped elapsed, [], fun s => ?_⟩
      have hstop' : (p.on s).stopRequested = true := hstop
      rw [play, if_pos hstop']
      rfl
    · have hstop' (s : Surface) : ¬(p.on s).stopRequested = true := hstop
      let rs := scene.requests p.script [e.command]
      let skipped := scene.skips p.script (e, p.cursor)
      let pause := scene.pause p.script e.command
      cases hdrop : i.dropTime? elapsed pause with
      | some time =>
        refine ⟨⟨p, skipped, none, time⟩, rs, fun s => ?_⟩
        rw [play, if_neg (hstop' s), act_eq]
        dsimp only [Playback.on]
        rw [hdrop]
        rfl
      | none =>
        let next : Playback := { p with
          cursor := p.cursor + 1
          stopRequested := i.stops elapsed pause }
        -- the surface of `next` does not matter: the rest of the run is played on any
        obtain ⟨outcome, rest, hrest⟩ := ih (elapsed + pause) next
        refine ⟨outcome.behind (skipped ++ [next.progress]), rs ++ rest, fun s => ?_⟩
        have hplay : scene.play i elapsed (p.on s) (e :: es) =
            (scene.play i (elapsed + pause) (next.on (s.drawAll rs)) es).behind
              (skipped ++ [next.progress]) := by
          rw [play, if_neg (hstop' s), act_eq]
          dsimp only [Playback.on]
          rw [hdrop]
          rfl
        rw [hplay, hrest, Surface.drawAll_append]
        rfl

/-- The operation asks `rs` of the surface, whatever the surface is, and leads to the same in all
else. At the first command it begins by clearing the surface, or else it stays there. -/
structure Asks (scene : Scene) (p : Playback) (o : Operation) (outcome : Outcome)
    (rs : List Request) : Prop where
  on : ∀ s, scene.perform (p.on s) o = outcome.on (s.drawAll rs)
  clears : p.cursor = 0 → (rs = [] ∧ outcome.next.cursor = 0) ∨ ∃ rest, rs = .clearAll :: rest

theorem opening_clears {p : Playback} (hp : p.cursor = 0) (rs : List Request) :
    ∃ rest, p.opening ++ rs = .clearAll :: rest := by
  rw [Playback.opening, if_pos hp]
  exact ⟨rs, rfl⟩

theorem run_asks (scene : Scene) (i : Interruption) (p : Playback) :
    ∃ outcome rs, scene.Asks p (.run i) outcome rs := by
  by_cases hne : p.script.entries = []
  · refine ⟨p.finish .nothingToRun 0, [], fun s => ?_, fun hp => .inl ⟨rfl, hp⟩⟩
    exact scene.run_of_nil i (p := p.on s) hne
  · let opened : Playback := { p with state := .running, stopRequested := false }
    obtain ⟨outcome, rs, hplay⟩ := scene.play_on i 0 opened (p.script.entries.drop p.cursor)
    refine ⟨outcome.behind (scene.warnings p ++ [.started p.cursor]), p.opening ++ rs,
      fun s => ?_, fun hp => .inr (opening_clears hp rs)⟩
    have hne' : ¬(p.on s).script.entries.isEmpty = true := List.isEmpty_iff.not.mpr hne
    have hrun : scene.run i (p.on s) =
        (scene.play i 0 (opened.on (s.drawAll p.opening)) (p.script.entries.drop p.cursor)).behind
          (scene.warnings p ++ [.started p.cursor]) := by
      rw [run, if_neg hne', Playback.clearAtStart_on]
      rfl
    rw [perform, hrun, hplay, Surface.drawAll_append]
    rfl

theorem stepForward_asks (scene : Scene) (p : Playback) :
    ∃ outcome rs, scene.Asks p .stepForward outcome rs := by
  cases he : p.script.entries[p.cursor]? with
  | none =>
    refine ⟨p.finish .atEnd 0, [], fun s => ?_, fun hp => .inl ⟨rfl, hp⟩⟩
    exact scene.stepForward_of_none (p := p.on s) he
  | some e =>
    let rs := scene.requests p.script [e.command]
    let skipped := scene.skips p.script (e, p.cursor)
    let next : Playback := { p with cursor := p.cursor + 1, state := .idle }
    refine ⟨(next.finish next.stepped (scene.pause p.script e.command)).behind
      (skipped ++ [next.progress]), p.opening ++ rs, fun s => ?_,
      fun hp => .inr (opening_clears hp rs)⟩
    have he' : (p.on s).script.entries[(p.on s).cursor]? = some e := he
    rw [perform, stepForward, he', Playback.clearAtStart_on]
    dsimp only
    rw [act_eq, Surface.drawAll_append]
    rfl

theorem stepBackward_asks (scene : Scene) (p : Playback) :
    ∃ outcome rs, scene.Asks p .stepBackward outcome rs := by
  by_cases hp : p.cursor = 0
  · refine ⟨p.finish .atStart 0, [], fun s => ?_, fun _ => .inl ⟨rfl, hp⟩⟩
    exact scene.stepBackward_of_zero (p := p.on s) hp
  · let played := p.script.entries.take (p.cursor - 1)
    let skipped := played.zipIdx.flatMap (scene.skips p.script)
    let next : Playback := { p with cursor := p.cursor - 1, state := .idle }
    refine ⟨(next.finish next.stepped 0).behind (skipped ++ [next.progress]),
      .clearAll :: scene.requests p.script (played.map (·.command)), fun s => ?_,
      fun h => absurd h hp⟩
    have hp' : ¬(p.on s).cursor = 0 := hp
    rw [perform, stepBackward, if_neg hp']
    dsimp only
    rw [replay_surface, replay_events]
    rfl

theorem perform_asks (scene : Scene) (p : Playback) (o : Operation) :
    ∃ outcome rs, scene.Asks p o outcome rs := by
  cases o with
  | load script => exact ⟨p.load script, [], fun s => rfl, fun _ => .inl ⟨rfl, rfl⟩⟩
  | run i => exact scene.run_asks i p
  | stepForward => exact scene.stepForward_asks p
  | stepBackward => exact scene.stepBackward_asks p
  | stop => exact ⟨p.stop, [], fun s => rfl, fun hp => .inl ⟨rfl, hp⟩⟩
  | restart => exact ⟨p.restart, [.clearAll], fun s => rfl, fun _ => .inr ⟨[], rfl⟩⟩
  | requestStop =>
    exact ⟨{ p with stopRequested := true }.quietly [], [], fun s => rfl, fun hp => .inl ⟨rfl, hp⟩⟩
  | withdrawStop =>
    exact ⟨{ p with stopRequested := false }.quietly [], [], fun s => rfl,
      fun hp => .inl ⟨rfl, hp⟩⟩

variable {scene : Scene} {p : Playback} {o : Operation} {outcome : Outcome} {rs : List Request}

theorem Asks.calls_eq (h : scene.Asks p o outcome rs) (s : Surface) :
    (scene.perform (p.on s) o).next.surface.calls =
      s.calls ++ Surface.numberAll s.nextMarker rs := by
  rw [h.on]
  exact Surface.calls_drawAll s rs

theorem Asks.observation_eq (h : scene.Asks p o outcome rs) (s : Surface) :
    observation (p.on s) (scene.perform (p.on s) o) =
      ⟨outcome.status, outcome.elapsed, Surface.numberAll s.nextMarker rs, outcome.events,
        outcome.next.state, outcome.next.cursor, outcome.next.stopRequested⟩ := by
  have hcalls : (s.drawAll rs).calls.drop s.calls.length = Surface.numberAll s.nextMarker rs := by
    rw [Surface.calls_drawAll, List.drop_left]
  rw [h.on, ← hcalls]
  rfl

/-- Two surfaces give the same numbers to the markers of an operation, and of those after it, if
they do so where the next command is not the first. -/
theorem Asks.numbers (h : scene.Asks p o outcome rs) {s t : Surface}
    (hst : 0 < p.cursor → s.nextMarker = t.nextMarker) :
    Surface.numberAll s.nextMarker rs = Surface.numberAll t.nextMarker rs ∧
      (0 < outcome.next.cursor → (s.drawAll rs).nextMarker = (t.drawAll rs).nextMarker) := by
  by_cases hp : p.cursor = 0
  · obtain ⟨rfl, hcursor⟩ | ⟨rest, rfl⟩ := h.clears hp
    · refine ⟨rfl, fun hpos => ?_⟩
      rw [hcursor] at hpos
      exact absurd hpos (Nat.lt_irrefl 0)
    · -- clearing starts the numbers again
      have hclear : (s.draw .clearAll).nextMarker = (t.draw .clearAll).nextMarker := rfl
      exact ⟨rfl, fun _ => Surface.nextMarker_drawAll hclear rest⟩
  · have hnext := hst (Nat.pos_of_ne_zero hp)
    exact ⟨by rw [hnext], fun _ => Surface.nextMarker_drawAll hnext rs⟩

/-- Nothing on a surface is observed but the number of its next marker, and this only where there
are commands before the cursor. -/
theorem observe_on (scene : Scene) (operations : List Operation) (p : Playback) {s t : Surface}
    (hst : 0 < p.cursor → s.nextMarker = t.nextMarker) :
    scene.observe (p.on s) operations = scene.observe (p.on t) operations := by
  induction operations generalizing p s t with
  | nil => rfl
  | cons o os ih =>
    obtain ⟨outcome, rs, h⟩ := scene.perform_asks p o
    obtain ⟨hnumbers, hnext⟩ := h.numbers hst
    have hfirst : observation (p.on s) (scene.perform (p.on s) o) =
        observation (p.on t) (scene.perform (p.on t) o) := by
      rw [h.observation_eq, h.observation_eq, hnumbers]
    have hrest : scene.observe (scene.perform (p.on s) o).next os =
        scene.observe (scene.perform (p.on t) o).next os := by
      rw [h.on, h.on]
      exact ih outcome.next hnext
    rw [observe, observe]
    exact congrArg₂ _ hfirst hrest

/-- The surface keeps all its calls, and those that are observed are put behind them. -/
theorem calls_performAll (scene : Scene) (p : Playback) (operations : List Operation) :
    (scene.performAll p operations).next.surface.calls =
      p.surface.calls ++ (scene.observe p operations).flatMap (·.calls) := by
  induction operations generalizing p with
  | nil => exact (List.append_nil _).symm
  | cons o os ih =>
    obtain ⟨outcome, rs, h⟩ := scene.perform_asks p o
    have hcalls := h.calls_eq p.surface
    have hobserved := congrArg Observation.calls (h.observation_eq p.surface)
    rw [Playback.on_surface] at hcalls hobserved
    have hfirst : (scene.perform p o).next.surface.calls =
        p.surface.calls ++ (observation p (scene.perform p o)).calls := by
      rw [hobserved, hcalls]
    rw [observe, List.flatMap_cons, ← List.append_assoc, ← hfirst]
    exact ih _

/-- Loading forgets all that was before. What is done with a script is observed to be the same on
any two timelines on which it is loaded, and on one that had it and is restarted, whatever they have
been doing and whatever their surfaces show. -/
theorem load_forgets (scene : Scene) (p q : Playback) (script : Script)
    (operations : List Operation) :
    let loaded := (p.load script).next
    scene.observe loaded operations = scene.observe (q.load script).next operations ∧
    scene.observe (p.load q.script).next operations = scene.observe q.restart.next operations ∧
    (scene.performAll loaded operations).next.surface.calls =
      p.surface.calls ++ (scene.observe loaded operations).flatMap (·.calls) := by
  intro loaded
  let start (script : Script) : Playback := ⟨script, 0, .idle, .initial, true⟩
  have hstart (script : Script) (s t : Surface) :
      scene.observe ((start script).on s) operations =
        scene.observe ((start script).on t) operations :=
    scene.observe_on operations (start script) fun h => absurd h (Nat.lt_irrefl 0)
  refine ⟨?_, ?_, ?_⟩
  · exact hstart script p.surface q.surface
  · exact hstart q.script p.surface (q.surface.draw .clearAll)
  · exact scene.calls_performAll loaded operations

end Scene

end ScriptedMap
