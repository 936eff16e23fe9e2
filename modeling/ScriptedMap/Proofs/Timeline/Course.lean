import ScriptedMap.Proofs.Timeline.Run

namespace ScriptedMap

/-- The outcome of an operation and of the next one together. -/
def Outcome.andThen (o next : Outcome) : Outcome where
  next := next.next
  events := o.events ++ next.events
  status := next.status.or o.status
  elapsed := o.elapsed + next.elapsed

/-- What operations lead to one after the other. -/
def Scene.performAll (scene : Scene) (p : Playback) : List Operation → Outcome
  | [] => p.quietly []
  | o :: os =>
    let first := scene.perform p o
    first.andThen (scene.performAll first.next os)

namespace Operation

/-- The operation is a run that is dropped, if it lasts long enough. -/
def drops : Operation → Bool
  | run i => i.drops
  | _ => false

/-- The operation plays on from the cursor or does not play at all. -/
def goesOn : Operation → Bool
  | run i => !i.drops
  | stepForward => true
  | stop => true
  | requestStop => true
  | withdrawStop => true
  | _ => false

end Operation

/-- The event tells of a command: that it was skipped, or that the cursor has gone on behind it. -/
def Event.ofCommand : Event → Bool
  | progress .. => true
  | skipped .. => true
  | _ => false

namespace Scene

/-- The surface of a playback that has gone on to command number `last`. It is cleared where the
first command is played. -/
def surfaceAt (scene : Scene) (p : Playback) (last : Nat) : Surface :=
  if last = p.cursor then p.surface else (scene.playedTo p.clearAtStart last).surface

/-- The outcome is that of going on to command number `last`. -/
structure GoesOnTo (scene : Scene) (p : Playback) (o : Outcome) (last : Nat) : Prop where
  le : p.cursor ≤ last
  script : o.next.script = p.script
  cursor : o.next.cursor = last
  surface : o.next.surface = scene.surfaceAt p last
  events : o.events.filter Event.ofCommand = scene.tale p.script p.cursor last
  elapsed : o.elapsed = scene.duration p.script p.cursor last

variable {scene : Scene} {p : Playback}

theorem tale_filter (scene : Scene) (script : Script) (first last : Nat) :
    (scene.tale script first last).filter Event.ofCommand = scene.tale script first last := by
  apply List.filter_eq_self.mpr
  intro event h
  obtain ⟨n, -, hn⟩ := List.mem_flatMap.mp h
  rcases List.mem_append.mp hn with hs | hp
  · obtain ⟨e, -, he⟩ := List.mem_flatMap.mp hs
    obtain ⟨skip, -, rfl⟩ := List.mem_map.mp he
    rfl
  · rw [List.mem_singleton.mp hp]
    rfl

theorem surfaceAt_self (scene : Scene) (p : Playback) : scene.surfaceAt p p.cursor = p.surface :=
  if_pos rfl

/-- An operation that plays nothing goes on to where the cursor is. -/
theorem GoesOnTo.refl {o : Outcome} (hs : o.next.script = p.script)
    (hc : o.next.cursor = p.cursor) (hf : o.next.surface = p.surface)
    (he : o.events.filter Event.ofCommand = []) (ht : o.elapsed = 0) :
    GoesOnTo scene p o p.cursor := by
  refine ⟨Nat.le_refl _, hs, hc, ?_, ?_, ?_⟩
  · rw [hf, surfaceAt_self]
  · rw [he, tale_self]
  · rw [ht, duration_self]

theorem surfaceAt_of_lt {last : Nat} (h : p.cursor < last) :
    scene.surfaceAt p last = p.clearAtStart.surface.drawAll
      (scene.requests p.script (p.script.stretch p.cursor last)) := by
  rw [surfaceAt, if_neg (Nat.ne_of_gt h), playedTo, Playback.clearAtStart_script,
    Playback.clearAtStart_cursor]

/-- Going on in two parts, the surface is not cleared in between. -/
theorem surfaceAt_trans {q : Playback} {b c : Nat} (hpb : p.cursor ≤ b) (hbc : b ≤ c)
    (hs : q.script = p.script) (hc : q.cursor = b) (hf : q.surface = scene.surfaceAt p b) :
    scene.surfaceAt q c = scene.surfaceAt p c := by
  rcases Nat.eq_or_lt_of_le hpb with rfl | hpb'
  · rw [surfaceAt_self] at hf
    simp only [surfaceAt, playedTo, Playback.clearAtStart_script, Playback.clearAtStart_cursor,
      Playback.clearAtStart_surface, hs, hc, hf]
  · have hq : q.clearAtStart = q := Playback.clearAtStart_of_pos (by omega)
    rcases Nat.eq_or_lt_of_le hbc with rfl | hbc'
    · rw [← hf, ← hc, surfaceAt_self]
    · have hqc : q.cursor < c := hc ▸ hbc'
      have hpc : p.cursor < c := Nat.lt_trans hpb' hbc'
      rw [surfaceAt_of_lt hqc, hq, hf, hs, hc, surfaceAt_of_lt hpb', surfaceAt_of_lt hpc,
        ← Surface.drawAll_append, ← requests_append, Script.stretch_append _ hpb hbc]

theorem GoesOnTo.trans {o o' : Outcome} {b c : Nat} (h : GoesOnTo scene p o b)
    (h' : GoesOnTo scene o.next o' c) : GoesOnTo scene p (o.andThen o') c := by
  have hbc : b ≤ c := h.cursor ▸ h'.le
  refine ⟨Nat.le_trans h.le hbc, h'.script.trans h.script, h'.cursor, ?_, ?_, ?_⟩
  · exact h'.surface.trans (surfaceAt_trans h.le hbc h.script h.cursor h.surface)
  · change (o.events ++ o'.events).filter Event.ofCommand = _
    rw [List.filter_append, h.events, h'.events, h.script, h.cursor, tale_append _ _ h.le hbc]
  · change o.elapsed + o'.elapsed = _
    rw [h.elapsed, h'.elapsed, h.script, h.cursor, duration_append _ _ h.le hbc]

theorem warnings_filter (scene : Scene) (p : Playback) :
    (scene.warnings p).filter Event.ofCommand = [] := by
  simp only [warnings]
  split <;> rfl

theorem halt_next (scene : Scene) (p : Playback) (last elapsed : Nat) (requested : Bool) :
    (scene.halt p last elapsed requested).next.script = p.script ∧
      (scene.halt p last elapsed requested).next.cursor = last ∧
      (scene.halt p last elapsed requested).next.surface = (scene.playedTo p last).surface := by
  simp only [halt]
  split <;> exact ⟨rfl, rfl, rfl⟩

theorem halt_elapsed (scene : Scene) (p : Playback) (last elapsed : Nat) (requested : Bool) :
    (scene.halt p last elapsed requested).elapsed = elapsed := by
  simp only [halt]
  split <;> rfl

theorem halt_filter (scene : Scene) (p : Playback) (last elapsed : Nat) (requested : Bool) :
    (scene.halt p last elapsed requested).events.filter Event.ofCommand = [] := by
  simp only [halt]
  split <;> rfl

theorem run_goesOnTo (scene : Scene) {i : Interruption} (hi : i.drops = false) (p : Playback) :
    GoesOnTo scene p (scene.run i p)
      (p.cursor + i.reach 0 (scene.pauses p.script p.cursor)) := by
  by_cases hne : p.script.entries = []
  · have hd : scene.pauses p.script p.cursor = [] := by
      simp [pauses, Script.commands, hne]
    rw [hd, scene.run_of_nil i hne]
    exact .refl rfl rfl rfl rfl rfl
  · obtain ⟨hs, hc, hf⟩ := scene.halt_next p.clearAtStart
      (p.cursor + i.reach 0 (scene.pauses p.script p.cursor))
      (scene.duration p.script p.cursor _) (i.stops 0 (scene.pauses p.script p.cursor).sum)
    rw [scene.run_eq hi hne]
    refine ⟨Nat.le_add_right _ _, ?_, hc, ?_, ?_, ?_⟩
    · exact hs.trans p.clearAtStart_script
    · refine hf.trans ?_
      by_cases hl : p.length ≤ p.cursor
      · -- a script that has been played is not cleared once more
        have hd : scene.pauses p.script p.cursor = [] := (scene.pauses_eq_nil_iff _ _).mpr hl
        have hpos : 0 < p.cursor := Nat.lt_of_lt_of_le (List.length_pos_iff.mpr hne) hl
        rw [hd, Interruption.reach, Nat.add_zero, Playback.clearAtStart_of_pos hpos, playedTo_self,
          surfaceAt_self]
      · have hd : scene.pauses p.script p.cursor ≠ [] :=
          fun h => hl ((scene.pauses_eq_nil_iff _ _).mp h)
        have hpos := i.reach_pos 0 hd
        rw [surfaceAt, if_neg (by omega)]
    · change List.filter _ ((scene.warnings p ++ [Event.started p.cursor] ++ _) ++ _) = _
      rw [List.filter_append, List.filter_append, List.filter_append, warnings_filter, tale_filter,
        halt_filter, List.append_nil]
      rfl
    · exact scene.halt_elapsed _ _ _ _

theorem stepForward_of_none (scene : Scene) {p : Playback}
    (he : p.script.entries[p.cursor]? = none) : scene.stepForward p = p.finish .atEnd 0 := by
  rw [stepForward, he]

theorem stepForward_eq (scene : Scene) {p : Playback} {e : Entry}
    (he : p.script.entries[p.cursor]? = some e) :
    scene.stepForward p =
      ⟨{ scene.playedTo p.clearAtStart (p.cursor + 1) with state := .idle },
        scene.told p.script p.cursor ++ [.finished (.stepped (p.cursor + 1) p.length)],
        some (.stepped (p.cursor + 1) p.length),
          scene.duration p.script p.cursor (p.cursor + 1)⟩ := by
  let opened : Playback := { p.clearAtStart with state := .idle }
  let act := scene.act opened.script opened.cursor e opened.surface
  have hs : opened.script = p.script := p.clearAtStart_script
  have hc : opened.cursor = p.cursor := p.clearAtStart_cursor
  have he' : opened.script.entries[opened.cursor]? = some e := by
    rw [hs, hc]
    exact he
  have hnext : opened.advance act = scene.playedTo opened (p.cursor + 1) := by
    rw [scene.advance_act opened he', hc]
  have htold : act.events ++ [opened.script.progress (opened.cursor + 1)] =
      scene.told p.script p.cursor := by
    rw [scene.act_told opened he', hs, hc]
  have hsettle : act.settle = scene.duration p.script p.cursor (p.cursor + 1) := by
    rw [act_settle, scene.duration_one p.script he, hs]
  have hstep : scene.stepForward p = ((opened.advance act).finish (opened.advance act).stepped
      act.settle).behind (act.events ++ [opened.script.progress (opened.cursor + 1)]) := by
    rw [stepForward, he]
    rfl
  have hstatus : (scene.playedTo opened (p.cursor + 1)).stepped =
      .stepped (p.cursor + 1) p.length :=
    congrArg (fun script : Script => Status.stepped (p.cursor + 1) script.length) hs
  rw [hstep, htold, hnext, hsettle, hstatus]
  rfl

theorem stepForward_goesOnTo (scene : Scene) (p : Playback) :
    ∃ last, GoesOnTo scene p (scene.stepForward p) last := by
  cases he : p.script.entries[p.cursor]? with
  | none =>
    rw [scene.stepForward_of_none he]
    exact ⟨p.cursor, .refl rfl rfl rfl rfl rfl⟩
  | some e =>
    rw [scene.stepForward_eq he]
    refine ⟨p.cursor + 1, Nat.le_succ _, p.clearAtStart_script, rfl, ?_, ?_, rfl⟩
    · rw [surfaceAt, if_neg (Nat.succ_ne_self _)]
    · rw [List.filter_append, ← tale_one, tale_filter]
      exact List.append_nil _

theorem perform_goesOnTo (scene : Scene) {o : Operation} (ho : o.goesOn = true) (p : Playback) :
    ∃ last, GoesOnTo scene p (scene.perform p o) last := by
  cases o with
  | run i =>
    have hi : i.drops = false := by simpa [Operation.goesOn] using ho
    exact ⟨_, scene.run_goesOnTo hi p⟩
  | stepForward => exact scene.stepForward_goesOnTo p
  | stop => exact ⟨p.cursor, .refl rfl rfl rfl rfl rfl⟩
  | requestStop => exact ⟨p.cursor, .refl rfl rfl rfl rfl rfl⟩
  | withdrawStop => exact ⟨p.cursor, .refl rfl rfl rfl rfl rfl⟩
  | load script => cases ho
  | stepBackward => cases ho
  | restart => cases ho

theorem performAll_goesOnTo (scene : Scene) {os : List Operation}
    (hos : ∀ o ∈ os, o.goesOn = true) (p : Playback) :
    ∃ last, GoesOnTo scene p (scene.performAll p os) last := by
  induction os generalizing p with
  | nil => exact ⟨p.cursor, .refl rfl rfl rfl rfl rfl⟩
  | cons o os ih =>
    obtain ⟨b, hb⟩ := scene.perform_goesOnTo (hos o (by simp)) p
    obtain ⟨c, hc⟩ := ih (fun o ho => hos o (by simp [ho])) (scene.perform p o).next
    exact ⟨c, hb.trans hc⟩

/-- The calls of a playback from the first command up to command number `last`. -/
def callsTo (scene : Scene) (script : Script) (last : Nat) : List (Call Nat) :=
  if last = 0 then [] else .clearAll :: (scene.picture script last).calls

theorem calls_surfaceAt (hp : p.cursor = 0) (last : Nat) :
    (scene.surfaceAt p last).calls = p.surface.calls ++ scene.callsTo p.script last := by
  rw [surfaceAt, callsTo, hp]
  by_cases hl : last = 0
  · rw [if_pos hl, if_pos hl, List.append_nil]
  · rw [if_neg hl, if_neg hl, calls_picture, playedTo, Playback.clearAtStart_script,
      Playback.clearAtStart_cursor, Playback.clearAtStart_surface, if_pos hp, hp,
      Surface.calls_drawAll, Script.stretch_zero]
    exact List.append_assoc _ [Call.clearAll] _

theorem run_none_goesOnTo (scene : Scene) (hp : p.cursor ≤ p.length) :
    GoesOnTo scene p (scene.run .none p) p.length := by
  have h := scene.run_goesOnTo (show Interruption.none.drops = false from rfl) p
  rw [Interruption.reach_none, length_pauses] at h
  rwa [← Nat.add_sub_cancel' hp]

/-- Playback does not depend on how it is cut up. Any operations that go on from a loaded script to
its end make the calls, tell of the commands and take the time that one run does without a stop,
whatever the two timelines had shown before. -/
theorem parts_eq_whole_run (scene : Scene) (p q : Playback) (script : Script)
    (operations : List Operation) (hgo : ∀ o ∈ operations, o.goesOn = true)
    (hend : (scene.performAll (p.load script).next operations).next.cursor = script.length) :
    let parts := scene.performAll (p.load script).next operations
    let whole := scene.run .none (q.load script).next
    (∃ calls, parts.next.surface.calls = p.surface.calls ++ calls ∧
      whole.next.surface.calls = q.surface.calls ++ calls) ∧
    parts.events.filter Event.ofCommand = whole.events.filter Event.ofCommand ∧
    parts.elapsed = whole.elapsed := by
  intro parts whole
  obtain ⟨last, hparts⟩ := scene.performAll_goesOnTo hgo (p.load script).next
  have hlast : last = script.length := hparts.cursor.symm.trans hend
  subst hlast
  have hwhole : GoesOnTo scene (q.load script).next whole script.length :=
    scene.run_none_goesOnTo (Nat.zero_le _)
  refine ⟨⟨scene.callsTo script script.length, ?_, ?_⟩, ?_, ?_⟩
  · exact (congrArg Surface.calls hparts.surface).trans (calls_surfaceAt rfl _)
  · exact (congrArg Surface.calls hwhole.surface).trans (calls_surfaceAt rfl _)
  · exact hparts.events.trans hwhole.events.symm
  · exact hparts.elapsed.trans hwhole.elapsed.symm

/-- A run that is stopped in a wait, a step over a skipped command, and a run to the end. -/
theorem parts_eq_whole_run_three_parts :
    let script : Script :=
      ⟨[⟨0, .wait 5⟩, ⟨1, .zoom "atlantis"⟩, ⟨2, .year "1991" true⟩, ⟨4, .wait 7⟩], []⟩
    let operations : List Operation :=
      [.run (.stopAt 3), .stop, .stepForward, .withdrawStop, .run .none]
    let start := (Playback.initial.load script).next
    (∀ o ∈ operations, o.goesOn = true) ∧
      (bare.performAll start operations).next.cursor = script.length ∧
      (bare.performAll start operations).elapsed = (bare.run .none start).elapsed := by
  intro script operations start
  have hgo : ∀ o ∈ operations, o.goesOn = true := by decide
  have hend : (bare.performAll start operations).next.cursor = script.length := by
    decide
  exact ⟨hgo, hend, (bare.parts_eq_whole_run .initial .initial script operations hgo hend).2.2⟩

end Scene

end ScriptedMap
