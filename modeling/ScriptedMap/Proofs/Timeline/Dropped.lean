import ScriptedMap.Proofs.Timeline.Shown

namespace ScriptedMap

namespace Scene

variable {scene : Scene} {p : Playback}

theorem skip?_of_pause {script : Script} {c : Command} (hc : 0 < scene.pause script c) :
    scene.skip? script c = none := by
  unfold pause at hc
  unfold skip?
  split at hc
  · exact absurd hc (Nat.lt_irrefl 0)
  · simp [*]

theorem settle_pos_of_pause {script : Script} {c : Command} (hc : 0 < scene.pause script c) :
    0 < scene.config.settle.after c := by
  unfold pause at hc
  split at hc
  · exact absurd hc (Nat.lt_irrefl 0)
  · exact Nat.lt_of_lt_of_le hc (Nat.min_le_left _ _)

theorem isCamera_of_pause {script : Script} {c : Command} {r : Request}
    (hc : 0 < scene.pause script c) (hr : scene.call? script c = some r) : r.isCamera = true := by
  have hsettle := settle_pos_of_pause hc
  have hrequest := request?_of_call? hr
  cases c with
  | zoom target =>
    obtain ⟨t, -, ht⟩ := bind_eq_ok.mp hrequest
    cases ht
    rfl
  | fly place zoom => cases hrequest; rfl
  | cinematic place zoom pitch bearing => cases hrequest; rfl
  | wait ms => cases hrequest
  | _ => exact absurd hsettle (Nat.lt_irrefl 0)

theorem draws_of_pause {script : Script} {c : Command} (hc : 0 < scene.pause script c)
    {s t : Surface} (h : s.Draws t) : (s.drawAll (scene.requests script [c])).Draws t := by
  cases hr : scene.call? script c with
  | none =>
    have hnone : scene.requests script [c] = [] := by simp [requests, hr]
    rw [hnone]
    exact h
  | some r =>
    have hone : scene.requests script [c] = [r] := by simp [requests, hr]
    rw [hone]
    exact h.draw_camera (isCamera_of_pause hc hr)

/-- How a run ends that is dropped after command number `last` has been played: the cursor is still
on it. -/
def dropped (scene : Scene) (p : Playback) (last time : Nat) : Outcome :=
  ⟨{ scene.playedTo p (last + 1) with cursor := last }, scene.tale p.script p.cursor last, none,
    time⟩

/-- The time comes in the pause of command number `last`, where the command at the cursor is played
at `start`. -/
structure PausesAt (scene : Scene) (p : Playback) (start time last : Nat) : Prop where
  le : p.cursor ≤ last
  lt : last < p.length
  begun : start + scene.duration p.script p.cursor last ≤ time
  lasts : time < start + scene.duration p.script p.cursor (last + 1)

/-- A run is dropped in the pause of the command at the cursor if the time comes in it. -/
theorem play_of_isIn {time start : Nat} (hp : p.stopRequested = false) {e : Entry}
    (he : p.script.entries[p.cursor]? = some e)
    (hin : Interruption.isIn time start (scene.pause p.script e.command) = true) (es : List Entry) :
    PausesAt scene p start time p.cursor ∧
      scene.play (.dropAt time) start p (e :: es) = scene.dropped p p.cursor time := by
  obtain ⟨hstart, hstop⟩ :
      start ≤ time ∧ time < start + scene.pause p.script e.command := by
    simpa [Interruption.isIn] using hin
  constructor
  · refine ⟨Nat.le_refl _, (List.getElem?_eq_some_iff.mp he).1, ?_, ?_⟩
    · rw [duration_self]
      exact hstart
    · rw [scene.duration_one p.script he]
      exact hstop
  · have hrun : ¬p.stopRequested = true := by rw [hp]; decide
    have hpause : 0 < scene.pause p.script e.command := by omega
    have hdrop : (Interruption.dropAt time).dropTime? start (scene.pause p.script e.command) =
        some time := if_pos hin
    have hsurface : (scene.act p.script p.cursor e p.surface).surface =
        (scene.playedTo p (p.cursor + 1)).surface :=
      congrArg Playback.surface (scene.advance_act p he)
    have hevents : (scene.act p.script p.cursor e p.surface).events = [] := by
      rw [act_events, skips, skip?_of_pause hpause]
      rfl
    rw [play, if_neg hrun]
    simp only [act_settle, hdrop, hevents, hsurface, dropped, tale_self]
    rfl

/-- A run that has played up to command number `b` and is dropped from there on. -/
theorem dropped_playedTo (scene : Scene) (p : Playback) {b last : Nat} (hb : p.cursor ≤ b)
    (hl : b ≤ last) (time : Nat) :
    (scene.dropped (scene.playedTo p b) last time).behind (scene.tale p.script p.cursor b) =
      scene.dropped p last time := by
  have hplayed := scene.playedTo_playedTo p hb (Nat.le_succ_of_le hl)
  have htale := scene.tale_append p.script hb hl
  rw [dropped, dropped, hplayed, ← htale]
  rfl

theorem PausesAt.of_playedTo {start time b last : Nat} (hb : p.cursor ≤ b)
    (h : PausesAt scene (scene.playedTo p b) (start + scene.duration p.script p.cursor b) time
      last) :
    PausesAt scene p start time last := by
  obtain ⟨hle, hlt, hbegun, hlasts⟩ := h
  change b ≤ last at hle
  change _ + scene.duration p.script b last ≤ time at hbegun
  change time < _ + scene.duration p.script b (last + 1) at hlasts
  rw [Nat.add_assoc, scene.duration_append p.script hb hle] at hbegun
  rw [Nat.add_assoc, scene.duration_append p.script hb (Nat.le_succ_of_le hle)] at hlasts
  exact ⟨Nat.le_trans hb hle, hlt, hbegun, hlasts⟩

/-- A run that is to be dropped either ends before that, or it is dropped in the
pause of a command. -/
theorem play_dropAt (scene : Scene) (time start : Nat) {p : Playback}
    (hp : p.stopRequested = false) :
    let es := p.script.entries.drop p.cursor
    scene.play (.dropAt time) start p es = scene.play .none start p es ∨
      ∃ last, PausesAt scene p start time last ∧
        scene.play (.dropAt time) start p es = scene.dropped p last time := by
  intro es
  generalize hes : es = fs
  induction fs generalizing p start with
  | nil => exact .inl rfl
  | cons e fs ih =>
    obtain ⟨he, hes'⟩ := Script.entry_of_drop_eq_cons hes
    let d := scene.pause p.script e.command
    by_cases hin : Interruption.isIn time start d = true
    · exact .inr ⟨p.cursor, play_of_isIn hp he hin fs⟩
    · -- this command is played to its end, so its told events come before those of the rest
      have hle : p.cursor ≤ p.cursor + 1 := Nat.le_succ p.cursor
      let next := scene.playedTo p (p.cursor + 1)
      have hnext : { next with stopRequested := false } = next := by
        rw [← hp]
        rfl
      have hdrop : (Interruption.dropAt time).dropTime? start d = none := if_neg hin
      have hstep : scene.play (.dropAt time) start p (e :: fs) =
          (scene.play (.dropAt time) (start + d) next fs).behind
            (scene.told p.script p.cursor) := by
        rw [play_cons scene hp he hdrop, ← hnext]
        rfl
      have hwhole : scene.play .none start p (e :: fs) =
          (scene.play .none (start + d) next fs).behind (scene.told p.script p.cursor) := by
        rw [play_cons scene hp he rfl, ← hnext]
        rfl
      rcases ih (start + d) (p := next) hp hes' with hplay | ⟨last, hpauses, hplay⟩
      · left
        rw [hstep, hwhole, hplay]
      · right
        have hd : d = scene.duration p.script p.cursor (p.cursor + 1) :=
          (scene.duration_one p.script he).symm
        refine ⟨last, .of_playedTo hle (hd ▸ hpauses), ?_⟩
        rw [hstep, hplay, ← tale_one, scene.dropped_playedTo p hle hpauses.le]

/-- A run that is to be dropped is a run without interruption, or it is dropped after a command has
been played and before the cursor has moved behind it. -/
theorem run_dropAt (scene : Scene) (time : Nat) (p : Playback) :
    scene.run (.dropAt time) p = scene.run .none p ∨
      ∃ last, PausesAt scene p.clearAtStart 0 time last ∧
        scene.run (.dropAt time) p =
          (scene.dropped { p.clearAtStart with state := .running, stopRequested := false } last
            time).behind (scene.warnings p ++ [.started p.cursor]) := by
  by_cases hne : p.script.entries.isEmpty = true
  · left
    rw [run, run, if_pos hne, if_pos hne]
  · let opened : Playback := { p.clearAtStart with state := .running, stopRequested := false }
    have hplay := scene.play_dropAt time 0 (show opened.stopRequested = false from rfl)
    have hs : opened.script = p.script := p.clearAtStart_script
    have hc : opened.cursor = p.cursor := p.clearAtStart_cursor
    rw [hs, hc] at hplay
    rw [run, run, if_neg hne, if_neg hne]
    rcases hplay with hplay | ⟨last, hpauses, hplay⟩
    · left
      exact congrArg (Outcome.behind · _) hplay
    · right
      obtain ⟨hle, hlt, hbegun, hlasts⟩ := hpauses
      exact ⟨last, ⟨hle, hlt, hbegun, hlasts⟩, congrArg (Outcome.behind · _) hplay⟩

theorem PausesAt.pause_pos {start time last : Nat} (h : PausesAt scene p start time last)
    {e : Entry}
    (he : p.script.entries[last]? = some e) : 0 < scene.pause p.script e.command := by
  have hsum := scene.duration_append p.script h.le (Nat.le_add_right last 1)
  have hone := scene.duration_one p.script he
  have hbegun := h.begun
  have hlasts := h.lasts
  omega

/-- The command that has been played but is still at the cursor has drawn nothing. -/
theorem PausesAt.dropped_draws {start time last : Nat} (hpauses : PausesAt scene p start time last)
    (h : p.surface.Draws (scene.picture p.script p.cursor)) :
    let q := (scene.dropped p last time).next
    q.surface.Draws (scene.picture q.script q.cursor) := by
  intro q
  obtain ⟨e, he⟩ : ∃ e, p.script.entries[last]? = some e :=
    ⟨_, List.getElem?_eq_getElem hpauses.lt⟩
  have hsurface : q.surface = (p.surface.drawAll
      (scene.requests p.script (p.script.stretch p.cursor last))).drawAll
        (scene.requests p.script [e.command]) := by
    rw [← Surface.drawAll_append, ← requests_append, ← Script.stretch_one p.script he,
      Script.stretch_append p.script hpauses.le (Nat.le_succ last)]
    rfl
  have hpicture : scene.picture q.script q.cursor = (scene.picture p.script p.cursor).drawAll
      (scene.requests p.script (p.script.stretch p.cursor last)) :=
    scene.picture_stretch p.script hpauses.le
  rw [hsurface, hpicture]
  apply draws_of_pause (hpauses.pause_pos he)
  exact Surface.draws_tracks.drawAll h isClear_of_mem_requests

/-- On the surface of a playback with commands before the cursor is what these have drawn. -/
def DrawsAtCursor (scene : Scene) (p : Playback) : Prop :=
  0 < p.cursor → p.surface.Draws (scene.picture p.script p.cursor)

theorem run_drawsAtCursor (i : Interruption) (h : scene.DrawsAtCursor p) :
    scene.DrawsAtCursor (scene.run i p).next := by
  have hwhole {i : Interruption} (hi : i.drops = false) :
      scene.DrawsAtCursor (scene.run i p).next :=
    (scene.run_goesOnTo hi p).tracks Surface.draws_tracks h
  cases i with
  | none => exact hwhole rfl
  | stopAt time => exact hwhole rfl
  | dropAt time =>
    rcases scene.run_dropAt time p with hrun | ⟨last, hpauses, hrun⟩
    · rw [hrun]
      exact hwhole rfl
    · have hstart : p.clearAtStart.surface.Draws
          (scene.picture p.clearAtStart.script p.clearAtStart.cursor) := by
        rw [Playback.clearAtStart_script, Playback.clearAtStart_cursor]
        exact clearAtStart_tracks Surface.draws_tracks h
      rw [hrun]
      intro _
      exact hpauses.dropped_draws hstart

theorem stepBackward_drawsAtCursor (h : scene.DrawsAtCursor p) :
    scene.DrawsAtCursor (scene.stepBackward p).next := by
  by_cases hp : 0 < p.cursor
  · intro _
    exact scene.perform_rewinds_tracks Surface.draws_tracks (o := .stepBackward) (decide_eq_true hp)
  · rw [scene.stepBackward_of_zero (Nat.eq_zero_of_not_pos hp)]
    exact h

theorem perform_drawsAtCursor (o : Operation) (h : scene.DrawsAtCursor p) :
    scene.DrawsAtCursor (scene.perform p o).next := by
  cases o with
  | load script => exact fun hq => absurd hq (Nat.lt_irrefl 0)
  | run i => exact run_drawsAtCursor i h
  | stepForward =>
    obtain ⟨last, hgo⟩ := scene.stepForward_goesOnTo p
    exact hgo.tracks Surface.draws_tracks h
  | stepBackward => exact stepBackward_drawsAtCursor h
  | stop => exact h
  | restart => exact fun hq => absurd hq (Nat.lt_irrefl 0)
  | requestStop => exact h
  | withdrawStop => exact h

theorem performAll_drawsAtCursor (operations : List Operation) (h : scene.DrawsAtCursor p) :
    scene.DrawsAtCursor (scene.performAll p operations).next := by
  induction operations generalizing p with
  | nil => exact h
  | cons o os ih => exact ih (perform_drawsAtCursor o h)

/-- Whatever has been done, dropped runs included, the surface has received since it was cleared
what a new surface receives from the commands before the cursor, but for moves of the camera, and
the same markers stand on it. -/
theorem drawn_at_cursor (scene : Scene) (operations : List Operation) :
    let p := (scene.performAll .initial operations).next
    let picture := scene.picture p.script p.cursor
    0 < p.cursor →
      p.surface.sinceClear.filter (!·.isCamera) = picture.calls.filter (!·.isCamera) ∧
      p.surface.markers = picture.markers := by
  intro p picture hp
  have hstart : scene.DrawsAtCursor .initial := fun hq => absurd hq (Nat.lt_irrefl 0)
  have hdraws : p.surface.Draws picture := performAll_drawsAtCursor operations hstart hp
  exact ⟨hdraws.calls, hdraws.markers⟩

/-- A flight is dropped twice and played a third time, and the label before it stands there once. -/
theorem drawn_at_cursor_after_drops :
    let script : Script := ⟨[⟨0, .label ⟨0, 0⟩ "Yerevan" 12 none⟩, ⟨1, .fly ⟨2, 1⟩ 3⟩,
      ⟨2, .year "1991" false⟩], []⟩
    let operations : List Operation :=
      [.load script, .run (.dropAt 700), .stop, .run (.dropAt 1), .stepForward, .stepForward]
    let p := (bare.performAll .initial operations).next
    0 < p.cursor ∧ p.surface.sinceClear.length = 5 ∧
      (p.surface.sinceClear.filter (!·.isCamera)).length = 2 ∧
      p.surface.markers = [(0, .label "Yerevan" 12 "#3b82f6")] := by
  intro script operations p
  have hp : 0 < p.cursor := by decide
  obtain ⟨hcalls, hmarkers⟩ := bare.drawn_at_cursor operations hp
  refine ⟨hp, by decide, ?_, ?_⟩
  · rw [hcalls]
    decide
  · rw [hmarkers]
    decide

end Scene

end ScriptedMap
