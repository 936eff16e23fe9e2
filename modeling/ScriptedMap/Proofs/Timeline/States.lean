import ScriptedMap.Proofs.Timeline.Dropped

namespace ScriptedMap

/-- What holds of the cursor and the state at all times. -/
structure Playback.Placed (p : Playback) : Prop where
  le : p.cursor ≤ p.length
  lt : p.state = .running ∨ p.state = .stopped → p.cursor < p.length

theorem Interruption.reach_le (i : Interruption) (start : Nat) (ds : List Nat) :
    i.reach start ds ≤ ds.length := by
  induction ds generalizing start with
  | nil => exact Nat.le_refl 0
  | cons d ds ih =>
    rw [reach, List.length_cons]
    split
    · omega
    · exact Nat.succ_le_succ (ih (start + d))

namespace Scene

variable {scene : Scene} {p : Playback}

/-- The ways in which a run ends that is not dropped. -/
inductive RunEnds (p : Playback) (o : Outcome) : Prop
  | nothingToRun (empty : p.script.entries = []) (status : o.status = some .nothingToRun)
      (next : o.next = p)
  | done (nonempty : p.script.entries ≠ []) (status : o.status = some .done)
      (script : o.next.script = p.script) (cursor : o.next.cursor = p.length)
      (state : o.next.state = .idle)
  | stopped (status : o.status = some .stopped) (script : o.next.script = p.script)
      (cursor : o.next.cursor < p.length) (state : o.next.state = .stopped)

/-- A run that is dropped tells no status. It leaves the state as it is while
a command is awaited. -/
structure IsDropped (p : Playback) (o : Outcome) : Prop where
  status : o.status = none
  script : o.next.script = p.script
  cursor : o.next.cursor < p.length
  state : o.next.state = .running

theorem halt_ends (scene : Scene) (hne : p.script.entries ≠ []) {last : Nat}
    (hlast : last ≤ p.length)
    (elapsed : Nat) (requested : Bool) : RunEnds p (scene.halt p last elapsed requested) := by
  obtain ⟨hscript, hcursor, -⟩ := scene.halt_next p last elapsed requested
  by_cases hl : p.length ≤ last
  · refine .done hne ?_ hscript (hcursor.trans (Nat.le_antisymm hlast hl)) ?_
    all_goals rw [halt, if_pos hl]; rfl
  · refine .stopped ?_ hscript ?_ ?_
    · rw [halt, if_neg hl]
      rfl
    · rw [hcursor]
      exact Nat.lt_of_not_le hl
    · rw [halt, if_neg hl]
      rfl

theorem run_ends (scene : Scene) {i : Interruption} (hi : i.drops = false)
    (hp : p.cursor ≤ p.length) :
    RunEnds p (scene.run i p) := by
  by_cases hne : p.script.entries = []
  · rw [scene.run_of_nil i hne]
    exact .nothingToRun hne rfl rfl
  · have hscript : p.clearAtStart.script = p.script := p.clearAtStart_script
    have hlength : p.clearAtStart.length = p.length := congrArg Script.length hscript
    let last := p.cursor + i.reach 0 (scene.pauses p.script p.cursor)
    have hlast : last ≤ p.length := by
      have hreach := i.reach_le 0 (scene.pauses p.script p.cursor)
      rw [length_pauses] at hreach
      exact Nat.add_le_of_le_sub' hp hreach
    have hne' : p.clearAtStart.script.entries ≠ [] := by rwa [hscript]
    have hends : RunEnds p.clearAtStart (scene.halt p.clearAtStart last
        (scene.duration p.script p.cursor last) (i.stops 0 (scene.pauses p.script p.cursor).sum)) :=
      scene.halt_ends hne' (hlength ▸ hlast) _ _
    rw [scene.run_eq hi hne]
    cases hends with
    | nothingToRun empty =>
      rw [hscript] at empty
      exact absurd empty hne
    | done _ status script cursor state =>
      exact .done hne status (script.trans hscript) (cursor.trans hlength) state
    | stopped status script cursor state =>
      exact .stopped status (script.trans hscript) (hlength ▸ cursor) state

/-- A run either ends or is dropped, and only one that is to be dropped can be. -/
theorem run_ends_or_isDropped (scene : Scene) (i : Interruption) (hp : p.cursor ≤ p.length) :
    RunEnds p (scene.run i p) ∨ i.drops = true ∧ IsDropped p (scene.run i p) := by
  cases i with
  | none => exact .inl (scene.run_ends rfl hp)
  | stopAt time => exact .inl (scene.run_ends rfl hp)
  | dropAt time =>
    rcases scene.run_dropAt time p with hrun | ⟨last, hpauses, hrun⟩
    · rw [hrun]
      exact .inl (scene.run_ends rfl hp)
    · have hscript : p.clearAtStart.script = p.script := p.clearAtStart_script
      have hlt : last < p.clearAtStart.length := hpauses.lt
      rw [Playback.length, hscript] at hlt
      rw [hrun]
      exact .inr ⟨rfl, rfl, hscript, hlt, rfl⟩

theorem RunEnds.status_ne_none {o : Outcome} (h : RunEnds p o) : o.status ≠ none := by
  cases h <;> simp [*]

/-- A run that comes to the end of the script says so, unless there was nothing to run. -/
theorem RunEnds.status_of_end {o : Outcome} (h : RunEnds p o) (hend : o.next.cursor = p.length) :
    o.status = some (if p.length = 0 then .nothingToRun else .done) := by
  cases h with
  | nothingToRun empty status _ =>
    have hzero : p.length = 0 := List.length_eq_zero_iff.mpr empty
    rw [status, if_pos hzero]
  | done nonempty status _ _ _ =>
    have hpos : p.length ≠ 0 := fun hzero => nonempty (List.length_eq_zero_iff.mp hzero)
    rw [status, if_neg hpos]
  | stopped _ _ cursor _ =>
    rw [hend] at cursor
    exact absurd cursor (Nat.lt_irrefl _)

/-- A step that has nothing to step over refuses and changes nothing. Any other moves the cursor to
its new place. -/
structure Steps (p : Playback) (o : Outcome) (atBound : Prop) (refusal : Status) (place : Nat) :
    Prop where
  refuses_iff : o.status = some refusal ↔ atBound
  unchanged : atBound → o.next = p
  moves : ¬atBound → o.next.script = p.script ∧ o.next.cursor = place ∧
    o.status = some (.stepped place p.length) ∧ o.next.state = .idle

theorem stepForward_steps (scene : Scene) (hp : p.cursor ≤ p.length) :
    Steps p (scene.stepForward p) (p.cursor = p.length) .atEnd (p.cursor + 1) := by
  by_cases hend : p.cursor = p.length
  · have hnone : p.script.entries[p.cursor]? = none := by
      rw [hend]
      exact List.getElem?_eq_none (Nat.le_refl _)
    rw [scene.stepForward_of_none hnone]
    exact ⟨iff_of_true rfl hend, fun _ => rfl, fun h => absurd hend h⟩
  · have hlt : p.cursor < p.script.entries.length := Nat.lt_of_le_of_ne hp hend
    rw [scene.stepForward_eq (List.getElem?_eq_getElem hlt)]
    refine ⟨iff_of_false ?_ hend, fun h => absurd h hend, fun _ => ?_⟩
    · intro h
      cases h
    · exact ⟨p.clearAtStart_script, rfl, rfl, rfl⟩

theorem stepBackward_steps (scene : Scene) (p : Playback) :
    Steps p (scene.stepBackward p) (p.cursor = 0) .atStart (p.cursor - 1) := by
  by_cases hstart : p.cursor = 0
  · rw [scene.stepBackward_of_zero hstart]
    exact ⟨iff_of_true rfl hstart, fun _ => rfl, fun h => absurd hstart h⟩
  · have hstatus : (scene.stepBackward p).status = some (.stepped (p.cursor - 1) p.length) := by
      rw [stepBackward, if_neg hstart]
      rfl
    refine ⟨iff_of_false ?_ hstart, fun h => absurd h hstart, fun _ => ?_⟩
    · rw [hstatus]
      intro h
      cases h
    · have hnext := scene.stepBackward_next (Nat.pos_of_ne_zero hstart)
      refine ⟨?_, ?_, hstatus, ?_⟩
      all_goals rw [hnext]

theorem placed_initial : Playback.initial.Placed := by
  refine ⟨Nat.le_refl 0, ?_⟩
  rintro (h | h) <;> cases h

theorem placed_of_idle {q : Playback} (hle : q.cursor ≤ q.length) (hstate : q.state = .idle) :
    q.Placed := by
  refine ⟨hle, ?_⟩
  rw [hstate]
  rintro (h | h) <;> cases h

theorem placed_of_lt {q : Playback} (hlt : q.cursor < q.length) : q.Placed :=
  ⟨Nat.le_of_lt hlt, fun _ => hlt⟩

theorem RunEnds.placed {o : Outcome} (h : RunEnds p o) (hp : p.Placed) : o.next.Placed := by
  cases h with
  | nothingToRun _ _ next =>
    rw [next]
    exact hp
  | done _ _ script cursor state =>
    have hlength : o.next.length = p.length := congrArg Script.length script
    exact placed_of_idle (Nat.le_of_eq (cursor.trans hlength.symm)) state
  | stopped _ script cursor _ =>
    have hlength : o.next.length = p.length := congrArg Script.length script
    exact placed_of_lt (hlength ▸ cursor)

theorem Steps.placed {o : Outcome} {atBound : Prop} {refusal : Status} {place : Nat}
    (h : Steps p o atBound refusal place) (hplace : ¬atBound → place ≤ p.length) (hp : p.Placed) :
    o.next.Placed := by
  by_cases hb : atBound
  · rw [h.unchanged hb]
    exact hp
  · obtain ⟨hscript, hcursor, -, hstate⟩ := h.moves hb
    have hlength : o.next.length = p.length := congrArg Script.length hscript
    refine placed_of_idle ?_ hstate
    rw [hcursor, hlength]
    exact hplace hb

theorem perform_placed (scene : Scene) (o : Operation) (hp : p.Placed) :
    (scene.perform p o).next.Placed := by
  have hle := hp.le
  cases o with
  | load script => exact placed_of_idle (Nat.zero_le _) rfl
  | run i =>
    rcases scene.run_ends_or_isDropped i hle with hends | ⟨-, hdropped⟩
    · exact hends.placed hp
    · have hlength : (scene.run i p).next.length = p.length :=
        congrArg Script.length hdropped.script
      exact placed_of_lt (hlength ▸ hdropped.cursor)
  | stepForward =>
    refine (scene.stepForward_steps hle).placed (fun hend => ?_) hp
    omega
  | stepBackward =>
    refine (scene.stepBackward_steps p).placed (fun _ => ?_) hp
    omega
  | stop =>
    refine ⟨hle, fun hstate => ?_⟩
    -- only a run that has been dropped becomes stopped here, and it has a command left
    by_cases hrunning : p.state = .running
    · exact hp.lt (.inl hrunning)
    · refine hp.lt ?_
      have hsame : (scene.perform p .stop).next.state = p.state := if_neg hrunning
      rwa [hsame] at hstate
  | restart => exact placed_of_idle (Nat.zero_le _) rfl
  | requestStop => exact ⟨hle, hp.lt⟩
  | withdrawStop => exact ⟨hle, hp.lt⟩

theorem performAll_placed (scene : Scene) (operations : List Operation) (hp : p.Placed) :
    (scene.performAll p operations).next.Placed := by
  induction operations generalizing p with
  | nil => exact hp
  | cons o os ih => exact ih (scene.perform_placed o hp)

/-- Whatever has been done, the cursor is within the script, and before its end if the playback is
running or stopped. What an operation that plays then tells, and the state it leaves, is decided by
the cursor: of a run by where it ends, of a step by where it begins. -/
theorem status_by_cursor (scene : Scene) (operations : List Operation) :
    let p := (scene.performAll .initial operations).next
    (p.cursor ≤ p.length ∧
      (p.state = .running ∨ p.state = .stopped → p.cursor < p.length)) ∧
    (∀ i, let o := scene.run i p
      (i.drops = false → o.status ≠ none) ∧
      (o.status ≠ none → o.next.length = p.length ∧ o.next.state ≠ .running ∧
        (o.status = some .nothingToRun ↔ p.length = 0) ∧
        (o.status = some .done ↔ p.length ≠ 0 ∧ o.next.cursor = p.length) ∧
        (o.status = some .done → o.next.state = .idle) ∧
        (o.status = some .stopped ↔ o.next.cursor < p.length) ∧
        (o.status = some .stopped → o.next.state = .stopped))) ∧
    Steps p (scene.stepForward p) (p.cursor = p.length) .atEnd (p.cursor + 1) ∧
    Steps p (scene.stepBackward p) (p.cursor = 0) .atStart (p.cursor - 1) := by
  intro p
  have hp : p.Placed := scene.performAll_placed operations placed_initial
  refine ⟨⟨hp.le, hp.lt⟩, fun i => ?_, scene.stepForward_steps hp.le, scene.stepBackward_steps p⟩
  have hcases := scene.run_ends_or_isDropped i hp.le
  generalize scene.run i p = o at hcases
  refine ⟨fun hi => ?_, fun hstatus => ?_⟩
  · rcases hcases with hends | ⟨hdrops, -⟩
    · exact hends.status_ne_none
    · rw [hi] at hdrops
      cases hdrops
  · rcases hcases with hends | ⟨-, hdropped⟩
    · have hempty : p.script.entries = [] ↔ p.length = 0 := List.length_eq_zero_iff.symm
      cases hends with
      | nothingToRun empty status next =>
        have hzero := hempty.mp empty
        have hcursor := hp.le
        have hstate : p.state ≠ .running := by
          intro hrunning
          have hlt := hp.lt (.inl hrunning)
          omega
        simp [status, next, hzero, hstate]
      | done nonempty status script cursor state =>
        have hlength : o.next.length = p.length := congrArg Script.length script
        have hne : p.length ≠ 0 := fun h => nonempty (hempty.mpr h)
        simp [status, hlength, cursor, state, hne]
      | stopped status script cursor state =>
        have hlength : o.next.length = p.length := congrArg Script.length script
        have hne : p.length ≠ 0 := by omega
        have hcursor : o.next.cursor ≠ p.length := by omega
        simp [status, hlength, cursor, state, hne, hcursor]
    · exact absurd hdropped.status hstatus

/-- A run that is dropped in the first wait, and stopped after that. -/
theorem status_by_cursor_after_drop :
    let operations : List Operation :=
      [.load ⟨[⟨0, .wait 5⟩, ⟨1, .zoom "atlantis"⟩, ⟨2, .wait 7⟩], []⟩, .run (.dropAt 3), .stop]
    let p := (bare.performAll .initial operations).next
    let o := bare.run (.stopAt 4) p
    p.state = .stopped ∧ p.cursor < p.length ∧
      o.status = some .stopped ∧ o.next.cursor < p.length ∧ o.next.state = .stopped ∧
      (bare.stepBackward p).next = p ∧ (bare.stepForward p).next.cursor = 1 := by
  intro operations p o
  obtain ⟨⟨-, hlt⟩, hruns, hforward, hback⟩ := bare.status_by_cursor operations
  have hstate : p.state = .stopped := by decide
  have hstatus : o.status = some .stopped := by decide
  have hcursor : p.cursor = 0 := by decide
  have htold : o.status ≠ none := (hruns (.stopAt 4)).1 rfl
  obtain ⟨-, -, -, -, -, hstopped, hleft⟩ := (hruns (.stopAt 4)).2 htold
  obtain ⟨-, hmoved, -, -⟩ := hforward.moves (by decide)
  refine ⟨hstate, hlt (.inr hstate), hstatus, hstopped.mp hstatus, hleft hstatus,
    hback.unchanged hcursor, ?_⟩
  rw [hmoved]
  decide

end Scene

end ScriptedMap
