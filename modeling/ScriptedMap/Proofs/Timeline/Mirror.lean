import ScriptedMap.Proofs.Timeline.Dropped

namespace ScriptedMap

/-- What is known of a timeline to one who has been told its events: the position, as the number of
the next command and that of all commands, and the line of the next command if it has been told
since the script was loaded. -/
structure Mirror where
  position : Nat × Nat
  line : Option (Option Nat)
deriving DecidableEq, Repr

namespace Mirror

def initial : Mirror := ⟨(0, 0), none⟩

def after (m : Mirror) : Event → Mirror
  | .loaded commands _ => ⟨(0, commands), none⟩
  | .progress current total line => ⟨(current, total), some line⟩
  | _ => m

def afterAll (m : Mirror) (events : List Event) : Mirror := events.foldl after m

/-- The mirror shows the cursor in the script. -/
structure Shows (m : Mirror) (script : Script) (cursor : Nat) : Prop where
  position : m.position = (cursor, script.length)
  line : ∀ line, m.line = some line → line = (script.entries[cursor]?).map (·.line)

variable {m : Mirror} {script : Script} {cursor : Nat}

theorem shows_initial : initial.Shows .empty 0 := by
  refine ⟨rfl, fun line h => ?_⟩
  cases h

theorem shows_loaded (m : Mirror) (script : Script) (rejected : Nat) :
    (m.after (.loaded script.length rejected)).Shows script 0 := by
  refine ⟨rfl, fun line h => ?_⟩
  cases h

theorem afterAll_append (m : Mirror) (xs ys : List Event) :
    m.afterAll (xs ++ ys) = (m.afterAll xs).afterAll ys := List.foldl_append

/-- Whatever has been told before, the mirror is right when it is told of the cursor. -/
theorem shows_append_progress (m : Mirror) (events : List Event) (script : Script) (cursor : Nat) :
    (m.afterAll (events ++ [script.progress cursor])).Shows script cursor := by
  rw [afterAll_append]
  refine ⟨rfl, fun line h => ?_⟩
  cases h
  rfl

end Mirror

namespace Scene

variable {scene : Scene} {p : Playback} {m : Mirror} {script : Script}

theorem halt_events (scene : Scene) (p : Playback) (last elapsed : Nat) (requested : Bool) :
    (scene.halt p last elapsed requested).events =
      (scene.halt p last elapsed requested).status.toList.map .finished := by
  simp only [halt]
  split <;> rfl

/-- The outcome of a run tells this: it has played up to a command, and if it has a status it tells
that too. -/
structure TellsRun (scene : Scene) (p : Playback) (o : Outcome) : Prop where
  script : o.next.script = p.script
  le : p.cursor ≤ o.next.cursor
  events : o.events = scene.warnings p ++ [.started p.cursor] ++
    scene.tale p.script p.cursor o.next.cursor ++ o.status.toList.map .finished

theorem tellsRun_of_not_drops {i : Interruption} (hi : i.drops = false)
    (hp : p.script.entries ≠ []) : scene.TellsRun p (scene.run i p) := by
  let last := p.cursor + i.reach 0 (scene.pauses p.script p.cursor)
  let ending := scene.halt p.clearAtStart last (scene.duration p.script p.cursor last)
    (i.stops 0 (scene.pauses p.script p.cursor).sum)
  obtain ⟨hscript, hcursor, -⟩ : ending.next.script = p.clearAtStart.script ∧
      ending.next.cursor = last ∧ _ := scene.halt_next p.clearAtStart last _ _
  have hevents : ending.events = ending.status.toList.map .finished :=
    scene.halt_events p.clearAtStart last _ _
  rw [scene.run_eq hi hp]
  change scene.TellsRun p (ending.behind _)
  refine ⟨?_, ?_, ?_⟩
  · exact hscript.trans p.clearAtStart_script
  · change p.cursor ≤ ending.next.cursor
    rw [hcursor]
    exact Nat.le_add_right _ _
  · change _ ++ ending.events = _ ++ scene.tale p.script p.cursor ending.next.cursor ++ _
    rw [hcursor, hevents]
    rfl

theorem status_of_not_drops {i : Interruption} (hi : i.drops = false) :
    ∃ status, (scene.run i p).status = some status := by
  by_cases hp : p.script.entries = []
  · rw [scene.run_of_nil i hp]
    exact ⟨.nothingToRun, rfl⟩
  · rw [scene.run_eq hi hp, halt]
    split
    · exact ⟨.done, rfl⟩
    · exact ⟨.stopped, rfl⟩

/-- Even a run that is dropped tells of all commands that the cursor has moved over. -/
theorem run_tells (scene : Scene) (i : Interruption) (hp : p.script.entries ≠ []) :
    scene.TellsRun p (scene.run i p) := by
  cases i with
  | none => exact tellsRun_of_not_drops rfl hp
  | stopAt time => exact tellsRun_of_not_drops rfl hp
  | dropAt time =>
    rcases scene.run_dropAt time p with hrun | ⟨last, hpauses, hrun⟩
    · rw [hrun]
      exact tellsRun_of_not_drops rfl hp
    · have hle := hpauses.le
      rw [Playback.clearAtStart_cursor] at hle
      rw [hrun]
      refine ⟨p.clearAtStart_script, hle, ?_⟩
      change _ ++ scene.tale p.clearAtStart.script p.clearAtStart.cursor last = _
      rw [Playback.clearAtStart_script, Playback.clearAtStart_cursor]
      exact (List.append_nil _).symm

theorem warnings_eq (scene : Scene) (p : Playback) :
    scene.warnings p = [] ∨
      p.cursor = 0 ∧ ∃ diagnostics, scene.warnings p = [.warnings diagnostics] := by
  unfold warnings
  dsimp only
  split
  · next h =>
    simp only [Bool.and_eq_true, decide_eq_true_eq] at h
    exact .inr ⟨h.1, _, rfl⟩
  · exact .inl rfl

theorem afterAll_warnings (m : Mirror) : m.afterAll (scene.warnings p) = m := by
  rcases scene.warnings_eq p with hw | ⟨-, diagnostics, hw⟩ <;> rw [hw] <;> rfl

theorem shows_told (m : Mirror) (script : Script) (n : Nat) :
    (m.afterAll (scene.told script n)).Shows script (n + 1) := by
  rw [told]
  exact m.shows_append_progress _ script (n + 1)

theorem shows_tale {first last : Nat} (h : m.Shows script first) (hle : first ≤ last) :
    (m.afterAll (scene.tale script first last)).Shows script last := by
  rcases Nat.eq_or_lt_of_le hle with rfl | hlt
  · rw [tale_self]
    exact h
  · obtain ⟨n, rfl⟩ : ∃ n, last = n + 1 := Nat.exists_eq_add_one.mpr (Nat.zero_lt_of_lt hlt)
    rw [← tale_append scene script (Nat.le_of_lt_succ hlt) (Nat.le_succ n), tale_one,
      Mirror.afterAll_append]
    exact shows_told _ script n

theorem run_shows (i : Interruption) (h : m.Shows p.script p.cursor) :
    (m.afterAll (scene.run i p).events).Shows (scene.run i p).next.script
      (scene.run i p).next.cursor := by
  by_cases hp : p.script.entries = []
  · rw [scene.run_of_nil i hp]
    exact h
  · obtain ⟨hscript, hle, hevents⟩ := scene.run_tells i hp
    have hopening : m.afterAll (scene.warnings p ++ [.started p.cursor]) = m := by
      rw [Mirror.afterAll_append, afterAll_warnings]
      rfl
    have hending (m : Mirror) : m.afterAll ((scene.run i p).status.toList.map .finished) = m := by
      cases (scene.run i p).status <;> rfl
    rw [hevents, hscript, Mirror.afterAll_append, Mirror.afterAll_append, hopening, hending]
    exact shows_tale h hle

theorem stepForward_shows (h : m.Shows p.script p.cursor) :
    (m.afterAll (scene.stepForward p).events).Shows (scene.stepForward p).next.script
      (scene.stepForward p).next.cursor := by
  cases he : p.script.entries[p.cursor]? with
  | none =>
    rw [scene.stepForward_of_none he]
    exact h
  | some e =>
    have hscript : (scene.stepForward p).next.script = p.script := by
      rw [scene.stepForward_eq he]
      exact p.clearAtStart_script
    rw [hscript, scene.stepForward_eq he, Mirror.afterAll_append]
    exact shows_told m p.script p.cursor

/-- A step back tells of the commands that are skipped when those before the
new cursor are played. -/
theorem stepBackward_events (scene : Scene) {p : Playback} (hp : 0 < p.cursor) :
    (scene.stepBackward p).events =
      (p.script.entries.take (p.cursor - 1)).zipIdx.flatMap (scene.skips p.script) ++
        [p.script.progress (p.cursor - 1)] ++
        [.finished (.stepped (p.cursor - 1) p.length)] := by
  rw [stepBackward, if_neg (Nat.ne_of_gt hp), ← replay_events]
  rfl

theorem stepBackward_shows (h : m.Shows p.script p.cursor) :
    (m.afterAll (scene.stepBackward p).events).Shows (scene.stepBackward p).next.script
      (scene.stepBackward p).next.cursor := by
  by_cases hp : p.cursor = 0
  · rw [scene.stepBackward_of_zero hp]
    exact h
  · have hpos : 0 < p.cursor := Nat.pos_of_ne_zero hp
    rw [scene.stepBackward_events hpos, scene.stepBackward_next hpos, Mirror.afterAll_append]
    exact m.shows_append_progress _ p.script (p.cursor - 1)

/-- No operation moves the cursor without telling where it comes to, not even
one that is dropped. -/
theorem perform_shows_cursor (scene : Scene) (o : Operation) (h : m.Shows p.script p.cursor) :
    (m.afterAll (scene.perform p o).events).Shows (scene.perform p o).next.script
      (scene.perform p o).next.cursor := by
  cases o with
  | load script => exact Mirror.shows_loaded m script script.rejectedLines.length
  | run i => exact run_shows i h
  | stepForward => exact stepForward_shows h
  | stepBackward => exact stepBackward_shows h
  | stop => exact h
  | restart => exact m.shows_append_progress [] p.script 0
  | requestStop => exact h
  | withdrawStop => exact h

theorem performAll_shows_cursor (scene : Scene) (operations : List Operation)
    (h : m.Shows p.script p.cursor) :
    let o := scene.performAll p operations
    (m.afterAll o.events).Shows o.next.script o.next.cursor := by
  induction operations generalizing p m with
  | nil => exact h
  | cons o os ih =>
    have hfirst := scene.perform_shows_cursor o h
    intro outcome
    change (m.afterAll ((scene.perform p o).events ++ _)).Shows _ _
    rw [Mirror.afterAll_append]
    exact ih hfirst

/-- What is told of a skipped command is so: the script has the command under this number and from
this line, and it cannot be dispatched for this reason. -/
def TellsSkip (scene : Scene) (script : Script) (event : Event) : Prop :=
  ∀ index line skip, event = .skipped index line skip →
    ∃ e, script.entries[index]? = some e ∧ e.line = line ∧
      scene.request? script e.command = .error skip

theorem tellsSkip_of_all {events : List Event}
    (h : (events.all fun event => !event.isSkipped) = true) :
    ∀ event ∈ events, scene.TellsSkip script event := by
  rintro event hmem index line skip rfl
  have hnot := List.all_eq_true.mp h _ hmem
  cases hnot

theorem request?_of_skip? {c : Command} {skip : Skip} (h : scene.skip? script c = some skip) :
    scene.request? script c = .error skip := by
  unfold skip? at h
  split at h
  · next heq =>
    cases h
    exact heq
  · cases h

theorem tellsSkip_of_mem_skips {e : Entry} {n : Nat} (he : script.entries[n]? = some e) :
    ∀ event ∈ scene.skips script (e, n), scene.TellsSkip script event := by
  intro event hmem
  obtain ⟨skip, hskip, rfl⟩ := List.mem_map.mp hmem
  intro index line reason heq
  cases heq
  exact ⟨e, he, rfl, request?_of_skip? (Option.mem_toList.mp hskip)⟩

theorem tellsSkip_of_mem_tale {first last : Nat} :
    ∀ event ∈ scene.tale script first last, scene.TellsSkip script event := by
  intro event hmem
  obtain ⟨n, -, htold⟩ := List.mem_flatMap.mp hmem
  rcases List.mem_append.mp htold with hskip | hprogress
  · obtain ⟨e, he, hskips⟩ := List.mem_flatMap.mp hskip
    exact tellsSkip_of_mem_skips (Option.mem_toList.mp he) event hskips
  · exact tellsSkip_of_all rfl event hprogress

theorem run_tellsSkip (i : Interruption) :
    ∀ event ∈ (scene.run i p).events, scene.TellsSkip p.script event := by
  by_cases hp : p.script.entries = []
  · rw [scene.run_of_nil i hp]
    exact tellsSkip_of_all rfl
  · have hwarnings : ∀ event ∈ scene.warnings p, scene.TellsSkip p.script event := by
      rcases scene.warnings_eq p with hw | ⟨-, diagnostics, hw⟩ <;> rw [hw] <;>
        exact tellsSkip_of_all rfl
    have hstarted : ∀ event ∈ [Event.started p.cursor], scene.TellsSkip p.script event :=
      tellsSkip_of_all rfl
    have hending : ∀ event ∈ (scene.run i p).status.toList.map Event.finished,
        scene.TellsSkip p.script event := by
      cases (scene.run i p).status <;> exact tellsSkip_of_all rfl
    rw [(scene.run_tells i hp).events, List.forall_mem_append, List.forall_mem_append,
      List.forall_mem_append]
    exact ⟨⟨⟨hwarnings, hstarted⟩, tellsSkip_of_mem_tale⟩, hending⟩

theorem stepForward_tellsSkip :
    ∀ event ∈ (scene.stepForward p).events, scene.TellsSkip p.script event := by
  cases he : p.script.entries[p.cursor]? with
  | none =>
    rw [scene.stepForward_of_none he]
    exact tellsSkip_of_all rfl
  | some e =>
    rw [scene.stepForward_eq he, ← tale_one, List.forall_mem_append]
    exact ⟨tellsSkip_of_mem_tale, tellsSkip_of_all rfl⟩

theorem stepBackward_tellsSkip :
    ∀ event ∈ (scene.stepBackward p).events, scene.TellsSkip p.script event := by
  by_cases hp : p.cursor = 0
  · rw [scene.stepBackward_of_zero hp]
    exact tellsSkip_of_all rfl
  · rw [scene.stepBackward_events (Nat.pos_of_ne_zero hp), List.forall_mem_append,
      List.forall_mem_append]
    refine ⟨⟨?_, tellsSkip_of_all rfl⟩, tellsSkip_of_all rfl⟩
    intro event hmem
    obtain ⟨⟨e, n⟩, hnumbered, hskips⟩ := List.mem_flatMap.mp hmem
    have htake : (p.script.entries.take (p.cursor - 1))[n]? = some e :=
      List.mem_zipIdx_iff_getElem?.mp hnumbered
    have he : p.script.entries[n]? = some e := by
      rw [List.getElem?_take] at htake
      split at htake
      · exact htake
      · cases htake
    exact tellsSkip_of_mem_skips he event hskips

theorem perform_tellsSkip (scene : Scene) (o : Operation) :
    ∀ event ∈ (scene.perform p o).events, scene.TellsSkip p.script event := by
  cases o with
  | load script => exact tellsSkip_of_all rfl
  | run i => exact run_tellsSkip i
  | stepForward => exact stepForward_tellsSkip
  | stepBackward => exact stepBackward_tellsSkip
  | stop => exact List.forall_mem_nil _
  | restart => exact tellsSkip_of_all rfl
  | requestStop => exact List.forall_mem_nil _
  | withdrawStop => exact List.forall_mem_nil _

end Scene

end ScriptedMap
