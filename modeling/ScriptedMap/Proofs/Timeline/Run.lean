import Mathlib.Tactic.ByContra
import ScriptedMap.Config.Standard
import ScriptedMap.Proofs.Timeline.Stretch

namespace ScriptedMap

namespace Interruption

/-- The run is dropped, if it lasts long enough. -/
def drops : Interruption → Bool
  | dropAt _ => true
  | _ => false

/-- How many commands are played if their pauses follow one another from `start` on. -/
def reach (i : Interruption) (start : Nat) : List Nat → Nat
  | [] => 0
  | d :: ds => if i.stops start d then 1 else i.reach (start + d) ds + 1

theorem dropTime?_of_drops {i : Interruption} (hi : i.drops = false) (start settle : Nat) :
    i.dropTime? start settle = Option.none := by
  cases i with
  | none => rfl
  | stopAt time => rfl
  | dropAt time => cases hi

theorem stops_zero (i : Interruption) (start : Nat) : i.stops start 0 = false := by
  cases i <;> simp [stops, isIn]

/-- A stop comes in one of two pauses that follow one another if it comes in the first or the
second. -/
theorem stops_add (i : Interruption) (start d e : Nat) :
    i.stops start (d + e) = (i.stops start d || i.stops (start + d) e) := by
  cases i with
  | none => rfl
  | dropAt time => rfl
  | stopAt time =>
    rw [Bool.eq_iff_iff]
    simp only [stops, isIn, Bool.and_eq_true, Bool.or_eq_true, decide_eq_true_eq]
    omega

theorem reach_pos (i : Interruption) (start : Nat) {ds : List Nat} (h : ds ≠ []) :
    0 < i.reach start ds := by
  cases ds with
  | nil => exact absurd rfl h
  | cons d ds =>
    rw [reach]
    split <;> omega

theorem reach_none (start : Nat) (ds : List Nat) : none.reach start ds = ds.length := by
  induction ds generalizing start with
  | nil => rfl
  | cons d ds ih => simp [reach, stops, ih]

/-- A stop that comes in pause number `m` lets this pause be the last. -/
theorem reach_stopAt {ds : List Nat} {start time m : Nat} (hm : start + (ds.take m).sum ≤ time)
    (ht : time < start + (ds.take (m + 1)).sum) : (stopAt time).reach start ds = m + 1 := by
  induction ds generalizing start m with
  | nil =>
    simp only [List.take_nil, List.sum_nil] at hm ht
    omega
  | cons d ds ih =>
    cases m with
    | zero =>
      have hs : (stopAt time).stops start d = true := by
        simp at hm ht
        simp [stops, isIn, hm, ht]
      rw [reach, if_pos hs]
    | succ m =>
      simp only [List.take_succ_cons, List.sum_cons] at hm ht
      have hs : ¬(stopAt time).stops start d = true := by
        simp only [stops, isIn, Bool.and_eq_true, decide_eq_true_eq]
        omega
      have hm' : start + d + (ds.take m).sum ≤ time := by omega
      have ht' : time < start + d + (ds.take (m + 1)).sum := by omega
      rw [reach, if_neg hs, ih hm' ht']

theorem stops_of_take {ds : List Nat} {start time m : Nat} (hm : start + (ds.take m).sum ≤ time)
    (ht : time < start + (ds.take (m + 1)).sum) : (stopAt time).stops start ds.sum = true := by
  have hsum : (ds.take (m + 1)).sum + (ds.drop (m + 1)).sum = ds.sum := by
    rw [← List.sum_append, List.take_append_drop]
  simp only [stops, isIn, Bool.and_eq_true, decide_eq_true_eq]
  omega

end Interruption

theorem Outcome.behind_behind (o : Outcome) (xs ys : List Event) :
    (o.behind xs).behind ys = o.behind (ys ++ xs) := by
  simp [behind]

namespace Playback

@[simp] theorem clearAtStart_script (p : Playback) : p.clearAtStart.script = p.script := by
  unfold clearAtStart
  split <;> rfl

@[simp] theorem clearAtStart_cursor (p : Playback) : p.clearAtStart.cursor = p.cursor := by
  unfold clearAtStart
  split <;> rfl

theorem clearAtStart_surface (p : Playback) :
    p.clearAtStart.surface = if p.cursor = 0 then p.surface.draw .clearAll else p.surface := by
  unfold clearAtStart
  split <;> rfl

theorem clearAtStart_of_pos {p : Playback} (hp : 0 < p.cursor) : p.clearAtStart = p :=
  if_neg (Nat.ne_of_gt hp)

end Playback

namespace Scene

/-- The standard scene of those who have no datasets. -/
def bare : Scene := ⟨.standard, .empty .standard⟩

def pauses (scene : Scene) (script : Script) (first : Nat) : List Nat :=
  (script.commands.drop first).map (scene.pause script)

theorem duration_eq_take_pauses (scene : Scene) (script : Script) (first last : Nat) :
    scene.duration script first last = ((scene.pauses script first).take (last - first)).sum :=
  scene.duration_eq_sum_take script first last

theorem length_pauses (scene : Scene) (script : Script) (first : Nat) :
    (scene.pauses script first).length = script.length - first := by
  simp [pauses]

theorem pauses_eq_nil_iff (scene : Scene) (script : Script) (first : Nat) :
    scene.pauses script first = [] ↔ script.length ≤ first := by
  rw [← List.length_eq_zero_iff, length_pauses, Nat.sub_eq_zero_iff_le]

theorem pauses_cons (scene : Scene) {script : Script} {n : Nat} {e : Entry}
    (he : script.entries[n]? = some e) :
    scene.pauses script n = scene.pause script e.command :: scene.pauses script (n + 1) := by
  rw [pauses, Script.drop_commands he, List.map_cons, pauses]

/-- How a run ends that has played up to command number `last`. -/
def halt (scene : Scene) (p : Playback) (last elapsed : Nat) (requested : Bool) : Outcome :=
  let next := { scene.playedTo p last with stopRequested := requested }
  if p.length ≤ last then { next with state := .idle }.finish .done elapsed
  else { next with state := .stopped }.finish .stopped elapsed

theorem halt_self (scene : Scene) (p : Playback) (elapsed : Nat) :
    scene.halt p p.cursor elapsed p.stopRequested =
      if p.length ≤ p.cursor then { p with state := .idle }.finish .done elapsed
      else { p with state := .stopped }.finish .stopped elapsed := by
  simp only [halt, playedTo_self]

theorem halt_playedTo (scene : Scene) (p : Playback) {b last : Nat} (hb : p.cursor ≤ b)
    (hl : b ≤ last) (requested stopped : Bool) (elapsed : Nat) :
    scene.halt { scene.playedTo p b with stopRequested := stopped } last elapsed requested =
      scene.halt p last elapsed requested := by
  have h := scene.playedTo_playedTo p hb hl
  simp only [playedTo, Playback.mk.injEq, true_and, and_true] at h
  simp only [halt, playedTo, h, Playback.length]
  rfl

/-- A run goes no further once a stop is requested. -/
theorem play_of_stopRequested (scene : Scene) (i : Interruption) (elapsed : Nat) {p : Playback}
    (hp : p.stopRequested = true) :
    scene.play i elapsed p (p.script.entries.drop p.cursor) =
      scene.halt p p.cursor elapsed true := by
  rw [← hp, halt_self]
  by_cases hl : p.length ≤ p.cursor
  · rw [List.drop_eq_nil_of_le hl, if_pos hl]
    rfl
  · have hd : p.cursor < p.script.entries.length := Nat.lt_of_not_le hl
    rw [List.drop_eq_getElem_cons hd, play, if_pos hp, if_neg hl]

/-- The playback of a run after the command at the cursor and the pause that begins at `elapsed`. -/
def afterPause (scene : Scene) (i : Interruption) (elapsed : Nat) (p : Playback) (pause : Nat) :
    Playback :=
  { scene.playedTo p (p.cursor + 1) with stopRequested := i.stops elapsed pause }

theorem play_cons (scene : Scene) {i : Interruption} {elapsed : Nat} {p : Playback}
    (hp : p.stopRequested = false) {e : Entry} (he : p.script.entries[p.cursor]? = some e)
    (hi : i.dropTime? elapsed (scene.pause p.script e.command) = Option.none) (es : List Entry) :
    let pause := scene.pause p.script e.command
    scene.play i elapsed p (e :: es) =
      (scene.play i (elapsed + pause) (scene.afterPause i elapsed p pause) es).behind
        (scene.told p.script p.cursor) := by
  have hrun : ¬p.stopRequested = true := by rw [hp]; decide
  rw [play, if_neg hrun]
  simp only [act_settle, hi, advance_act scene p he]
  rw [← act_told scene p he]
  rfl

/-- A run that is not dropped plays as far as its interruption lets it, and
tells of each command. -/
theorem play_eq (scene : Scene) {i : Interruption} (hi : i.drops = false) (elapsed : Nat)
    {p : Playback} (hp : p.stopRequested = false) :
    let last := p.cursor + i.reach elapsed (scene.pauses p.script p.cursor)
    scene.play i elapsed p (p.script.entries.drop p.cursor) =
      (scene.halt p last (elapsed + scene.duration p.script p.cursor last)
        (i.stops elapsed (scene.pauses p.script p.cursor).sum)).behind
          (scene.tale p.script p.cursor last) := by
  generalize hes : p.script.entries.drop p.cursor = es
  induction es generalizing p elapsed with
  | nil =>
    have hl : p.length ≤ p.cursor := List.drop_eq_nil_iff.mp hes
    have hd : scene.pauses p.script p.cursor = [] := (scene.pauses_eq_nil_iff _ _).mpr hl
    simp only [hd, Interruption.reach, List.sum_nil, Interruption.stops_zero, Nat.add_zero,
      tale_self, duration_self]
    rw [← hp, halt_self, if_pos hl, play]
    rfl
  | cons e es ih =>
    obtain ⟨he, hes'⟩ := Script.entry_of_drop_eq_cons hes
    let d := scene.pause p.script e.command
    let next := scene.afterPause i elapsed p d
    have hpauses := scene.pauses_cons he
    have hnext : next.script.entries.drop next.cursor = es := hes'
    rw [play_cons scene hp he (Interruption.dropTime?_of_drops hi _ _)]
    cases hstop : i.stops elapsed d with
    | true =>
      -- the stop comes in this pause, and the next command is not played
      have hk : i.reach elapsed (scene.pauses p.script p.cursor) = 1 := by
        rw [hpauses, Interruption.reach, if_pos hstop]
      have hr : i.stops elapsed (scene.pauses p.script p.cursor).sum = true := by
        rw [hpauses, List.sum_cons, Interruption.stops_add, hstop, Bool.true_or]
      have hplay : scene.play i (elapsed + d) next es =
          scene.halt next (p.cursor + 1) (elapsed + d) true := by
        rw [← hnext]
        exact scene.play_of_stopRequested i (elapsed + d) hstop
      have hhalt : scene.halt next (p.cursor + 1) (elapsed + d) true =
          scene.halt p (p.cursor + 1) (elapsed + d) true :=
        scene.halt_playedTo p (Nat.le_succ _) (Nat.le_refl _) _ _ _
      simp only [hk, hr, tale_one, scene.duration_one p.script he]
      rw [hplay, hhalt]
    | false =>
      let k := i.reach (elapsed + d) (scene.pauses p.script (p.cursor + 1))
      let last := p.cursor + 1 + k
      let requested := i.stops (elapsed + d) (scene.pauses p.script (p.cursor + 1)).sum
      have hle : p.cursor + 1 ≤ last := Nat.le_add_right _ _
      have hk : p.cursor + i.reach elapsed (scene.pauses p.script p.cursor) = last := by
        rw [hpauses, Interruption.reach, if_neg (ne_true_of_eq_false hstop)]
        change p.cursor + (k + 1) = p.cursor + 1 + k
        omega
      have hr : i.stops elapsed (scene.pauses p.script p.cursor).sum = requested := by
        rw [hpauses, List.sum_cons, Interruption.stops_add, hstop, Bool.false_or]
      have hplay : scene.play i (elapsed + d) next es =
          (scene.halt next last (elapsed + d + scene.duration p.script (p.cursor + 1) last)
            requested).behind (scene.tale p.script (p.cursor + 1) last) :=
        ih (elapsed + d) hstop hnext
      have htale : scene.told p.script p.cursor ++ scene.tale p.script (p.cursor + 1) last =
          scene.tale p.script p.cursor last := by
        rw [← tale_one, tale_append scene p.script (Nat.le_succ _) hle]
      have htime : elapsed + d + scene.duration p.script (p.cursor + 1) last =
          elapsed + scene.duration p.script p.cursor last := by
        rw [← scene.duration_append p.script (Nat.le_succ p.cursor) hle,
          scene.duration_one p.script he, Nat.add_assoc]
      have hhalt (time : Nat) : scene.halt next last time requested =
          scene.halt p last time requested :=
        scene.halt_playedTo p (Nat.le_succ _) hle _ _ _
      simp only [hk, hr]
      rw [hplay, Outcome.behind_behind, htale, htime, hhalt]

theorem run_of_nil (scene : Scene) (i : Interruption) {p : Playback} (hp : p.script.entries = []) :
    scene.run i p = p.finish .nothingToRun 0 := by
  rw [run, if_pos (List.isEmpty_iff.mpr hp)]

/-- What a run that is not dropped leads to. Nothing is left of the state and the stop flag before
it. -/
theorem run_eq (scene : Scene) {i : Interruption} (hi : i.drops = false) {p : Playback}
    (hp : p.script.entries ≠ []) :
    let last := p.cursor + i.reach 0 (scene.pauses p.script p.cursor)
    scene.run i p = (scene.halt p.clearAtStart last (scene.duration p.script p.cursor last)
      (i.stops 0 (scene.pauses p.script p.cursor).sum)).behind
        (scene.warnings p ++ [.started p.cursor] ++ scene.tale p.script p.cursor last) := by
  intro last
  let opened : Playback := { p.clearAtStart with state := .running, stopRequested := false }
  have hs : opened.script = p.script := p.clearAtStart_script
  have hc : opened.cursor = p.cursor := p.clearAtStart_cursor
  have hplay := scene.play_eq hi 0 (show opened.stopRequested = false from rfl)
  simp only [hs, hc, Nat.zero_add] at hplay
  have hne : ¬p.script.entries.isEmpty = true := by
    rw [List.isEmpty_iff]
    exact hp
  have hrun : scene.run i p = (scene.play i 0 opened (p.script.entries.drop p.cursor)).behind
      (scene.warnings p ++ [.started p.cursor]) := by
    rw [run, if_neg hne]
  rw [hrun, hplay, Outcome.behind_behind]
  rfl

/-- What a run leads to from any playback that has commands left. Without a stop it plays them all.
A stop that is requested in the pause of command number `j` lets this pause end, and no command
after it is played. -/
theorem run_outcome (scene : Scene) (p : Playback) (hp : p.cursor < p.length) :
    let start (k : Nat) := scene.duration p.script p.cursor k
    let before := scene.warnings p ++ [.started p.cursor]
    scene.run .none p =
      ⟨{ scene.playedTo p.clearAtStart p.length with state := .idle, stopRequested := false },
        before ++ scene.tale p.script p.cursor p.length ++ [.finished .done],
        some .done, start p.length⟩ ∧
    ∀ j time, start j ≤ time → time < start (j + 1) →
      p.cursor ≤ j ∧ j < p.length ∧
      (j + 1 < p.length → scene.run (.stopAt time) p =
        ⟨{ scene.playedTo p.clearAtStart (j + 1) with state := .stopped, stopRequested := true },
          before ++ scene.tale p.script p.cursor (j + 1) ++ [.finished .stopped],
          some .stopped, start (j + 1)⟩) ∧
      (j + 1 = p.length → scene.run (.stopAt time) p =
        ⟨{ scene.playedTo p.clearAtStart p.length with state := .idle, stopRequested := true },
          before ++ scene.tale p.script p.cursor p.length ++ [.finished .done],
          some .done, start p.length⟩) := by
  intro start before
  have hne : p.script.entries ≠ [] := List.ne_nil_of_length_pos (by
    change 0 < p.length
    omega)
  have hlen : p.clearAtStart.length = p.length := by
    rw [Playback.length, Playback.clearAtStart_script, Playback.length]
  constructor
  · have hlast : p.cursor + Interruption.none.reach 0 (scene.pauses p.script p.cursor) =
        p.length := by
      rw [Interruption.reach_none, length_pauses]
      exact Nat.add_sub_cancel' (Nat.le_of_lt hp)
    have hrun := scene.run_eq (show Interruption.none.drops = false from rfl) hne
    simp only [hlast] at hrun
    rw [hrun, halt, if_pos (Nat.le_of_eq hlen)]
    rfl
  · intro j time hj ht
    change scene.duration p.script p.cursor j ≤ time at hj
    change time < scene.duration p.script p.cursor (j + 1) at ht
    obtain ⟨hcj, hjn⟩ : p.cursor ≤ j ∧ j < p.length := by
      constructor
      · by_contra hc
        rw [scene.duration_of_le p.script (show j + 1 ≤ p.cursor by omega)] at ht
        omega
      · by_contra hn
        rw [scene.duration_of_length_le p.script p.cursor (show p.length ≤ j + 1 by omega),
          ← scene.duration_of_length_le p.script p.cursor (show p.length ≤ j by omega)] at ht
        omega
    have hm : 0 + ((scene.pauses p.script p.cursor).take (j - p.cursor)).sum ≤ time := by
      rw [Nat.zero_add, ← duration_eq_take_pauses]
      exact hj
    have hm' : time < 0 + ((scene.pauses p.script p.cursor).take (j - p.cursor + 1)).sum := by
      rw [Nat.zero_add, ← Nat.sub_add_comm hcj, ← duration_eq_take_pauses]
      exact ht
    have hlast : p.cursor +
        (Interruption.stopAt time).reach 0 (scene.pauses p.script p.cursor) = j + 1 := by
      rw [Interruption.reach_stopAt hm hm']
      omega
    have hrun := scene.run_eq (show (Interruption.stopAt time).drops = false from rfl) hne
    simp only [hlast, Interruption.stops_of_take hm hm'] at hrun
    refine ⟨hcj, hjn, ?_, ?_⟩
    · intro hlt
      rw [hrun, halt, if_neg (by omega)]
      rfl
    · intro hend
      rw [hrun, hend, halt, if_pos (Nat.le_of_eq hlen)]
      rfl

/-- A stop in the first of two waits leaves the second for later. -/
theorem run_outcome_two_waits :
    let p := (Playback.initial.load ⟨[⟨0, .wait 5⟩, ⟨1, .wait 7⟩], []⟩).next
    p.cursor < p.length ∧ (bare.run .none p).elapsed = 12 ∧
      (bare.run (.stopAt 3) p).elapsed = 5 ∧ (bare.run (.stopAt 3) p).next.cursor = 1 ∧
      (bare.run (.stopAt 5) p).next.state = .idle := by
  intro p
  have hp : p.cursor < p.length := by decide
  obtain ⟨hwhole, hparts⟩ := bare.run_outcome p hp
  obtain ⟨-, -, hfirst, -⟩ := hparts 0 3 (by decide) (by decide)
  obtain ⟨-, -, -, hsecond⟩ := hparts 1 5 (by decide) (by decide)
  refine ⟨hp, ?_, ?_, ?_, ?_⟩
  · rw [hwhole]
    decide
  · rw [hfirst (by decide)]
    decide
  · rw [hfirst (by decide)]
    rfl
  · rw [hsecond (by decide)]

/-- How long a command would hold back the next one if no delay were too long. -/
def settleTime (scene : Scene) (script : Script) (c : Command) : Nat :=
  match scene.request? script c with
  | .error _ => 0
  | .ok _ => scene.config.settle.after c

/-- A wait of more than thirty years is cut, so that a run can be shorter than its settle times. -/
theorem run_shorter_than_settle_times :
    ¬∀ (scene : Scene) (p : Playback), p.cursor < p.length →
      (scene.run .none p).elapsed =
        ((p.script.stretch p.cursor p.length).map (scene.settleTime p.script)).sum := by
  intro h
  have hcut := h bare (Playback.initial.load ⟨[⟨0, .wait 946080000001⟩], []⟩).next (by decide)
  revert hcut
  decide

end Scene

end ScriptedMap
