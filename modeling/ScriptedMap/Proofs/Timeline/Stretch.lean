import Mathlib.Algebra.Ring.Nat
import ScriptedMap.Proofs.Timeline.Picture

namespace ScriptedMap

namespace Script

/-- The commands from number `first` up to, but without, number `last`. -/
def stretch (script : Script) (first last : Nat) : List Command :=
  (script.commands.take last).drop first

/-- What is told when the cursor has come to the command of the given number. -/
def progress (script : Script) (cursor : Nat) : Event :=
  .progress cursor script.length ((script.entries[cursor]?).map (·.line))

@[simp] theorem length_commands (script : Script) : script.commands.length = script.length :=
  List.length_map _

theorem stretch_self (script : Script) (n : Nat) : script.stretch n n = [] := List.drop_take_self

theorem stretch_zero (script : Script) (n : Nat) :
    script.stretch 0 n = script.commands.take n := rfl

theorem stretch_eq_take_drop (script : Script) (first last : Nat) :
    script.stretch first last = (script.commands.drop first).take (last - first) := List.drop_take

theorem stretch_append (script : Script) {a b c : Nat} (hab : a ≤ b) (hbc : b ≤ c) :
    script.stretch a b ++ script.stretch b c = script.stretch a c := by
  have hc : c - a = b - a + (c - b) := by omega
  have hb : a + (b - a) = b := by omega
  rw [stretch_eq_take_drop script a c, hc, List.take_add, List.drop_drop, hb,
    ← stretch_eq_take_drop, ← stretch_eq_take_drop]

theorem commands_getElem? (script : Script) (n : Nat) :
    script.commands[n]? = (script.entries[n]?).map (·.command) := List.getElem?_map

theorem drop_commands {script : Script} {n : Nat} {e : Entry} (he : script.entries[n]? = some e) :
    script.commands.drop n = e.command :: script.commands.drop (n + 1) := by
  have hc : script.commands[n]? = some e.command := by
    rw [commands_getElem?, he]
    rfl
  obtain ⟨hn, hg⟩ := List.getElem?_eq_some_iff.mp hc
  rw [List.drop_eq_getElem_cons hn, hg]

theorem stretch_one (script : Script) {n : Nat} {e : Entry} (he : script.entries[n]? = some e) :
    script.stretch n (n + 1) = [e.command] := by
  rw [stretch_eq_take_drop, drop_commands he, Nat.add_sub_cancel_left]
  rfl

theorem entry_of_drop_eq_cons {script : Script} {n : Nat} {e : Entry} {es : List Entry}
    (h : script.entries.drop n = e :: es) :
    script.entries[n]? = some e ∧ script.entries.drop (n + 1) = es := by
  constructor
  · have hg : (script.entries.drop n)[0]? = script.entries[n + 0]? := List.getElem?_drop
    rw [← Nat.add_zero n, ← hg, h]
    rfl
  · rw [← List.tail_drop, h, List.tail_cons]

end Script

namespace Scene

/-- What is told while the command of number `n` is played: why it is skipped, if it is, and where
the cursor comes to. -/
def told (scene : Scene) (script : Script) (n : Nat) : List Event :=
  (script.entries[n]?).toList.flatMap (fun e =>
    (scene.skip? script e.command).toList.map (.skipped n e.line)) ++ [script.progress (n + 1)]

/-- What is told while a stretch is played. -/
def tale (scene : Scene) (script : Script) (first last : Nat) : List Event :=
  (List.range' first (last - first)).flatMap (scene.told script)

/-- How long a stretch is played. -/
def duration (scene : Scene) (script : Script) (first last : Nat) : Nat :=
  ((script.stretch first last).map (scene.pause script)).sum

/-- The playback with the cursor moved to number `last`, and the commands on the way dispatched. -/
def playedTo (scene : Scene) (p : Playback) (last : Nat) : Playback :=
  { p with
    cursor := last
    surface := p.surface.drawAll (scene.requests p.script (p.script.stretch p.cursor last)) }

theorem tale_self (scene : Scene) (script : Script) (n : Nat) : scene.tale script n n = [] := by
  simp [tale]

theorem tale_append (scene : Scene) (script : Script) {a b c : Nat} (hab : a ≤ b) (hbc : b ≤ c) :
    scene.tale script a b ++ scene.tale script b c = scene.tale script a c := by
  have hc : c - a = b - a + (c - b) := by omega
  have hb : a + (b - a) = b := by omega
  rw [tale, tale, tale, hc, ← List.range'_append_1, List.flatMap_append, hb]

theorem tale_one (scene : Scene) (script : Script) (n : Nat) :
    scene.tale script n (n + 1) = scene.told script n := by
  simp [tale]

theorem duration_self (scene : Scene) (script : Script) (n : Nat) :
    scene.duration script n n = 0 := by
  rw [duration, Script.stretch_self]
  rfl

theorem duration_append (scene : Scene) (script : Script) {a b c : Nat} (hab : a ≤ b)
    (hbc : b ≤ c) :
    scene.duration script a b + scene.duration script b c = scene.duration script a c := by
  rw [duration, duration, duration, ← Script.stretch_append script hab hbc, List.map_append,
    List.sum_append]

theorem duration_one (scene : Scene) (script : Script) {n : Nat} {e : Entry}
    (he : script.entries[n]? = some e) :
    scene.duration script n (n + 1) = scene.pause script e.command := by
  rw [duration, Script.stretch_one script he]
  simp

theorem duration_eq_sum_take (scene : Scene) (script : Script) (first last : Nat) :
    scene.duration script first last =
      (((script.commands.drop first).map (scene.pause script)).take (last - first)).sum := by
  rw [duration, Script.stretch_eq_take_drop, List.map_take]

theorem duration_of_le (scene : Scene) (script : Script) {first last : Nat} (h : last ≤ first) :
    scene.duration script first last = 0 := by
  rw [duration_eq_sum_take, Nat.sub_eq_zero_of_le h]
  rfl

/-- There is nothing to play behind the end of the script. -/
theorem duration_of_length_le (scene : Scene) (script : Script) (first : Nat) {last : Nat}
    (h : script.length ≤ last) :
    scene.duration script first last = scene.duration script first script.length := by
  rw [duration, duration, Script.stretch, Script.stretch, ← Script.length_commands,
    List.take_length, List.take_of_length_le (by rw [Script.length_commands]; exact h)]

theorem picture_stretch (scene : Scene) (script : Script) {first last : Nat} (h : first ≤ last) :
    scene.picture script last = (scene.picture script first).drawAll
      (scene.requests script (script.stretch first last)) := by
  rw [picture, picture, ← Surface.drawAll_append, ← requests_append, ← Script.stretch_zero,
    ← Script.stretch_zero, Script.stretch_append script (Nat.zero_le _) h]

theorem playedTo_self (scene : Scene) (p : Playback) : scene.playedTo p p.cursor = p := by
  rw [playedTo, Script.stretch_self]
  rfl

theorem playedTo_playedTo (scene : Scene) (p : Playback) {b c : Nat} (hb : p.cursor ≤ b)
    (hc : b ≤ c) : scene.playedTo (scene.playedTo p b) c = scene.playedTo p c := by
  simp only [playedTo, ← Surface.drawAll_append, ← requests_append,
    Script.stretch_append p.script hb hc]

/-- One command played is a stretch of one command. -/
theorem advance_act (scene : Scene) (p : Playback) {e : Entry}
    (he : p.script.entries[p.cursor]? = some e) :
    p.advance (scene.act p.script p.cursor e p.surface) = scene.playedTo p (p.cursor + 1) := by
  have hs := scene.act_surface p.script p.cursor e p.surface
  rw [playedTo, Script.stretch_one p.script he, ← hs]
  rfl

theorem act_told (scene : Scene) (p : Playback) {e : Entry}
    (he : p.script.entries[p.cursor]? = some e) :
    (scene.act p.script p.cursor e p.surface).events ++ [p.script.progress (p.cursor + 1)] =
      scene.told p.script p.cursor := by
  rw [act_events, told, he]
  simp [skips]

end Scene

end ScriptedMap
