import ScriptedMap.Proofs.Timeline.Mirror
import ScriptedMap.Timeline.Basic

namespace ScriptedMap

/-- What happens to a timeline: an operation, or a receiver that comes or goes. -/
inductive Move where
  | perform (operation : Operation)
  | subscribe
  | unsubscribe (id : Nat)
deriving DecidableEq, Repr

namespace Move

def operation? : Move → Option Operation
  | perform operation => some operation
  | _ => none

def operations (moves : List Move) : List Operation := moves.filterMap operation?

end Move

namespace Timeline

def move (scene : Scene) (t : Timeline) : Move → Timeline
  | .perform operation => t.perform scene operation
  | .subscribe => t.subscribe
  | .unsubscribe id => t.unsubscribe id

def moveAll (scene : Scene) (t : Timeline) (moves : List Move) : Timeline :=
  moves.foldl (move scene) t

variable {scene : Scene} {t : Timeline} {id : Nat} {inbox : List Event}

theorem playback_moveAll (scene : Scene) (t : Timeline) (moves : List Move) :
    (t.moveAll scene moves).playback =
      (scene.performAll t.playback (Move.operations moves)).next := by
  induction moves generalizing t with
  | nil => rfl
  | cons move moves ih => cases move <;> exact ih _

theorem receiver_perform (scene : Scene) (o : Operation)
    (hr : t.receivers[id]? = some ⟨true, inbox⟩) :
    (t.perform scene o).receivers[id]? =
      some ⟨true, inbox ++ (scene.perform t.playback o).events⟩ := by
  change (t.receivers.map _)[id]? = _
  rw [List.getElem?_map, hr]
  rfl

theorem receiver_subscribe (hr : t.receivers[id]? = some ⟨true, inbox⟩) :
    t.subscribe.receivers[id]? = some ⟨true, inbox⟩ := by
  have hid : id < t.receivers.length := (List.getElem?_eq_some_iff.mp hr).1
  change (t.receivers ++ [⟨true, []⟩])[id]? = _
  rw [List.getElem?_append_left hid, hr]

theorem receiver_unsubscribe {other : Nat} (hother : other ≠ id)
    (hr : t.receivers[id]? = some ⟨true, inbox⟩) :
    (t.unsubscribe other).receivers[id]? = some ⟨true, inbox⟩ := by
  change (t.receivers.modify other _)[id]? = _
  rw [List.getElem?_modify_ne _ _ hother, hr]

/-- A receiver that is not closed is told the events of all operations in order. -/
theorem receiver_moveAll {moves : List Move} (hkept : Move.unsubscribe id ∉ moves)
    (hr : t.receivers[id]? = some ⟨true, inbox⟩) :
    (t.moveAll scene moves).receivers[id]? =
      some ⟨true, inbox ++ (scene.performAll t.playback (Move.operations moves)).events⟩ := by
  induction moves generalizing t inbox with
  | nil =>
    have hnone : inbox ++ (scene.performAll t.playback (Move.operations [])).events = inbox :=
      List.append_nil inbox
    rw [hnone]
    exact hr
  | cons move moves ih =>
    obtain ⟨hne, hrest⟩ := not_or.mp (List.mem_cons.not.mp hkept)
    cases move with
    | perform o =>
      have htold := ih hrest (receiver_perform scene o hr)
      rw [List.append_assoc] at htold
      exact htold
    | subscribe => exact ih hrest (receiver_subscribe hr)
    | unsubscribe other =>
      have hother : other ≠ id := by
        rintro rfl
        exact hne rfl
      exact ih hrest (receiver_unsubscribe hother hr)

theorem receiver_new (t : Timeline) :
    t.subscribe.receivers[t.receivers.length]? = some ⟨true, []⟩ := by
  change (t.receivers ++ [⟨true, []⟩])[t.receivers.length]? = _
  exact List.getElem?_concat_length

/-- What a receiver is told mirrors the timeline. One that is there from the start knows the cursor
at all times; a skip is told only of a command that cannot be dispatched; a run that is not dropped
tells of each command it has played, between its start and its end; and a receiver that comes later
is told all that happens from then on. -/
theorem events_mirror (scene : Scene) (moves : List Move) (hkept : Move.unsubscribe 0 ∉ moves) :
    let t := initial.subscribe.moveAll scene moves
    let p := t.playback
    (∃ events, t.receivers[0]? = some ⟨true, events⟩ ∧
      let mirror := Mirror.initial.afterAll events
      mirror.position = (p.cursor, p.length) ∧
      ∀ line, mirror.line = some line → line = p.line?) ∧
    (∀ o index line skip, Event.skipped index line skip ∈ (scene.perform p o).events →
      ∃ e, p.script.entries[index]? = some e ∧ e.line = line ∧
        scene.request? p.script e.command = .error skip) ∧
    (p.script.entries ≠ [] → ∀ i, i.drops = false ∨ (scene.run i p).status ≠ none →
      ∃ status opening, (scene.run i p).status = some status ∧
        (opening = [] ∨ p.cursor = 0 ∧ ∃ diagnostics, opening = [.warnings diagnostics]) ∧
        p.cursor ≤ (scene.run i p).next.cursor ∧
        (scene.run i p).events = opening ++ [.started p.cursor] ++
          scene.tale p.script p.cursor (scene.run i p).next.cursor ++ [.finished status]) ∧
    ∀ later, Move.unsubscribe t.receivers.length ∉ later →
      (t.subscribe.moveAll scene later).receivers[t.receivers.length]? =
        some ⟨true, (scene.performAll p (Move.operations later)).events⟩ := by
  intro t p
  refine ⟨?_, ?_, ?_, ?_⟩
  · let o := scene.performAll initial.subscribe.playback (Move.operations moves)
    have hp : p = o.next := playback_moveAll scene _ moves
    have hshows : (Mirror.initial.afterAll o.events).Shows o.next.script o.next.cursor :=
      scene.performAll_shows_cursor (Move.operations moves) Mirror.shows_initial
    rw [← hp] at hshows
    exact ⟨o.events, receiver_moveAll hkept (receiver_new initial), hshows.position, hshows.line⟩
  · intro o index line skip hmem
    exact scene.perform_tellsSkip o _ hmem index line skip rfl
  · intro hne i hi
    obtain ⟨-, hle, hevents⟩ := scene.run_tells i hne
    obtain ⟨status, hstatus⟩ : ∃ status, (scene.run i p).status = some status := by
      rcases hi with hi | hi
      · exact scene.status_of_not_drops hi
      · exact Option.ne_none_iff_exists'.mp hi
    rw [hstatus] at hevents
    exact ⟨status, scene.warnings p, hstatus, scene.warnings_eq p, hle, hevents⟩
  · intro later hlater
    exact receiver_moveAll hlater (receiver_new t)

/-- A run that is dropped, a step back over a skipped command, and a run that is stopped, while
other receivers come and go. -/
theorem events_mirror_after_drop :
    let script : Script := ⟨[⟨0, .zoom "atlantis"⟩, ⟨2, .wait 5⟩, ⟨3, .year "1991" true⟩], []⟩
    let moves : List Move :=
      [.subscribe, .perform (.load script), .perform (.run (.dropAt 3)), .unsubscribe 1,
        .perform .stepForward, .perform .stepBackward, .perform (.run (.stopAt 2))]
    let later : List Move := [.perform .stop, .unsubscribe 0, .perform (.run .none)]
    let t := initial.subscribe.moveAll Scene.bare moves
    let p := t.playback
    Move.unsubscribe 0 ∉ moves ∧ p.script.entries ≠ [] ∧
      Move.unsubscribe t.receivers.length ∉ later ∧
      (∃ events, t.receivers[0]? = some ⟨true, events⟩ ∧
        (Mirror.initial.afterAll events).position = (2, 3)) ∧
      (∃ e, p.script.entries[0]? = some e ∧
        Scene.bare.request? p.script e.command = .error (.unknownTerritory "atlantis")) ∧
      (∃ status, (Scene.bare.run .none p).events.getLast? = some (.finished status)) ∧
      (t.subscribe.moveAll Scene.bare later).receivers[2]? =
        some ⟨true, [.started 2, .progress 3 3 none, .finished .done]⟩ := by
  intro script moves later t p
  have hkept : Move.unsubscribe 0 ∉ moves := by decide
  have hne : p.script.entries ≠ [] := by decide
  have hlater : Move.unsubscribe t.receivers.length ∉ later := by decide
  obtain ⟨⟨events, hevents, hposition, -⟩, hskips, hruns, hnew⟩ :=
    events_mirror Scene.bare moves hkept
  have hskipped : Event.skipped 0 0 (.unknownTerritory "atlantis") ∈
      (Scene.bare.perform p .stepBackward).events := by decide
  obtain ⟨e, he, -, herror⟩ := hskips .stepBackward 0 0 _ hskipped
  obtain ⟨status, opening, -, -, -, hrun⟩ := hruns hne .none (.inl rfl)
  refine ⟨hkept, hne, hlater, ⟨events, hevents, ?_⟩, ⟨e, he, herror⟩, ⟨status, ?_⟩, ?_⟩
  · rw [hposition]
    decide
  · rw [hrun, List.getLast?_concat]
  · have hreceiver := hnew later hlater
    have hlength : t.receivers.length = 2 := by decide
    rw [hlength] at hreceiver
    rw [hreceiver]
    decide

end Timeline

end ScriptedMap
