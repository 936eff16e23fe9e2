import ScriptedMap.Proofs.Attempt
import ScriptedMap.Proofs.Surface.Log
import ScriptedMap.Timeline.Playback

namespace ScriptedMap

/-- The keyword of the commands that place such a marker. -/
def Marker.keyword : Marker → Keyword
  | bubble .. => .bubble
  | label .. => .label
  | callout .. => .arrow
  | symbol .. => .effect

/-- The keywords of the commands that ask for such a call. -/
def Call.keywords {Id : Type} : Call Id → List Keyword
  | drawTerritory .. => [.country, .region]
  | drawConnector .. => [.line]
  | drawArrow .. => [.line, .attack]
  | placeMarker _ marker _ _ => [marker.keyword]
  | removeLastMarker => [.remove]
  | clearConnectors => [.remove]
  | clearSymbols => [.remove]
  | showYear .. => [.year]
  | addLegendEntry _ => [.legend]
  | showLegend _ => [.legend]
  | hideLegend => [.legend]
  | panTo .. => [.fly]
  | panToBounds _ => [.zoom]
  | cinematic _ => [.cinematic]
  | clearAll => []

/-- A command with the keyword can ask for this. -/
def Keyword.Asks (keyword : Keyword) : Option Request → Prop
  | none => keyword = .wait
  | some r => keyword ∈ r.keywords

namespace Scene

/-- Why a command is skipped, if it is. -/
def skip? (scene : Scene) (script : Script) (c : Command) : Option Skip :=
  match scene.request? script c with
  | .error skip => some skip
  | .ok _ => none

/-- The one call of a command. One that is skipped has none, nor has a wait. -/
def call? (scene : Scene) (script : Script) (c : Command) : Option Request :=
  match scene.request? script c with
  | .error _ => none
  | .ok request => request

/-- How long a command holds back the next one. One that is skipped does not. -/
def pause (scene : Scene) (script : Script) (c : Command) : Nat :=
  match scene.request? script c with
  | .error _ => 0
  | .ok _ => scene.delay c

def requests (scene : Scene) (script : Script) (commands : List Command) : List Request :=
  commands.filterMap (scene.call? script)

/-- A new surface to which the first `n` commands of the script have been dispatched. -/
def picture (scene : Scene) (script : Script) (n : Nat) : Surface :=
  Surface.initial.drawAll (scene.requests script (script.commands.take n))

/-- A command that is not skipped asks for a call of its own kind, or for nothing if
it is a wait. -/
theorem asks_of_request? {scene : Scene} {script : Script} {c : Command} {request : Option Request}
    (h : scene.request? script c = .ok request) : c.keyword.Asks request := by
  cases c with
  | country name color animation =>
    obtain ⟨t, -, ht⟩ := bind_eq_ok.mp h
    cases ht
    exact List.mem_cons_self
  | region name country color animation occupied =>
    obtain ⟨t, -, ht⟩ := bind_eq_ok.mp h
    cases ht
    exact List.mem_cons_of_mem _ List.mem_cons_self
  | line source target color =>
    -- two territories are joined by a connector, all other ends by an arrow
    cases source <;> cases target
    all_goals
      obtain ⟨a, -, ha⟩ := bind_eq_ok.mp h
      obtain ⟨b, -, hb⟩ := bind_eq_ok.mp ha
      cases hb
      exact List.mem_cons_self
  | attack source target color curve width headSize =>
    obtain ⟨a, -, ha⟩ := bind_eq_ok.mp h
    obtain ⟨b, -, hb⟩ := bind_eq_ok.mp ha
    cases hb
    exact List.mem_cons_of_mem _ List.mem_cons_self
  | effect place name color size =>
    obtain ⟨kind, -, hk⟩ := bind_eq_ok.mp h
    cases hk
    exact List.mem_cons_self
  | zoom target =>
    obtain ⟨t, -, ht⟩ := bind_eq_ok.mp h
    cases ht
    exact List.mem_cons_self
  | legend change => cases change <;> cases h <;> exact List.mem_cons_self
  | remove what => cases what <;> cases h <;> exact List.mem_cons_self
  | wait ms => cases h; rfl
  | bubble place text color => cases h; exact List.mem_cons_self
  | label place text size color => cases h; exact List.mem_cons_self
  | arrow place text direction color => cases h; exact List.mem_cons_self
  | year text highlight => cases h; exact List.mem_cons_self
  | fly place zoom => cases h; exact List.mem_cons_self
  | cinematic place zoom pitch bearing => cases h; exact List.mem_cons_self

theorem request?_of_call? {scene : Scene} {script : Script} {c : Command} {r : Request}
    (h : scene.call? script c = some r) : scene.request? script c = .ok (some r) := by
  unfold call? at h
  split at h
  · cases h
  · rename_i request hr
    rw [hr, h]

theorem keyword_mem_of_call? {scene : Scene} {script : Script} {c : Command} {r : Request}
    (h : scene.call? script c = some r) : c.keyword ∈ r.keywords :=
  asks_of_request? (request?_of_call? h)

/-- No command clears the surface. -/
theorem isClear_of_call? {scene : Scene} {script : Script} {c : Command} {r : Request}
    (h : scene.call? script c = some r) : r.isClear = false := by
  have hkeyword := keyword_mem_of_call? h
  cases r with
  | clearAll => cases hkeyword
  | _ => rfl

theorem isClear_of_mem_requests {scene : Scene} {script : Script} {commands : List Command} :
    ∀ r ∈ scene.requests script commands, r.isClear = false := by
  intro r hr
  obtain ⟨c, -, hc⟩ := List.mem_filterMap.mp hr
  exact isClear_of_call? hc

@[simp] theorem picture_zero (scene : Scene) (script : Script) :
    scene.picture script 0 = .initial := rfl

theorem requests_append (scene : Scene) (script : Script) (cs ds : List Command) :
    scene.requests script (cs ++ ds) = scene.requests script cs ++ scene.requests script ds :=
  List.filterMap_append

theorem calls_picture (scene : Scene) (script : Script) (n : Nat) :
    (scene.picture script n).calls =
      Surface.numberAll 0 (scene.requests script (script.commands.take n)) := by
  rw [picture, Surface.calls_drawAll]
  rfl

theorem picture_followsCalls (scene : Scene) (script : Script) (n : Nat) :
    (scene.picture script n).FollowsCalls := Surface.followsCalls_initial.drawAll _

/-- What is told of a numbered entry whose command is skipped, and nothing of others. -/
def skips (scene : Scene) (script : Script) (numbered : Entry × Nat) : List Event :=
  (scene.skip? script numbered.1.command).toList.map (.skipped numbered.2 numbered.1.line)

theorem act_surface (scene : Scene) (script : Script) (index : Nat) (e : Entry) (s : Surface) :
    (scene.act script index e s).surface = s.drawAll (scene.requests script [e.command]) := by
  simp only [act, requests, List.filterMap_cons, List.filterMap_nil, call?]
  split <;> simp [*]

theorem act_settle (scene : Scene) (script : Script) (index : Nat) (e : Entry) (s : Surface) :
    (scene.act script index e s).settle = scene.pause script e.command := by
  simp only [act, pause]
  split <;> simp [*]

theorem act_events (scene : Scene) (script : Script) (index : Nat) (e : Entry) (s : Surface) :
    (scene.act script index e s).events = scene.skips script (e, index) := by
  simp only [act, skips, skip?]
  split <;> simp [*]

theorem act_eq (scene : Scene) (script : Script) (index : Nat) (e : Entry) (s : Surface) :
    scene.act script index e s = ⟨s.drawAll (scene.requests script [e.command]),
      scene.skips script (e, index), scene.pause script e.command⟩ := by
  rw [← act_surface scene script index e s, ← act_events scene script index e s,
    ← act_settle scene script index e s]

/-- Replaying draws the commands in order, whatever numbers they are played under. -/
theorem replay_surface (scene : Scene) (script : Script) (index : Nat) (s : Surface)
    (es : List Entry) :
    (scene.replay script index s es).1 =
      s.drawAll (scene.requests script (es.map (·.command))) := by
  induction es generalizing index s with
  | nil => rfl
  | cons e es ih =>
    have hs : e.command :: es.map (·.command) = [e.command] ++ es.map (·.command) := rfl
    rw [replay, List.map_cons, hs, requests_append, Surface.drawAll_append, ← act_surface]
    exact ih _ _

theorem replay_events (scene : Scene) (script : Script) (index : Nat) (s : Surface)
    (es : List Entry) :
    (scene.replay script index s es).2 = (es.zipIdx index).flatMap (scene.skips script) := by
  induction es generalizing index s with
  | nil => rfl
  | cons e es ih => rw [replay, List.zipIdx_cons, List.flatMap_cons, ← ih, act_events]

end Scene

end ScriptedMap
