import ScriptedMap.Proofs.Timeline.Tally

namespace ScriptedMap

namespace Endpoint

def IsTerritory (p : Endpoint) : Prop := ∃ name, p = .territory name

/-- The endpoint is a territory that is not found. -/
def IsUnknown (atlas : Atlas) (p : Endpoint) : Prop :=
  ∃ name, p = .territory name ∧ atlas.findTerritory? name = none

end Endpoint

/-- Something that the command names is not there: a territory, a region, or an effect of the
catalog. -/
def Scene.Misses (scene : Scene) : Command → Prop
  | .country name _ _ => scene.atlas.findTerritory? name = none
  | .region name parent _ _ _ => scene.atlas.findSubregion? name parent = none
  | .line source target _ => source.IsUnknown scene.atlas ∨ target.IsUnknown scene.atlas
  | .attack source target _ _ _ _ => source.IsUnknown scene.atlas ∨ target.IsUnknown scene.atlas
  | .effect _ name _ _ => scene.config.effects.get? name = none
  | .zoom target => scene.atlas.findTerritory? target = none
  | _ => False

section Failures

variable {ε α β γ : Type} {x : Except ε α} {y : Except ε β}

/-- What is made of one attempt fails if and only if that one does. -/
theorem fails_pure_iff {f : α → γ} :
    (∃ e, (do let a ← x; return f a) = .error e) ↔ ∃ e, x = .error e := by
  cases x <;> simp [bind, Except.bind, pure, Except.pure]

/-- What is made of two attempts fails if and only if one of them does. -/
theorem fails_pair_iff {f : α → β → γ} :
    (∃ e, (do let a ← x; let b ← y; return f a b) = .error e) ↔
      (∃ e, x = .error e) ∨ ∃ e, y = .error e := by
  cases x <;> cases y <;> simp [bind, Except.bind, pure, Except.pure]

end Failures

namespace Scene

variable {scene : Scene} {script : Script}

theorem fails_territory_iff {name : String} :
    (∃ e, scene.territory name = .error e) ↔ scene.atlas.findTerritory? name = none := by
  unfold territory
  cases scene.atlas.findTerritory? name <;> simp

theorem fails_region_iff {name parent : String} :
    (∃ e, scene.region name parent = .error e) ↔
      scene.atlas.findSubregion? name parent = none := by
  unfold region
  cases scene.atlas.findSubregion? name parent <;> simp

theorem fails_effect_iff {name : String} :
    (∃ e, scene.effect name = .error e) ↔ scene.config.effects.get? name = none := by
  unfold effect
  cases scene.config.effects.get? name <;> simp

theorem isUnknown_territory_iff {name : String} :
    (Endpoint.territory name).IsUnknown scene.atlas ↔ scene.atlas.findTerritory? name = none := by
  constructor
  · intro h
    obtain ⟨other, hsame, hnone⟩ := h
    cases hsame
    exact hnone
  · intro h
    exact ⟨name, rfl, h⟩

theorem fails_locate_iff {p : Endpoint} :
    (∃ e, scene.locate p = .error e) ↔ p.IsUnknown scene.atlas := by
  cases p with
  | point place => simp [locate, Endpoint.IsUnknown]
  | territory name =>
    rw [isUnknown_territory_iff, ← fails_territory_iff, locate]
    cases scene.territory name <;> simp [Except.map]

/-- Two ends are looked for in order; a line between territories takes another way, with the same
failures. -/
theorem fails_request?_iff (c : Command) :
    (∃ e, scene.request? script c = .error e) ↔ scene.Misses c := by
  cases c with
  | country name color animation => exact fails_pure_iff.trans fails_territory_iff
  | region name parent color animation occupied => exact fails_pure_iff.trans fails_region_iff
  | line source target color =>
    have hlocated : (∃ e, (do
        let p ← scene.locate source
        let q ← scene.locate target
        return some (.drawArrow p q (scene.color color) .plainLine none) :
          Except Skip (Option Request)) = .error e) ↔ scene.Misses (.line source target color) :=
      fails_pair_iff.trans (or_congr fails_locate_iff fails_locate_iff)
    cases source with
    | point place => exact hlocated
    | territory a =>
      cases target with
      | point place => exact hlocated
      | territory b =>
        rw [Misses, isUnknown_territory_iff, isUnknown_territory_iff]
        exact fails_pair_iff.trans (or_congr fails_territory_iff fails_territory_iff)
  | attack source target color curve width headSize =>
    exact fails_pair_iff.trans (or_congr fails_locate_iff fails_locate_iff)
  | effect place name color size => exact fails_pure_iff.trans fails_effect_iff
  | zoom target => exact fails_pure_iff.trans fails_territory_iff
  | legend change => cases change <;> simp [request?, Misses]
  | remove what => cases what <;> simp [request?, Misses]
  | _ => simp [request?, Misses]

theorem isSkipped_iff_misses (c : Command) :
    scene.isSkipped script c = true ↔ scene.Misses c := by
  rw [← @fails_request?_iff scene script c, isSkipped, skip?]
  cases scene.request? script c <;> simp

/-- A line that is not skipped asks for a connector between two territories, and for a plain arrow
between other ends. -/
theorem request?_line {source target : Endpoint} {color : String} {request : Option Request}
    (h : scene.request? script (.line source target color) = .ok request) :
    (source.IsTerritory ∧ target.IsTerritory) ∧
      (∃ a b, request = some (.drawConnector a b (scene.color color))) ∨
    ¬(source.IsTerritory ∧ target.IsTerritory) ∧
      ∃ p q, request = some (.drawArrow p q (scene.color color) .plainLine none) := by
  cases source <;> cases target
  all_goals
    obtain ⟨a, -, ha⟩ := bind_eq_ok.mp h
    obtain ⟨b, -, hb⟩ := bind_eq_ok.mp ha
    cases hb
  case territory.territory => exact .inl ⟨⟨⟨_, rfl⟩, _, rfl⟩, _, _, rfl⟩
  all_goals exact .inr ⟨by simp [Endpoint.IsTerritory], _, _, rfl⟩

/-- The call asked for is the only one that is recorded. -/
theorem act_of_request? (index : Nat) {e : Entry} (s : Surface) {request : Option Request}
    (h : scene.request? script e.command = .ok request) :
    (scene.act script index e s).events = [] ∧
      (scene.act script index e s).surface = s.drawAll request.toList := by
  cases request with
  | none => simp only [act, h, Option.toList_none, Surface.drawAll_nil, and_self]
  | some r =>
    simp only [act, h, Option.toList_some, Surface.drawAll_cons, Surface.drawAll_nil, and_self]

/-- A command fails exactly if it misses something, and then it leaves the surface as it is; else it
makes one call, but none if it is a wait. -/
theorem act_atomic (scene : Scene) (script : Script) (index : Nat) (e : Entry) (s : Surface) :
    let act := scene.act script index e s
    ((∃ skip, scene.request? script e.command = .error skip) ↔ scene.Misses e.command) ∧
    (∀ skip, scene.request? script e.command = .error skip →
      act.surface = s ∧ act.events = [.skipped index e.line skip]) ∧
    ∀ request, scene.request? script e.command = .ok request →
      act.events = [] ∧
      (e.command.keyword = .wait → act.surface = s) ∧
      (e.command.keyword ≠ .wait → ∃ call, act.surface.calls = s.calls ++ [call]) ∧
      ∀ source target color, e.command = .line source target color →
        ∃ call, act.surface.calls = s.calls ++ [call] ∧
          ((∃ a b shade, call = .drawConnector a b shade) ↔
            source.IsTerritory ∧ target.IsTerritory) ∧
          (¬(source.IsTerritory ∧ target.IsTerritory) →
            ∃ p q shade, call = .drawArrow p q shade .plainLine none) := by
  intro act
  refine ⟨fails_request?_iff e.command, ?_, ?_⟩
  · intro skip h
    simp only [act, Scene.act, h, and_self]
  · intro request h
    obtain ⟨hevents, hsurface⟩ := act_of_request? index s h
    have hcalls {r : Request} (hr : request = some r) :
        act.surface.calls = s.calls ++ [r.numbered s.nextMarker] := by
      rw [hsurface, hr]
      rfl
    have hasks : e.command.keyword.Asks request := asks_of_request? h
    refine ⟨hevents, ?_, ?_, ?_⟩
    · intro hwait
      cases request with
      | none => exact hsurface
      | some r => exact absurd (hwait ▸ hasks) r.wait_not_mem_keywords
    · intro hwait
      cases request with
      | none => exact absurd hasks hwait
      | some r => exact ⟨_, hcalls rfl⟩
    · intro source target color hline
      rw [hline] at h
      rcases request?_line h with ⟨hboth, a, b, hrequest⟩ | ⟨hnot, p, q, hrequest⟩
      · refine ⟨_, hcalls hrequest, ?_, ?_⟩
        · exact ⟨fun _ => hboth, fun _ => ⟨_, _, _, rfl⟩⟩
        · exact fun hnot => absurd hboth hnot
      · refine ⟨_, hcalls hrequest, ?_, ?_⟩
        · constructor
          · intro hconnector
            obtain ⟨a, b, shade, hcall⟩ := hconnector
            cases hcall
          · exact fun hboth => absurd hboth hnot
        · exact fun _ => ⟨_, _, _, rfl⟩

/-- A line whose second end is not found draws nothing, and one between two points
is a plain arrow. -/
theorem act_atomic_two_lines :
    let lost : Entry := ⟨0, .line (.point ⟨20, 10⟩) (.territory "Atlantis") "red"⟩
    let drawn : Entry := ⟨1, .line (.point ⟨20, 10⟩) (.point ⟨0, 0⟩) "red"⟩
    (∃ skip, bare.request? .empty lost.command = .error skip) ∧
      (∃ request, bare.request? .empty drawn.command = .ok request) ∧
      ∀ s, (bare.act .empty 0 lost s).surface = s ∧ ∃ p q shade,
        (bare.act .empty 1 drawn s).surface.calls =
          s.calls ++ [.drawArrow p q shade .plainLine none] := by
  intro lost drawn
  have hunknown : bare.atlas.findTerritory? "Atlantis" = none := by decide +kernel
  have hmisses : bare.Misses lost.command := .inr ⟨_, rfl, hunknown⟩
  have hlost := (bare.act_atomic .empty 0 lost .initial).1.mpr hmisses
  have hdrawn : bare.request? .empty drawn.command =
    .ok (some (.drawArrow ⟨20, 10⟩ ⟨0, 0⟩ (bare.color "red") .plainLine none)) := rfl
  refine ⟨hlost, ⟨_, hdrawn⟩, ?_⟩
  intro s
  constructor
  · obtain ⟨skip, hskip⟩ := hlost
    exact ((bare.act_atomic .empty 0 lost s).2.1 skip hskip).1
  · have hnot : ¬((Endpoint.point ⟨20, 10⟩).IsTerritory ∧ (Endpoint.point ⟨0, 0⟩).IsTerritory) := by
      simp [Endpoint.IsTerritory]
    obtain ⟨-, -, -, hline⟩ := (bare.act_atomic .empty 1 drawn s).2.2 _ hdrawn
    obtain ⟨call, hcalls, -, harrow⟩ := hline _ _ _ rfl
    obtain ⟨p, q, shade, hcall⟩ := harrow hnot
    exact ⟨p, q, shade, hcall ▸ hcalls⟩

end Scene

end ScriptedMap
