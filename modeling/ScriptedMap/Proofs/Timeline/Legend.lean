import ScriptedMap.Proofs.Script.Legend
import ScriptedMap.Proofs.Timeline.Shown

namespace ScriptedMap

/-- The operation changes the script. -/
def Operation.loads : Operation → Bool
  | load _ => true
  | _ => false

namespace Surface

/-- A call that a list of requests becomes is one of the requests with a number. -/
theorem exists_of_mem_numberAll {call : Call Nat} {next : Nat} {rs : List Request}
    (h : call ∈ numberAll next rs) : ∃ r ∈ rs, ∃ number, call = r.numbered number := by
  induction rs generalizing next with
  | nil => cases h
  | cons r rs ih =>
    rw [numberAll] at h
    rcases List.mem_cons.mp h with rfl | hrest
    · exact ⟨r, List.mem_cons_self, next, rfl⟩
    · obtain ⟨r', hr', hcall⟩ := ih hrest
      exact ⟨r', List.mem_cons_of_mem r hr', hcall⟩

end Surface

namespace Scene

/-- The surface `t` comes from `s` by clearing it and by what commands of the script ask for. -/
def Reaches (scene : Scene) (script : Script) (s t : Surface) : Prop :=
  ∃ rs, t = s.drawAll rs ∧ ∀ r ∈ rs, r = .clearAll ∨ r ∈ scene.requests script script.commands

/-- The playback `q` has the script of `p` and comes from it by playing. -/
structure PlaysTo (scene : Scene) (p q : Playback) : Prop where
  script : q.script = p.script
  reaches : scene.Reaches p.script p.surface q.surface

variable {scene : Scene} {script : Script} {s t u : Surface} {p q : Playback}

theorem Reaches.refl (s : Surface) : scene.Reaches script s s := ⟨[], rfl, List.forall_mem_nil _⟩

theorem Reaches.trans (hst : scene.Reaches script s t) (htu : scene.Reaches script t u) :
    scene.Reaches script s u := by
  obtain ⟨rs, rfl, hrs⟩ := hst
  obtain ⟨rs', rfl, hrs'⟩ := htu
  exact ⟨rs ++ rs', (s.drawAll_append rs rs').symm, List.forall_mem_append.mpr ⟨hrs, hrs'⟩⟩

theorem reaches_clear (s : Surface) : scene.Reaches script s (s.draw .clearAll) :=
  ⟨[.clearAll], rfl, by simp⟩

theorem reaches_requests (s : Surface) {cs : List Command} (hcs : cs ⊆ script.commands) :
    scene.Reaches script s (s.drawAll (scene.requests script cs)) := by
  refine ⟨_, rfl, fun r hr => .inr ?_⟩
  obtain ⟨c, hc, hcall⟩ := List.mem_filterMap.mp hr
  exact List.mem_filterMap.mpr ⟨c, hcs hc, hcall⟩

theorem act_reaches (index : Nat) {e : Entry} (he : e ∈ script.entries) (s : Surface) :
    scene.Reaches script s (scene.act script index e s).surface := by
  rw [act_surface]
  refine reaches_requests s fun c hc => ?_
  rw [List.mem_singleton.mp hc]
  exact List.mem_map_of_mem he

theorem PlaysTo.refl (p : Playback) : scene.PlaysTo p p := ⟨rfl, .refl p.surface⟩

theorem PlaysTo.trans {r : Playback} (hpq : scene.PlaysTo p q) (hqr : scene.PlaysTo q r) :
    scene.PlaysTo p r :=
  ⟨hqr.script.trans hpq.script, hpq.reaches.trans (hpq.script ▸ hqr.reaches)⟩

theorem clearAtStart_playsTo (p : Playback) : scene.PlaysTo p p.clearAtStart := by
  refine ⟨p.clearAtStart_script, ?_⟩
  rw [Playback.clearAtStart]
  split
  · exact reaches_clear p.surface
  · exact .refl p.surface

theorem play_playsTo (i : Interruption) (elapsed : Nat) {es : List Entry}
    (hes : es ⊆ p.script.entries) : scene.PlaysTo p (scene.play i elapsed p es).next := by
  induction es generalizing elapsed p with
  | nil => exact ⟨rfl, .refl p.surface⟩
  | cons e es ih =>
    obtain ⟨he, hrest⟩ := List.cons_subset.mp hes
    let act := scene.act p.script p.cursor e p.surface
    let next : Playback :=
      { p.advance act with stopRequested := i.stops elapsed act.settle }
    have hact : scene.Reaches p.script p.surface act.surface := act_reaches p.cursor he p.surface
    have hnext : scene.PlaysTo p next := ⟨rfl, hact⟩
    rw [play]
    split
    · exact ⟨rfl, .refl p.surface⟩
    · dsimp only
      split
      · exact ⟨rfl, hact⟩
      · exact hnext.trans (ih (elapsed + act.settle) hrest)

theorem run_playsTo (i : Interruption) (p : Playback) : scene.PlaysTo p (scene.run i p).next := by
  rw [run]
  split
  · exact .refl p
  · let opened : Playback := { p.clearAtStart with state := .running, stopRequested := false }
    have hopened : scene.PlaysTo p opened := (clearAtStart_playsTo p).trans ⟨rfl, .refl _⟩
    refine hopened.trans (play_playsTo i 0 ?_)
    rw [hopened.script]
    exact List.drop_subset p.cursor p.script.entries

theorem stepForward_playsTo (p : Playback) : scene.PlaysTo p (scene.stepForward p).next := by
  rw [stepForward]
  split
  · exact .refl p
  · next e he =>
    let opened : Playback := { p.clearAtStart with state := .idle }
    have hopened : scene.PlaysTo p opened := (clearAtStart_playsTo p).trans ⟨rfl, .refl _⟩
    have hmem : e ∈ opened.script.entries := hopened.script ▸ List.mem_of_getElem? he
    exact hopened.trans ⟨rfl, act_reaches opened.cursor hmem opened.surface⟩

theorem stepBackward_playsTo (p : Playback) : scene.PlaysTo p (scene.stepBackward p).next := by
  by_cases hp : p.cursor = 0
  · rw [scene.stepBackward_of_zero hp]
    exact .refl p
  · rw [scene.stepBackward_next (Nat.pos_of_ne_zero hp)]
    exact ⟨rfl, (reaches_clear p.surface).trans (reaches_requests _ (List.take_subset _ _))⟩

theorem perform_playsTo {o : Operation} (ho : o.loads = false) (p : Playback) :
    scene.PlaysTo p (scene.perform p o).next := by
  cases o with
  | load script => cases ho
  | run i => exact run_playsTo i p
  | stepForward => exact stepForward_playsTo p
  | stepBackward => exact stepBackward_playsTo p
  | stop => exact ⟨rfl, .refl p.surface⟩
  | restart => exact ⟨rfl, reaches_clear p.surface⟩
  | requestStop => exact ⟨rfl, .refl p.surface⟩
  | withdrawStop => exact ⟨rfl, .refl p.surface⟩

theorem performAll_playsTo {operations : List Operation} (h : ∀ o ∈ operations, o.loads = false)
    (p : Playback) : scene.PlaysTo p (scene.performAll p operations).next := by
  induction operations generalizing p with
  | nil => exact .refl p
  | cons o os ih =>
    obtain ⟨ho, hos⟩ := List.forall_mem_cons.mp h
    exact (perform_playsTo ho p).trans (ih hos _)

/-- What a command fills is one of the fills of the legend, though the territory can have another
name. -/
theorem exists_fill_of_call? {c : Command} {name color : String} {fill : Fill}
    (h : scene.call? script c = some (.drawTerritory name color fill)) :
    ∃ called token, c.fill? = some (called, token) ∧
      color = scene.config.resolveColor (some token) := by
  have hkeyword := keyword_mem_of_call? h
  have hrequest := request?_of_call? h
  cases c with
  | country called token animation =>
    obtain ⟨t, -, ht⟩ := bind_eq_ok.mp hrequest
    cases ht
    exact ⟨called, token, rfl, rfl⟩
  | region called parent token animation occupied =>
    obtain ⟨t, -, ht⟩ := bind_eq_ok.mp hrequest
    cases ht
    exact ⟨called, token, rfl, rfl⟩
  | _ => simp [Call.keywords, Command.keyword] at hkeyword

/-- A territory that is filled on the way has a color of the legend. -/
theorem Reaches.exists_fill (h : scene.Reaches script s t) :
    ∃ calls, t.calls = s.calls ++ calls ∧
      ∀ name color fill, .drawTerritory name color fill ∈ calls →
        ∃ called, (called, color) ∈ Legend.fills scene.config script.commands := by
  obtain ⟨rs, rfl, hrs⟩ := h
  refine ⟨_, Surface.calls_drawAll s rs, fun name color fill hcall => ?_⟩
  obtain ⟨r, hr, number, hnumbered⟩ := Surface.exists_of_mem_numberAll hcall
  have hdraw : r = .drawTerritory name color fill := by
    cases r <;> cases hnumbered
    rfl
  have hrequest : r ∈ scene.requests script script.commands := by
    rcases hrs r hr with hclear | hrequest
    · rw [hclear] at hdraw
      cases hdraw
    · exact hrequest
  obtain ⟨c, hc, hcalls⟩ := List.mem_filterMap.mp hrequest
  obtain ⟨called, token, hfill, rfl⟩ := exists_fill_of_call? (hdraw ▸ hcalls)
  exact ⟨called, Script.mem_fills_of_mem_commands hc hfill⟩

/-- The legend has one entry for each color in which the script fills territories, in the order in
which the colors first come, and an entry lists the names filled in its color, each once. Whatever
is done with the script, its commands fill territories in colors that have an entry. -/
theorem legend_partitions_fills (scene : Scene) (script : Script) :
    let fills := Legend.fills scene.config script.commands
    let entries := script.legend scene.config
    (entries.map (·.color)).Nodup ∧
    entries.map (·.color) = (fills.map (·.2)).eraseDups ∧
    (∀ e ∈ entries, e.label =
      ", ".intercalate ((Legend.named fills e.color).eraseDupsBy sameIgnoringCase)) ∧
    ∀ (p : Playback) (operations : List Operation), (∀ o ∈ operations, o.loads = false) →
      ∃ calls, (scene.performAll (p.load script).next operations).next.surface.calls =
          p.surface.calls ++ calls ∧
        ∀ name color fill, .drawTerritory name color fill ∈ calls →
          entries.countP (·.color = color) = 1 := by
  intro fills entries
  have hcolors : entries.map (·.color) = (fills.map (·.2)).eraseDups :=
    Script.map_color_legend scene.config script
  refine ⟨hcolors ▸ nodup_eraseDups _, hcolors, ?_, ?_⟩
  · intro e he
    rw [show entries = _ from Script.legend_eq_map scene.config script] at he
    obtain ⟨color, -, rfl⟩ := List.mem_map.mp he
    rfl
  · intro p operations h
    have hplays : scene.PlaysTo (p.load script).next _ := performAll_playsTo h _
    obtain ⟨calls, hcalls, hfills⟩ := hplays.reaches.exists_fill
    refine ⟨calls, hcalls, fun name color fill hcall => ?_⟩
    obtain ⟨called, hfill⟩ := hfills name color fill hcall
    have hone : entries.filter (·.color = color) = [_] := Script.filter_legend hfill
    rw [List.countP_eq_length_filter, hone]
    rfl

/-- Armenia is filled in a color that the script names in three ways. -/
theorem legend_partitions_fills_three_ways :
    let armenia : Country := ⟨⟨"Armenia", none, []⟩, "armenia", "", ""⟩
    let scene : Scene := ⟨.standard, { Atlas.empty .standard with countries := [armenia] }⟩
    let script : Script := ⟨[⟨0, .country "armenia" "orange" .none⟩,
      ⟨1, .country "azerbaijan" "blue" .none⟩,
      ⟨2, .region "Artsakh" "Azerbaijan" "#ffa502" .none true⟩,
      ⟨3, .country "Armenia" "Orange" .pulse⟩], []⟩
    let operations : List Operation := [.run .none, .stepBackward]
    let calls :=
      (scene.performAll (Playback.initial.load script).next operations).next.surface.calls
    (∀ o ∈ operations, o.loads = false) ∧
      script.legend scene.config = [⟨"armenia, Artsakh", "#ffa502"⟩, ⟨"azerbaijan", "#3742fa"⟩] ∧
      .drawTerritory "Armenia" "#ffa502" (.solid .pulse) ∈ calls ∧
      (script.legend scene.config).countP (·.color = "#ffa502") = 1 := by
  intro armenia scene script operations calls
  have hoperations : ∀ o ∈ operations, o.loads = false := by decide
  obtain ⟨-, -, -, hplayed⟩ := scene.legend_partitions_fills script
  obtain ⟨drawn, hdrawn, hone⟩ := hplayed .initial operations hoperations
  have hmem : .drawTerritory "Armenia" "#ffa502" (.solid .pulse) ∈ calls := by decide +kernel
  have hnew : calls = drawn := hdrawn
  exact ⟨hoperations, by decide +kernel, hmem, hone _ _ _ (hnew ▸ hmem)⟩

end Scene

end ScriptedMap
