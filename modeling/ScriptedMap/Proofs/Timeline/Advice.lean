import Mathlib.Data.List.Sort
import ScriptedMap.Proofs.Attempt
import ScriptedMap.Proofs.Script.Diagnostic
import ScriptedMap.Proofs.Timeline.Dispatch

namespace ScriptedMap

namespace Scene

variable (scene : Scene) (script : Script)

/-- Playing a script through tells of each command that is skipped and of no other. -/
theorem filter_isSkipped_playThrough :
    (Invocation.playThrough scene script).events.filter Event.isSkipped =
      script.entries.zipIdx.flatMap (scene.skips script) := by
  have hgo : GoesOnTo scene (Playback.initial.load script).next
      (Invocation.playThrough scene script) script.length :=
    scene.run_none_goesOnTo (Nat.zero_le _)
  have htale : (Invocation.playThrough scene script).events.filter Event.ofCommand =
      scene.tale script 0 script.length := hgo.events
  rw [← filter_isSkipped_filter, htale, scene.filter_isSkipped_tale script (Nat.le_refl _),
    Script.length, List.take_length]

theorem playThrough_skips_iff {n : Nat} {e : Entry} (he : script.entries[n]? = some e) :
    (Invocation.playThrough scene script).events.any (Event.skips n) = true ↔
      scene.Misses e.command := by
  rw [any_skips (scene.filter_isSkipped_playThrough script) he, isSkipped_iff_misses]

end Scene

/-- The color is written in the command: behind a territory, a connector, a marker or an entry of
the legend. A label can do without. -/
inductive Command.Carries (token : String) : Command → Prop
  | country {name : String} {animation : Animation} : Carries token (country name token animation)
  | region {name parent : String} {animation : Animation} {occupied : Bool} :
      Carries token (region name parent token animation occupied)
  | line {source target : Endpoint} : Carries token (line source target token)
  | attack {source target : Endpoint} {curve width headSize : Binary64} :
      Carries token (attack source target token curve width headSize)
  | bubble {place : Point} {text : String} : Carries token (bubble place text token)
  | label {place : Point} {text : String} {size : Nat} :
      Carries token (label place text size (some token))
  | arrow {place : Point} {text : String} {direction : Direction} :
      Carries token (arrow place text direction token)
  | effect {place : Point} {name : String} {size : Binary64} :
      Carries token (effect place name token size)
  | legend {label : String} : Carries token (legend (.entry label token))

theorem Command.color?_eq_some_iff {token : String} {c : Command} :
    c.color? = some token ↔ c.Carries token := by
  constructor
  · intro h
    cases c with
    | legend change =>
      cases change <;> cases h
      exact .legend
    | _ => cases h <;> constructor
  · intro h
    cases h <;> rfl

namespace Finding

/-- The finding is due at the command, which is the one after the first `n` of the script. -/
def IsDue (scene : Scene) (script : Script) (n : Nat) (c : Command) : Finding → Prop
  | unknownColor token available =>
    c.Carries token ∧ token.toList.head? ≠ some '#' ∧
      lowercase token ∉ scene.config.palette.names ∧
      available = scene.config.palette.names.take 8
  | recolored name previous =>
    ∃ color animation, c = .country name color animation ∧
      lastColor? (script.entries.take n) (lowercase name) = some previous ∧
      asciiLower previous.toList ≠ asciiLower color.toList
  | unknownEffect name =>
    ∃ place color size, c = .effect place name color size ∧
      (Invocation.playThrough scene script).events.any (Event.skips n) = true

/-- Findings on one command come in this order. -/
def rank : Finding → Nat
  | unknownColor .. => 0
  | recolored .. => 1
  | unknownEffect _ => 2

end Finding

namespace Config

variable {config : Config} {colors : Table String} {c : Command}

theorem rank_of_mem_colorFindings {f : Finding} (h : f ∈ config.colorFindings c) : f.rank = 0 := by
  obtain ⟨_, -, -, rfl⟩ := mem_colorFindings_iff.mp h
  rfl

theorem rank_pos_of_mem_nameFindings {f : Finding} (h : f ∈ config.nameFindings colors c) :
    0 < f.rank := by
  cases f with
  | unknownColor token available => exact absurd h unknownColor_not_mem_nameFindings
  | recolored name previous => exact Nat.one_pos
  | unknownEffect name => exact Nat.two_pos

theorem pairwise_colorFindings (R : Finding → Finding → Prop) :
    (config.colorFindings c).Pairwise R := by
  rw [colorFindings]
  cases c.color? with
  | none => exact .nil
  | some token => cases h : config.isKnownColor token <;> simp [h]

theorem pairwise_nameFindings (R : Finding → Finding → Prop) :
    (config.nameFindings colors c).Pairwise R := by
  cases c with
  | country name color animation =>
    rw [nameFindings]
    cases colors.get? (lowercase name) with
    | none => exact .nil
    | some previous => cases h : sameIgnoringCase previous color <;> simp [h]
  | effect place name color size =>
    rw [nameFindings]
    cases config.effects.get? name <;> simp
  | _ => exact .nil

theorem pairwise_findings : (config.findings colors c).Pairwise (·.rank < ·.rank) := by
  rw [findings_eq_append, List.pairwise_append]
  refine ⟨pairwise_colorFindings _, pairwise_nameFindings _, ?_⟩
  intro f hf g hg
  rw [rank_of_mem_colorFindings hf]
  exact rank_pos_of_mem_nameFindings hg

end Config

namespace Scene

/-- The diagnostics are those that are due at a numbered entry of the script, each once and in
order. -/
structure Advises (scene : Scene) (script : Script) (numbered : Entry × Nat)
    (diagnostics : List Diagnostic) : Prop where
  order : diagnostics.Pairwise (·.finding.rank < ·.finding.rank)
  due : ∀ d, d ∈ diagnostics ↔
    d.line = numbered.1.line ∧ d.finding.IsDue scene script numbered.2 numbered.1.command

section Entry

variable {scene : Scene} {script : Script} {colors : Table String} {n : Nat} {e : Entry}
  (hcolors : Config.HoldsColors colors (script.entries.take n))
  (he : script.entries[n]? = some e)

include hcolors he

theorem mem_findings_iff (f : Finding) :
    f ∈ scene.config.findings colors e.command ↔ f.IsDue scene script n e.command := by
  rw [Config.findings_eq_append, List.mem_append]
  cases f with
  | unknownColor token available =>
    rw [or_iff_left Config.unknownColor_not_mem_nameFindings,
      Config.unknownColor_mem_colorFindings_iff, Config.isKnownColor_eq_false_iff,
      Command.color?_eq_some_iff, and_assoc]
    rfl
  | recolored name previous =>
    have hnot : .recolored name previous ∉ scene.config.colorFindings e.command :=
      mt Config.rank_of_mem_colorFindings Nat.one_ne_zero
    rw [or_iff_right hnot, Config.recolored_mem_nameFindings_iff, hcolors]
    rfl
  | unknownEffect name =>
    have hnot : .unknownEffect name ∉ scene.config.colorFindings e.command :=
      mt Config.rank_of_mem_colorFindings (Nat.succ_ne_zero 1)
    rw [or_iff_right hnot, Config.unknownEffect_mem_nameFindings_iff, Finding.IsDue,
      scene.playThrough_skips_iff script he]
    constructor
    · intro h
      obtain ⟨place, color, size, hc, hget⟩ := h
      exact ⟨place, color, size, hc, hc ▸ hget⟩
    · intro h
      obtain ⟨place, color, size, hc, hmisses⟩ := h
      rw [hc] at hmisses
      exact ⟨place, color, size, hc, hmisses⟩

theorem advises_findings :
    scene.Advises script (e, n)
      ((scene.config.findings colors e.command).map (Diagnostic.mk e.line)) := by
  constructor
  case order => exact List.pairwise_map.mpr Config.pairwise_findings
  case due =>
    intro d
    rw [List.mem_map, ← mem_findings_iff hcolors he]
    constructor
    · intro h
      obtain ⟨f, hf, rfl⟩ := h
      exact ⟨rfl, hf⟩
    · intro h
      obtain ⟨hline, hf⟩ := h
      exact ⟨d.finding, hf, by rw [← hline]⟩

end Entry

/-- What is left of a script is gone through entry by entry, with the colors that the entries before
have given. -/
theorem advises_diagnose (scene : Scene) (script : Script) {n : Nat} {es : List Entry}
    {colors : Table String} (hes : script.entries.drop n = es)
    (hcolors : Config.HoldsColors colors (script.entries.take n)) :
    ∃ parts, scene.config.diagnose colors es = parts.flatten ∧
      List.Forall₂ (scene.Advises script) (es.zipIdx n) parts := by
  induction es generalizing n colors with
  | nil => exact ⟨[], rfl, .nil⟩
  | cons e es ih =>
    have he : script.entries[n]? = some e := by
      rw [← List.head?_drop, hes, List.head?_cons]
    have hdrop : script.entries.drop (n + 1) = es := by
      rw [← List.drop_drop, hes, List.drop_one, List.tail_cons]
    have htake : script.entries.take (n + 1) = script.entries.take n ++ [e] := by
      rw [List.take_add_one, he, Option.toList_some]
    obtain ⟨parts, hparts, hrest⟩ := ih hdrop (htake ▸ hcolors.recolor e)
    refine ⟨_ :: parts, ?_, .cons (advises_findings hcolors he) hrest⟩
    rw [Config.diagnose, hparts, List.flatten_cons]

theorem advises_rightUnique (scene : Scene) (script : Script) :
    Relator.RightUnique (scene.Advises script) := by
  intro numbered ds ds' h h'
  have hirrefl : Std.Irrefl fun d d' : Diagnostic => d.finding.rank < d'.finding.rank :=
    ⟨fun d => Nat.lt_irrefl d.finding.rank⟩
  have hantisymm : Std.Antisymm fun d d' : Diagnostic => d.finding.rank < d'.finding.rank :=
    ⟨fun _ _ hlt hgt => absurd hgt (Nat.lt_asymm hlt)⟩
  exact h.order.eq_of_mem_iff h'.order fun d => (h.due d).trans (h'.due d).symm

/-- The diagnostics of a script are, entry by entry, exactly those that are due at each. -/
theorem check_eq_iff (scene : Scene) (script : Script) (ds : List Diagnostic) :
    scene.config.check script = ds ↔
      ∃ parts, ds = parts.flatten ∧
        List.Forall₂ (scene.Advises script) script.entries.zipIdx parts := by
  have hcheck := advises_diagnose scene script List.drop_zero Config.holdsColors_nil
  obtain ⟨parts, hparts, hadvises⟩ := hcheck
  constructor
  · intro h
    exact ⟨parts, h.symm.trans hparts, hadvises⟩
  · intro h
    obtain ⟨parts', hparts', hadvises'⟩ := h
    have hsame : parts = parts' := (advises_rightUnique scene script).forall₂ hadvises hadvises'
    rw [hparts', ← hsame]
    exact hparts

/-- A color that is not known, the country given another one, and an effect that is not in the
catalog. The third line gives the country the color it has. -/
def slips : String := "France: bleu\nfrance: red\nFRANCE: RED\neffect: 1, 2, dragon"

theorem check_eq_iff_slips :
    let scene : Scene := ⟨.standard, .empty .standard⟩
    let script := Script.ofText slips
    let ds : List Diagnostic :=
      [⟨0, .unknownColor "bleu"
        ["red", "orange", "yellow", "gold", "green", "blue", "cyan", "purple"]⟩,
       ⟨1, .recolored "france" "bleu"⟩, ⟨3, .unknownEffect "dragon"⟩]
    scene.config.check script = ds ∧ ∀ d ∈ ds, ∃ numbered ∈ script.entries.zipIdx,
      d.line = numbered.1.line ∧ d.finding.IsDue scene script numbered.2 numbered.1.command := by
  intro scene script ds
  have hcheck : scene.config.check script = ds := by decide +kernel
  obtain ⟨parts, hparts, hadvises⟩ := (check_eq_iff scene script ds).mp hcheck
  refine ⟨hcheck, ?_⟩
  intro d hd
  rw [hparts] at hd
  obtain ⟨part, hpart, hd⟩ := List.mem_flatten.mp hd
  obtain ⟨numbered, hnumbered, hadvice⟩ := exists_of_forall₂ hadvises hpart
  exact ⟨numbered, hnumbered, (hadvice.due d).mp hd⟩

end Scene

end ScriptedMap
