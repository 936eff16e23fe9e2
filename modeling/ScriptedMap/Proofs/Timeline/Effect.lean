import ScriptedMap.Proofs.Config.Reader
import ScriptedMap.Proofs.Script.Diagnostic
import ScriptedMap.Proofs.Script.Form
import ScriptedMap.Timeline.Playback

namespace ScriptedMap

namespace Written

variable (lat lng : Number) (name : EffectName)

/-- The line for an effect at a place, with all else left out. -/
def effectLine : List Char :=
  "effect: ".toList ++ lat.text ++ ", ".toList ++ lng.text ++ ", ".toList ++ name.text

theorem ofLine?_effectLine :
    Command.ofLine? (effectLine lat lng name) =
      some (.effect (place lat lng) (lowercase (String.ofList name.text)) "red" 1) := by
  let form : Form := .effect lat lng name none
  have hspells : asciiLower "effect".toList = "effect".toList := by decide
  let word : Word form.keyword := ⟨"effect".toList, hspells⟩
  let segments : List (List Char) := [' ' :: lat.text, ' ' :: lng.text, ' ' :: name.text]
  have hpadded (t : List Char) : Field.Padded t (' ' :: t) :=
    ⟨[' '], [], by decide, allBlank_nil, by simp⟩
  have hsegments : List.Forall₂ (fun f s => Field.Padded f.written s) form.fields segments :=
    .cons (hpadded _) (.cons (hpadded _) (.cons (hpadded _) .nil))
  have hhead : Field.Padded word.text "effect".toList :=
    ⟨[], [], allBlank_nil, allBlank_nil, by simp [word]⟩
  have hjoined (e a b c : List Char) : e ++ [':', ' '] ++ a ++ [',', ' '] ++ b ++ [',', ' '] ++ c =
      e ++ ':' :: [','].intercalate [' ' :: a, ' ' :: b, ' ' :: c] := by
    simp [List.intercalate]
  have hline : effectLine lat lng name = "effect".toList ++ ':' :: [','].intercalate segments :=
    hjoined "effect".toList lat.text lng.text name.text
  have hfields := Form.fields?_of_padded hsegments
  rw [hline, word.ofLine?_eq form.keyword_eq hhead, Form.ofArguments?_of_fields hfields]
  rfl

def one : Number := ⟨⟨"1".toList, by decide, List.all_eq_true.mp (by decide)⟩, false⟩

def two : Number := ⟨⟨"2".toList, by decide, List.all_eq_true.mp (by decide)⟩, false⟩

def flag : EffectName :=
  ⟨"flag".toList, by decide, fun c hc => .inl (List.all_eq_true.mp (by decide) c hc)⟩

/-- A name with a capital, which its line allows. -/
def tank : EffectName :=
  ⟨"Tank".toList, by decide, fun c hc => .inl (List.all_eq_true.mp (by decide) c hc)⟩

end Written

/-- From `s` the surface has received one marker more, the symbol of an effect with this label. -/
def Surface.PlacesSymbol (label : String) (s t : Surface) : Prop :=
  ∃ effect color scale place,
    t.calls = s.calls ++
      [.placeMarker s.nextMarker (.symbol effect label color scale) place .center] ∧
    t.markers = s.markers ++ [(s.nextMarker, .symbol effect label color scale)]

namespace Scene

variable {scene : Scene} {script : Script} {e : Entry} {place : Point} {name color : String}
  {size : Binary64}

theorem act_effect_of_none (he : e.command = .effect place name color size)
    (h : scene.config.effects.get? name = none) (index : Nat) (s : Surface) :
    (scene.act script index e s).surface = s := by
  rw [act, he, request?, effect, h]
  rfl

theorem act_effect_of_some (he : e.command = .effect place name color size) {kind : EffectKind}
    (h : scene.config.effects.get? name = some kind) (index : Nat) (s : Surface) :
    (scene.act script index e s).surface =
      s.draw (.placeMarker () (.symbol name kind.label (scene.color color)
        (size.clamp symbolScales.1 symbolScales.2)) place .center) := by
  rw [act, he, request?, effect, h]
  rfl

/-- An effect places the symbol of the entry that the catalog has under its name,
and of no other. -/
theorem placesSymbol_act_iff (he : e.command = .effect place name color size) (label : String)
    (index : Nat) (s : Surface) :
    s.PlacesSymbol label (scene.act script index e s).surface ↔
      ∃ kind, scene.config.effects.get? name = some kind ∧ kind.label = label := by
  cases h : scene.config.effects.get? name with
  | none =>
    rw [act_effect_of_none he h]
    simp [Surface.PlacesSymbol]
  | some kind =>
    rw [act_effect_of_some he h]
    constructor
    · intro hplaced
      obtain ⟨_, _, _, _, hcalls, -⟩ := hplaced
      have hcall := List.append_cancel_left hcalls
      cases hcall
      exact ⟨kind, rfl, rfl⟩
    · intro hkind
      obtain ⟨_, hsome, rfl⟩ := hkind
      cases hsome
      exact ⟨name, _, _, place, rfl, rfl⟩

/-- The line of an effect of the catalog gives a command for its name in lower case. The diagnostics
miss an effect exactly if the catalog has none of this name, and the command places a symbol with
the label of the effect exactly if one of this name has the same label. Both are well for a name in
lower case. -/
theorem catalog_effect_iff {text : String} {config : Config}
    (hread : Config.ofText? text = some config) {name : Written.EffectName} {kind : EffectKind}
    (h : (String.ofList name.text, kind) ∈ config.effects) (lat lng : Written.Number) :
    let key := lowercase (String.ofList name.text)
    let command := Command.effect (Written.place lat lng) key "red" 1
    Command.ofLine? (Written.effectLine lat lng name) = some command ∧
    (∀ (script : Script), ∀ e ∈ script.entries, e.command = command →
      (⟨e.line, .unknownEffect key⟩ ∉ config.check script ↔ key ∈ config.effects.names)) ∧
    (∀ (atlas : Atlas) (script : Script) (index : Nat) (e : Entry) (s : Surface),
      e.command = command →
        (s.PlacesSymbol kind.label (Scene.act ⟨config, atlas⟩ script index e s).surface ↔
        ∃ other, (key, other) ∈ config.effects ∧ other.label = kind.label)) ∧
    (key = String.ofList name.text →
      (key, kind) ∈ config.effects ∧ key ∈ config.effects.names) := by
  intro key command
  have heffects := (Config.hasNodupNames_of_ofText? hread).effects
  refine ⟨Written.ofLine?_effectLine lat lng name, ?_, ?_, ?_⟩
  · intro script e he hcommand
    rw [Config.unknownEffect_mem_check_iff, ← not_iff_comm, ← Table.get?_eq_none_iff]
    constructor
    · intro hnone
      exact ⟨e, he, rfl, _, _, _, hcommand, hnone⟩
    · intro hreported
      obtain ⟨_, _, _, _, _, _, _, hnone⟩ := hreported
      exact hnone
  · intro atlas script index e s hcommand
    rw [placesSymbol_act_iff hcommand]
    simp only [Table.get?_eq_some_iff heffects]
  · intro hlower
    rw [hlower]
    exact ⟨h, Table.mem_names_of_mem h⟩

theorem catalog_effect_iff_flag :
    let v : Json := .object [("effects", .object [("flag", .object
      [("label", .text "Claim"), ("category", .text "political")])])]
    let e : Entry := ⟨0, .effect ⟨2, 1⟩ "flag" "red" 1⟩
    ∃ config, Config.ofText? v.compact = some config ∧
      Command.ofLine? "effect: 1, 2, flag".toList = some e.command ∧
      ⟨0, .unknownEffect "flag"⟩ ∉ config.check ⟨[e], []⟩ ∧
      ∀ (script : Script) (s : Surface),
        s.PlacesSymbol "Claim" (act ⟨config, .empty config⟩ script 0 e s).surface := by
  intro v e
  let config : Config := { Config.standard with effects := [("flag", ⟨"Claim", "political"⟩)] }
  have hread : Config.ofText? v.compact = some config := (Config.ofText?_compact rfl).trans rfl
  let kind : EffectKind := ⟨"Claim", "political"⟩
  have hflag : (String.ofList Written.flag.text, kind) ∈ config.effects := List.mem_cons_self
  have hlower : lowercase (String.ofList Written.flag.text) = "flag" := by decide +kernel
  have hplace : Written.place Written.one Written.two = ⟨2, 1⟩ := by decide +kernel
  obtain ⟨hline, hchecked, hplaced, hsame⟩ := catalog_effect_iff hread hflag Written.one Written.two
  rw [hlower, hplace] at hline hchecked hplaced
  rw [hlower] at hsame
  obtain ⟨hentry, hname⟩ := hsame rfl
  refine ⟨config, hread, hline, ?_, fun script s => ?_⟩
  · exact (hchecked ⟨[e], []⟩ e List.mem_cons_self rfl).mpr hname
  · exact (hplaced (.empty config) script 0 e s rfl).mpr ⟨_, hentry, rfl⟩

/-- Not every effect of a catalog that is read can be placed by a line that names it. -/
theorem not_catalog_effect :
    ¬ ∀ (text : String) (config : Config), Config.ofText? text = some config →
      ∀ (name : Written.EffectName) (kind : EffectKind),
        (String.ofList name.text, kind) ∈ config.effects →
      ∀ lat lng : Written.Number, ∃ command,
        Command.ofLine? (Written.effectLine lat lng name) = some command ∧
        (∀ unknown, ⟨0, .unknownEffect unknown⟩ ∉ config.check ⟨[⟨0, command⟩], []⟩) ∧
        ∀ (atlas : Atlas) (script : Script) (s : Surface),
          s.PlacesSymbol kind.label (act ⟨config, atlas⟩ script 0 ⟨0, command⟩ s).surface := by
  intro h
  let v : Json := .object [("effects", .object [("Tank", .object
    [("label", .text "Armor"), ("category", .text "military")])])]
  let config : Config := { Config.standard with effects := [("Tank", ⟨"Armor", "military"⟩)] }
  have hread : Config.ofText? v.compact = some config := (Config.ofText?_compact rfl).trans rfl
  obtain ⟨command, hline, hchecked, -⟩ :=
    h v.compact config hread Written.tank ⟨"Armor", "military"⟩ List.mem_cons_self
      Written.one Written.two
  rw [Written.ofLine?_effectLine] at hline
  cases hline
  exact hchecked "tank" (by decide +kernel)

end Scene

end ScriptedMap
