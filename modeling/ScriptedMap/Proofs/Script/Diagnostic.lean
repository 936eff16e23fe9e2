import ScriptedMap.Proofs.Table
import ScriptedMap.Script.Diagnostic

namespace ScriptedMap

/-- The color that a command gives to the country of this name in lower case. -/
def Command.colorGiven? (key : String) : Command → Option String
  | country name color _ => if lowercase name = key then some color else Option.none
  | _ => Option.none

/-- The color that the country of this name in lower case was given last. -/
def lastColor? (entries : List Entry) (key : String) : Option String :=
  (entries.filterMap fun e => e.command.colorGiven? key).getLast?

theorem lastColor?_concat (entries : List Entry) (e : Entry) (key : String) :
    lastColor? (entries ++ [e]) key = (e.command.colorGiven? key).or (lastColor? entries key) := by
  rw [lastColor?, List.filterMap_append, List.getLast?_append]
  cases h : e.command.colorGiven? key <;> simp [h, lastColor?]

namespace Config

theorem get?_recolor (colors : Table String) (c : Command) (key : String) :
    (recolor colors c).get? key = (c.colorGiven? key).or (colors.get? key) := by
  cases c with
  | country name color animation =>
    rw [recolor, Table.get?_insert, Command.colorGiven?]
    by_cases h : key = lowercase name
    · rw [if_pos h, if_pos h.symm, Option.some_or]
    · rw [if_neg h, if_neg (Ne.symm h), Option.none_or]
  | _ => rfl

/-- The table holds the color that each country was given last. -/
def HoldsColors (colors : Table String) (entries : List Entry) : Prop :=
  ∀ key, colors.get? key = lastColor? entries key

theorem holdsColors_nil : HoldsColors [] [] := fun _ => rfl

theorem HoldsColors.recolor {colors : Table String} {entries : List Entry}
    (h : HoldsColors colors entries) (e : Entry) :
    HoldsColors (recolor colors e.command) (entries ++ [e]) := by
  intro key
  rw [get?_recolor, lastColor?_concat, h key]

variable {config : Config} {colors : Table String}

theorem isKnownColor_eq_false_iff {token : String} :
    config.isKnownColor token = false ↔
      token.toList.head? ≠ some '#' ∧ lowercase token ∉ config.palette.names := by
  have hname := not_congr (Table.isSome_get?_iff config.palette (lowercase token))
  rw [isKnownColor, Bool.or_eq_false_iff, beq_eq_false_iff_ne, Bool.eq_false_iff]
  exact and_congr_right' hname

theorem mem_colorFindings_iff {c : Command} {f : Finding} :
    f ∈ config.colorFindings c ↔
      ∃ token, c.color? = some token ∧ config.isKnownColor token = false ∧
        f = .unknownColor token (config.palette.names.take shownColors) := by
  rw [colorFindings]
  cases c.color? with
  | none => simp
  | some token => cases hknown : config.isKnownColor token <;> simp [hknown]

theorem unknownColor_mem_colorFindings_iff {c : Command} {token : String}
    {available : List String} :
    .unknownColor token available ∈ config.colorFindings c ↔
      c.color? = some token ∧ config.isKnownColor token = false ∧
        available = config.palette.names.take shownColors := by
  rw [mem_colorFindings_iff]
  constructor
  · intro h
    obtain ⟨_, hc, hknown, hf⟩ := h
    cases hf
    exact ⟨hc, hknown, rfl⟩
  · intro h
    obtain ⟨hc, hknown, havailable⟩ := h
    exact ⟨token, hc, hknown, by rw [havailable]⟩

/-- The findings on what a command names, other than its color. -/
def nameFindings (config : Config) (colors : Table String) : Command → List Finding
  | .country name color _ =>
    match colors.get? (lowercase name) with
    | none => []
    | some previous => if sameIgnoringCase previous color then [] else [.recolored name previous]
  | .effect _ name _ _ => if (config.effects.get? name).isSome then [] else [.unknownEffect name]
  | _ => []

theorem findings_eq_append (c : Command) :
    config.findings colors c = config.colorFindings c ++ config.nameFindings colors c := by
  cases c <;> rfl

theorem mem_nameFindings_country_iff {name color : String} {animation : Animation} {f : Finding} :
    f ∈ config.nameFindings colors (.country name color animation) ↔
      ∃ previous, colors.get? (lowercase name) = some previous ∧
        asciiLower previous.toList ≠ asciiLower color.toList ∧ f = .recolored name previous := by
  rw [nameFindings]
  cases colors.get? (lowercase name) with
  | none => simp
  | some previous => by_cases h : asciiLower previous.toList = asciiLower color.toList <;>
      simp [sameIgnoringCase, h]

theorem mem_nameFindings_effect_iff {place : Point} {name color : String} {size : Binary64}
    {f : Finding} :
    f ∈ config.nameFindings colors (.effect place name color size) ↔
      config.effects.get? name = none ∧ f = .unknownEffect name := by
  rw [nameFindings]
  cases config.effects.get? name <;> simp

theorem unknownColor_not_mem_nameFindings {c : Command} {token : String} {available : List String} :
    .unknownColor token available ∉ config.nameFindings colors c := by
  cases c with
  | country name color animation => simp [mem_nameFindings_country_iff]
  | effect place name color size => simp [mem_nameFindings_effect_iff]
  | _ => simp [nameFindings]

theorem recolored_mem_nameFindings_iff {c : Command} {name previous : String} :
    .recolored name previous ∈ config.nameFindings colors c ↔
      ∃ color animation, c = .country name color animation ∧
        colors.get? (lowercase name) = some previous ∧
        asciiLower previous.toList ≠ asciiLower color.toList := by
  cases c with
  | country n color animation =>
    rw [mem_nameFindings_country_iff]
    constructor
    · intro h
      obtain ⟨_, hget, hcase, hf⟩ := h
      cases hf
      exact ⟨color, animation, rfl, hget, hcase⟩
    · intro h
      obtain ⟨_, _, hc, hget, hcase⟩ := h
      cases hc
      exact ⟨previous, hget, hcase, rfl⟩
  | effect place name color size => simp [mem_nameFindings_effect_iff]
  | _ => simp [nameFindings]

theorem unknownEffect_mem_nameFindings_iff {c : Command} {name : String} :
    .unknownEffect name ∈ config.nameFindings colors c ↔
      ∃ place color size, c = .effect place name color size ∧
        config.effects.get? name = none := by
  cases c with
  | country n color animation => simp [mem_nameFindings_country_iff]
  | effect place n color size =>
    rw [mem_nameFindings_effect_iff]
    constructor
    · intro h
      obtain ⟨hget, hf⟩ := h
      cases hf
      exact ⟨place, color, size, rfl, hget⟩
    · intro h
      obtain ⟨_, _, _, hc, hget⟩ := h
      cases hc
      exact ⟨hget, rfl⟩
  | _ => simp [nameFindings]

/-- What commands are advised against for whatever the colors of the countries are, a script is
advised against for where such a command stands. -/
theorem mem_diagnose_iff {f : Finding} {P : Command → Prop}
    (hf : ∀ colors c, f ∈ config.findings colors c ↔ P c) (colors : Table String) (es : List Entry)
    (line : Nat) :
    ⟨line, f⟩ ∈ config.diagnose colors es ↔ ∃ e ∈ es, e.line = line ∧ P e.command := by
  induction es generalizing colors with
  | nil => simp [diagnose]
  | cons e es ih =>
    have hfirst : ⟨line, f⟩ ∈ (config.findings colors e.command).map (Diagnostic.mk e.line) ↔
        e.line = line ∧ P e.command := by
      rw [← hf colors e.command, List.mem_map]
      constructor
      · intro h
        obtain ⟨_, hmem, heq⟩ := h
        cases heq
        exact ⟨rfl, hmem⟩
      · intro h
        obtain ⟨rfl, hmem⟩ := h
        exact ⟨f, hmem, rfl⟩
    rw [diagnose, List.mem_append, hfirst, ih]
    simp

theorem unknownColor_mem_check_iff {script : Script} {line : Nat} {token : String}
    {available : List String} :
    ⟨line, .unknownColor token available⟩ ∈ config.check script ↔
      ∃ e ∈ script.entries, e.line = line ∧ e.command.color? = some token ∧
        config.isKnownColor token = false ∧ available = config.palette.names.take shownColors := by
  have hfindings (colors : Table String) (c : Command) :
      .unknownColor token available ∈ config.findings colors c ↔ c.color? = some token ∧
        config.isKnownColor token = false ∧ available = config.palette.names.take shownColors := by
    rw [findings_eq_append, List.mem_append, or_iff_left unknownColor_not_mem_nameFindings,
      unknownColor_mem_colorFindings_iff]
  exact mem_diagnose_iff hfindings [] script.entries line

theorem unknownEffect_mem_check_iff {script : Script} {line : Nat} {name : String} :
    ⟨line, .unknownEffect name⟩ ∈ config.check script ↔
      ∃ e ∈ script.entries, e.line = line ∧ ∃ place color size,
        e.command = .effect place name color size ∧ config.effects.get? name = none := by
  have hfindings (colors : Table String) (c : Command) :
      .unknownEffect name ∈ config.findings colors c ↔ ∃ place color size,
        c = .effect place name color size ∧ config.effects.get? name = none := by
    have hcolor : .unknownEffect name ∉ config.colorFindings c := by simp [mem_colorFindings_iff]
    rw [findings_eq_append, List.mem_append, or_iff_right hcolor,
      unknownEffect_mem_nameFindings_iff]
  exact mem_diagnose_iff hfindings [] script.entries line

end Config

end ScriptedMap
