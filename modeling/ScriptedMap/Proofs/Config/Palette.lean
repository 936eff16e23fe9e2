import ScriptedMap.Proofs.Config.Reader
import ScriptedMap.Proofs.Script.Diagnostic
import ScriptedMap.Proofs.Text.Folding

namespace ScriptedMap.Config

variable {config : Config} {name value token : String}

/-- Where no two names of a palette are the same in lower case, it has the lower case of a name only
if the name is in lower case. -/
theorem lowercase_mem_names_iff (hnames : (config.palette.names.map lowercase).Nodup)
    (h : name ∈ config.palette.names) :
    lowercase name ∈ config.palette.names ↔ lowercase name = name := by
  constructor
  · intro hlower
    -- the lower case of the name would be a second name
    exact List.inj_on_of_nodup_map hnames hlower h (lowercase_lowercase name)
  · intro hsame
    rwa [hsame]

theorem get?_palette_lowercase (hnames : (config.palette.names.map lowercase).Nodup)
    (h : (name, value) ∈ config.palette) :
    config.palette.get? (lowercase name) = if lowercase name = name then some value else none := by
  split
  · next hsame =>
    rw [hsame]
    exact (Table.get?_eq_some_iff hnames.of_map).mpr h
  · next hcase =>
    have hmem := lowercase_mem_names_iff hnames (Table.mem_names_of_mem h)
    exact (Table.get?_eq_none_iff _ _).mpr (mt hmem.mp hcase)

/-- A color in any letter case is drawn as the palette says, and passes for known, exactly if the
palette has its name in lower case, or if the color is a code that stands for itself. -/
theorem resolveColor_palette_iff (hnames : (config.palette.names.map lowercase).Nodup)
    (hempty : "" ∉ config.palette.names) (h : (name, value) ∈ config.palette)
    (htoken : lowercase token = lowercase name) :
    config.resolveColor (some token) = value ∧ config.isKnownColor token = true ↔
      lowercase name = name ∨ token = value ∧ token.toList.head? = some '#' := by
  have hname : name ≠ "" := by
    rintro rfl
    exact hempty (Table.mem_names_of_mem h)
  have hne : ¬token.isEmpty = true := by
    rw [String.isEmpty_iff]
    rintro rfl
    exact lowercase_ne_empty hname htoken.symm
  rw [resolveColor, if_neg hne, isKnownColor, htoken, get?_palette_lowercase hnames h]
  split
  · next hsame => simp [hsame]
  · next hcase => simp [hcase]

theorem isKnownColor_name_eq_false_iff (hnames : (config.palette.names.map lowercase).Nodup)
    (h : name ∈ config.palette.names) :
    config.isKnownColor name = false ↔ lowercase name ≠ name ∧ name.toList.head? ≠ some '#' := by
  rw [isKnownColor_eq_false_iff, lowercase_mem_names_iff hnames h, and_comm]

/-- A name of the palette can be used in all letter cases if and only if it is in lower case. If it
is not, and does not look like a code, scripts are advised against it and may be shown the same name
instead. -/
theorem palette_usable_iff (hnames : (config.palette.names.map lowercase).Nodup)
    (hempty : "" ∉ config.palette.names) (h : (name, value) ∈ config.palette) :
    (∀ token, lowercase token = lowercase name →
      (config.resolveColor (some token) = value ∧ config.isKnownColor token = true ↔
        lowercase name = name ∨ token = value ∧ token.toList.head? = some '#')) ∧
    ((∀ token, lowercase token = lowercase name →
      config.resolveColor (some token) = value ∧ config.isKnownColor token = true) ↔
        lowercase name = name) ∧
    ∀ script line available, ⟨line, .unknownColor name available⟩ ∈ config.check script ↔
      (∃ e ∈ script.entries, e.line = line ∧ e.command.color? = some name) ∧
        available = config.palette.names.take shownColors ∧
        lowercase name ≠ name ∧ name.toList.head? ≠ some '#' := by
  have hone (token : String) (htoken : lowercase token = lowercase name) :=
    resolveColor_palette_iff hnames hempty h htoken
  have hlower (hsame : lowercase name = name) (token : String)
      (htoken : lowercase token = lowercase name) :=
    (hone token htoken).mpr (.inl hsame)
  refine ⟨hone, ⟨fun hall => ?_, hlower⟩, ?_⟩
  · by_contra hcase
    have hvalue (token : String) (htoken : lowercase token = lowercase name) : token = value :=
      (((hone token htoken).mp (hall token htoken)).resolve_left hcase).1
    exact hcase ((hvalue _ (lowercase_lowercase name)).trans (hvalue name rfl).symm)
  · intro script line available
    have hunknown := isKnownColor_name_eq_false_iff hnames (Table.mem_names_of_mem h)
    rw [unknownColor_mem_check_iff]
    constructor
    · intro hreported
      obtain ⟨e, he, hline, hcolor, hknown, havailable⟩ := hreported
      exact ⟨⟨e, he, hline, hcolor⟩, havailable, hunknown.mp hknown⟩
    · intro hused
      obtain ⟨⟨e, he, hline, hcolor⟩, havailable, hcase⟩ := hused
      exact ⟨e, he, hline, hcolor, hunknown.mpr hcase, havailable⟩

/-- Red is found in any letter case. Blue is not, and whoever uses it is told that there is blue. -/
theorem palette_usable_iff_two_names :
    let config : Config := { standard with palette := [("red", "#f00"), ("Blue", "#00f")] }
    (∀ token, lowercase token = "red" →
      config.resolveColor (some token) = "#f00" ∧ config.isKnownColor token = true) ∧
    ¬(config.resolveColor (some "Blue") = "#00f" ∧ config.isKnownColor "Blue" = true) ∧
    ⟨7, .unknownColor "Blue" ["red", "Blue"]⟩ ∈
      config.check ⟨[⟨7, .country "France" "Blue" .none⟩], []⟩ := by
  intro config
  have hnames : (config.palette.names.map lowercase).Nodup := by decide +kernel
  have hempty : "" ∉ config.palette.names := by decide
  have hred : lowercase "red" = "red" := by decide +kernel
  have hblue : lowercase "Blue" ≠ "Blue" := by decide +kernel
  have hfirst : ("red", "#f00") ∈ config.palette := by simp [config]
  have hsecond : ("Blue", "#00f") ∈ config.palette := by simp [config]
  obtain ⟨-, hall, -⟩ := palette_usable_iff hnames hempty hfirst
  obtain ⟨hone, -, hreported⟩ := palette_usable_iff hnames hempty hsecond
  refine ⟨fun token htoken => hall.mpr hred token (htoken.trans hred.symm), ?_, ?_⟩
  · rw [hone "Blue" rfl]
    intro hfound
    rcases hfound with hsame | ⟨hvalue, -⟩
    · exact hblue hsame
    · exact absurd hvalue (by decide)
  · refine (hreported _ 7 _).mpr ⟨⟨_, List.mem_singleton_self _, rfl, rfl⟩, rfl, hblue, by decide⟩

/-- Not every palette that is read can be used as it is written. -/
theorem not_palette_usable :
    ¬ ∀ (text : String) (config : Config), ofText? text = some config →
      "" ∉ config.palette.names → (config.palette.names.map lowercase).Nodup →
        ∀ (name value token : String), (name, value) ∈ config.palette →
          lowercase token = lowercase name →
            config.resolveColor (some token) = value ∧ config.isKnownColor token = true := by
  intro h
  let v : Json := .object [("palette", .object [("Red", .text "#f00")])]
  let config : Config := { standard with palette := [("Red", "#f00")] }
  have hread : ofText? v.compact = some config := (ofText?_compact rfl).trans rfl
  obtain ⟨-, hknown⟩ := h v.compact config hread (by decide) (by decide +kernel) "Red" "#f00" "Red"
    List.mem_cons_self rfl
  revert hknown
  decide +kernel

end ScriptedMap.Config
