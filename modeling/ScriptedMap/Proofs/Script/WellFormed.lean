import ScriptedMap.Proofs.Script.Head
import ScriptedMap.Proofs.Script.Token
import ScriptedMap.Proofs.Text.Folding

namespace ScriptedMap

structure IsColor (s : String) : Prop where
  ne_empty : s ≠ ""
  one_word : ∀ c ∈ s.toList, isBlank c = false
  no_comma : ',' ∉ s.toList

structure IsText (s : String) : Prop where
  ne_empty : s ≠ ""
  no_quote : '"' ∉ s.toList

structure IsTrimmed (s : String) : Prop where
  ne_empty : s ≠ ""
  trimmed : trim s.toList = s.toList

structure IsName (s : String) : Prop extends IsTrimmed s where
  no_comma : ',' ∉ s.toList

/-- The name of a country that is filled may have other characters in it than that of a region. -/
structure IsCountryName (s : String) : Prop extends IsTrimmed s where
  characters : ∀ c ∈ s.toList,
    isAlphanumeric c = true ∨ isBlank c = true ∨ c = '_' ∨ c = '-' ∨ c = '\''

structure IsScale (x : Binary64) : Prop where
  not_nan : x.isNaN = false
  not_zero : x.isZero = false
  not_negative : x.isNegative = false

def IsZoom (x : Binary64) : Prop := x.isNaN = true ∨ x.isNegative = false

inductive Endpoint.WellFormed : Endpoint → Prop
  | point (place : Point) : WellFormed (.point place)
  | territory {name : String} (hname : IsName name) : WellFormed (.territory name)

inductive Command.WellFormed : Command → Prop
  | country {name color : String} {animation : Animation} (hname : IsCountryName name)
      (hcolor : IsColor color) : WellFormed (.country name color animation)
  | region {name parent color : String} {animation : Animation} {occupied : Bool}
      (hname : IsName name) (hparent : IsName parent) (hcolor : IsColor color)
      (hoccupied : occupied = true → animation = .none) :
      WellFormed (.region name parent color animation occupied)
  | line {source target : Endpoint} {color : String} (hsource : source.WellFormed)
      (htarget : target.WellFormed) (hcolor : IsColor color) :
      WellFormed (.line source target color)
  | attack {source target : Endpoint} {color : String} {curve width headSize : Binary64}
      (hsource : source.WellFormed) (htarget : target.WellFormed) (hcolor : IsColor color) :
      WellFormed (.attack source target color curve width headSize)
  | bubble {place : Point} {text color : String} (htext : IsText text) (hcolor : IsColor color) :
      WellFormed (.bubble place text color)
  | label {place : Point} {text : String} {size : Nat} {color : Option String}
      (htext : IsText text) (hsize : 1 ≤ size) (hcolor : ∀ s, color = some s → IsColor s) :
      WellFormed (.label place text size color)
  | arrow {place : Point} {text : String} {direction : Direction} {color : String}
      (htext : IsText text) (hcolor : IsColor color) :
      WellFormed (.arrow place text direction color)
  | year {text : String} {highlight : Bool} (htext : IsText text) :
      WellFormed (.year text highlight)
  | effect {place : Point} {name color : String} {size : Binary64} (hname : name ≠ "")
      (hcolor : IsColor color) (hsize : IsScale size) : WellFormed (.effect place name color size)
  | legendEntry {label color : String} (hlabel : IsText label) (hcolor : IsColor color) :
      WellFormed (.legend (.entry label color))
  | legendAuto : WellFormed (.legend .auto)
  | legendHide : WellFormed (.legend .hide)
  | zoom {target : String} (htarget : IsTrimmed target) : WellFormed (.zoom target)
  | fly {place : Point} {zoom : Binary64} (hzoom : IsZoom zoom) : WellFormed (.fly place zoom)
  | cinematic {place : Point} {zoom : Binary64} {pitch bearing : Option Binary64}
      (hzoom : IsZoom zoom) : WellFormed (.cinematic place zoom pitch bearing)
  | wait (ms : Nat) : WellFormed (.wait ms)
  | remove (what : Removal) : WellFormed (.remove what)

/-- The command is one that lines of the keyword may give. -/
structure Command.Obeys (c : Command) (keyword : Keyword) : Prop where
  keyword : c.keyword = keyword
  wellFormed : c.WellFormed

namespace Binary64

theorem isNegative_round (num den : Nat) : (round false num den).isNegative = false := by
  unfold round
  dsimp only
  split <;> rfl

theorem isNegative_ofDecimal (digits : Nat) (exponent : Int) :
    (ofDecimal false digits exponent).isNegative = false := isNegative_round _ _

end Binary64

theorem Numeral.isNegative_value (s : List Char) : (value false s).isNegative = false := by
  unfold value
  dsimp only
  split
  · rfl
  · exact Binary64.isNegative_ofDecimal _ _

theorem Numeral.isNegative_of_readUnsigned? {token : List Char} {x : Binary64}
    (h : readUnsigned? token = some x) : x.isNegative = false := by
  unfold readUnsigned? at h
  split at h
  · cases h
  · next hsign =>
    have hs : (signed token).1 = false := eq_false_of_ne_true hsign
    rw [read?] at h
    simp only [hs] at h
    split at h
    · cases h
    · cases h
      exact isNegative_value _

namespace Field

theorem bare?_eq_some {f : Field} {t : List Char} (h : f.bare? = some t) : f = .bare t := by
  cases f with
  | bare u =>
    cases h
    rfl
  | quoted u => cases h

theorem isColor_of_colorOf? {t : List Char} (ht : ',' ∉ t) {s : String} (h : colorOf? t = some s) :
    IsColor s := by
  unfold colorOf? at h
  split at h
  · cases h
  · next hword =>
    cases h
    simp only [Bool.or_eq_true, not_or, List.isEmpty_iff, List.any_eq_true, not_exists,
      not_and] at hword
    obtain ⟨hne, hblank⟩ := hword
    refine ⟨String.ofList_eq_empty_iff.not.mpr hne, ?_, ?_⟩
    · intro c hc
      rw [String.toList_ofList] at hc
      exact eq_false_of_ne_true (hblank c hc)
    · rw [String.toList_ofList]
      exact ht

variable {f : Field}

theorem isColor_of_color? (hf : f.Writable) {s : String} (h : f.color? = some s) : IsColor s := by
  obtain ⟨t, ht, hs⟩ := Option.bind_eq_some_iff.mp h
  rw [bare?_eq_some ht] at hf
  exact isColor_of_colorOf? hf.no_comma hs

theorem isName_ofList {t : List Char} (hne : t ≠ []) (ht : Plain t) : IsName (String.ofList t) := by
  refine ⟨⟨String.ofList_eq_empty_iff.not.mpr hne, ?_⟩, ?_⟩
  · rw [String.toList_ofList]
    exact ht.trimmed
  · rw [String.toList_ofList]
    exact ht.no_comma

theorem isName_of_name? (hf : f.Writable) {s : String} (h : f.name? = some s) : IsName s := by
  obtain ⟨t, ht, rfl⟩ := Option.map_eq_some_iff.mp h
  obtain ⟨hbare, hne⟩ := Option.filter_eq_some_iff.mp ht
  rw [bare?_eq_some hbare] at hf
  apply isName_ofList _ hf
  rintro rfl
  cases hne

theorem isText_of_text? (hf : f.Writable) {s : String} (h : f.text? = some s) : IsText s := by
  obtain ⟨t, ht, rfl⟩ := Option.map_eq_some_iff.mp h
  obtain ⟨hquoted, hne⟩ := Option.filter_eq_some_iff.mp ht
  cases f with
  | bare u => cases hquoted
  | quoted u =>
    cases hquoted
    refine ⟨String.ofList_eq_empty_iff.not.mpr ?_, ?_⟩
    · rintro rfl
      cases hne
    · rw [String.toList_ofList]
      exact hf

theorem isNegative_of_unsigned? {x : Binary64} (h : f.unsigned? = some x) :
    x.isNegative = false := by
  obtain ⟨t, -, hx⟩ := Option.bind_eq_some_iff.mp h
  exact Numeral.isNegative_of_readUnsigned? hx

theorem isZoom_of_unsigned? {x : Binary64} (h : f.unsigned? = some x) : IsZoom x :=
  .inr (isNegative_of_unsigned? h)

end Field

theorem Endpoint.wellFormed_ofToken {t : List Char} (hne : t ≠ []) (ht : Field.Plain t) :
    (ofToken t).WellFormed := by
  have hname : WellFormed (.territory (String.ofList t)) := .territory (Field.isName_ofList hne ht)
  unfold ofToken
  split
  · split
    · exact .point _
    · exact hname
  · exact hname

namespace Command

theorem isScale_defaultEffectSize : IsScale defaultEffectSize := by
  constructor <;> decide +kernel

theorem isScale_of_effectSize? {f : Field} {x : Binary64} (h : effectSize? f = some x) :
    IsScale x := by
  obtain ⟨size, hsize, hx⟩ := Option.bind_eq_some_iff.mp h
  have hx' : (if size.isNaN || size.isZero then defaultEffectSize else size) = x :=
    Option.some.inj hx
  split at hx'
  · -- the default takes the place of zero and of what is no number
    rw [← hx']
    exact isScale_defaultEffectSize
  · next hnormal =>
    simp only [Bool.or_eq_true, not_or, Bool.not_eq_true] at hnormal
    obtain ⟨hnan, hzero⟩ := hnormal
    rw [← hx']
    exact ⟨hnan, hzero, Field.isNegative_of_unsigned? hsize⟩

theorem ne_empty_of_effectName? {f : Field} (hf : f.Writable) {s : String}
    (h : effectName? f = some s) : s ≠ "" := by
  obtain ⟨name, hname, hs⟩ := Option.bind_eq_some_iff.mp h
  have hne : name ≠ "" := (Field.isName_of_name? hf hname).ne_empty
  split at hs
  · cases hs
    exact lowercase_ne_empty hne
  · cases hs

theorem one_le_of_labelSize? {f : Field} {size : Nat} (h : labelSize? f = some size) :
    1 ≤ size := by
  obtain ⟨digits, -, hsize⟩ := Option.bind_eq_some_iff.mp h
  dsimp only at hsize
  split at hsize
  · cases hsize
  · cases hsize
    split
    · decide
    · omega

theorem isColor_of_all {s : String} (hne : s ≠ "")
    (hall : (s.toList.all fun c => !isBlank c && c != ',') = true) : IsColor s := by
  simp only [List.all_eq_true, Bool.and_eq_true, Bool.not_eq_true', bne_iff_ne] at hall
  refine ⟨hne, fun c hc => (hall c hc).1, ?_⟩
  intro hmem
  exact (hall ',' hmem).2 rfl

theorem isColor_defaults :
    IsColor defaultTextColor ∧ IsColor defaultArrowColor ∧ IsColor defaultEffectColor :=
  ⟨isColor_of_all (by decide) (by decide), isColor_of_all (by decide) (by decide),
    isColor_of_all (by decide) (by decide)⟩

/-- The tokens of a connector are its fields less the empty ones. -/
theorem fields_eq_map_bare {fs : List Field} {ts : List (List Char)}
    (h : fs.mapM Field.bare? = some ts) : fs = ts.map .bare := by
  induction fs generalizing ts with
  | nil =>
    cases h
    rfl
  | cons f fs ih =>
    rw [List.mapM_cons] at h
    obtain ⟨t, ht, h⟩ := Option.bind_eq_some_iff.mp h
    obtain ⟨us, hus, h⟩ := Option.bind_eq_some_iff.mp h
    cases h
    rw [Field.bare?_eq_some ht, ih hus]
    rfl

theorem plain_of_connectorTokens? {fs : List Field} (hfs : ∀ f ∈ fs, f.Writable)
    {ts : List (List Char)} (h : connectorTokens? fs = some ts) :
    ∀ t ∈ ts, t ≠ [] ∧ Field.Plain t := by
  obtain ⟨us, hus, rfl⟩ := Option.map_eq_some_iff.mp h
  intro t ht
  obtain ⟨hmem, hne⟩ := List.mem_filter.mp ht
  have hfield : Field.bare t ∈ fs := by
    rw [fields_eq_map_bare hus]
    exact List.mem_map_of_mem hmem
  refine ⟨?_, hfs _ hfield⟩
  rintro rfl
  cases hne

section Rules

variable {c : Command}

theorem line?_obeys {ts : List (List Char)} (hts : ∀ t ∈ ts, t ≠ [] ∧ Field.Plain t)
    (h : line? ts = some c) : c.Obeys .line := by
  unfold line? at h
  split at h
  · next source target color =>
    obtain ⟨hsource, hsource'⟩ := hts source (by simp)
    obtain ⟨htarget, htarget'⟩ := hts target (by simp)
    obtain ⟨-, hcolor⟩ := hts color (by simp)
    obtain ⟨s, hs, h⟩ := Option.bind_eq_some_iff.mp h
    cases h
    exact ⟨rfl, .line (Endpoint.wellFormed_ofToken hsource hsource')
      (Endpoint.wellFormed_ofToken htarget htarget') (Field.isColor_of_colorOf? hcolor.no_comma hs)⟩
  · cases h

theorem attack?_obeys {ts : List (List Char)} (hts : ∀ t ∈ ts, t ≠ [] ∧ Field.Plain t)
    (h : attack? ts = some c) : c.Obeys .attack := by
  unfold attack? at h
  split at h
  · next source target color numbers =>
    obtain ⟨hsource, hsource'⟩ := hts source (by simp)
    obtain ⟨htarget, htarget'⟩ := hts target (by simp)
    obtain ⟨-, hcolor⟩ := hts color (by simp)
    obtain ⟨s, hs, h⟩ := Option.bind_eq_some_iff.mp h
    obtain ⟨xs, -, h⟩ := Option.bind_eq_some_iff.mp h
    -- nothing is asked of the numbers, so all the ways to leave them out are one case
    have hattack (curve width headSize : Binary64) :
        (attack (.ofToken source) (.ofToken target) s curve width headSize).Obeys .attack :=
      ⟨rfl, .attack (Endpoint.wellFormed_ofToken hsource hsource')
        (Endpoint.wellFormed_ofToken htarget htarget')
        (Field.isColor_of_colorOf? hcolor.no_comma hs)⟩
    dsimp only at h
    split at h <;> cases h <;> exact hattack _ _ _
  · cases h

variable {fs : List Field} (hfs : ∀ f ∈ fs, f.Writable)

include hfs

theorem region?_obeys (h : region? fs = some c) : c.Obeys .region := by
  unfold region? at h
  split at h
  · next name parent color =>
    simp only [Option.bind_eq_bind, Option.bind_eq_some_iff, Option.pure_def,
      Option.some.injEq] at h
    obtain ⟨n, hn, p, hp, k, hk, rfl⟩ := h
    have hname := Field.isName_of_name? (hfs name (by simp)) hn
    have hparent := Field.isName_of_name? (hfs parent (by simp)) hp
    have hcolor := Field.isColor_of_color? (hfs color (by simp)) hk
    exact ⟨rfl, .region hname hparent hcolor fun _ => rfl⟩
  · next name parent color modifier =>
    simp only [Option.bind_eq_bind, Option.bind_eq_some_iff, Option.pure_def] at h
    obtain ⟨n, hn, p, hp, k, hk, w, -, h⟩ := h
    have hname := Field.isName_of_name? (hfs name (by simp)) hn
    have hparent := Field.isName_of_name? (hfs parent (by simp)) hp
    have hcolor := Field.isColor_of_color? (hfs color (by simp)) hk
    -- a region is occupied or animated, never both
    split at h
    · cases h
      exact ⟨rfl, .region hname hparent hcolor fun _ => rfl⟩
    · obtain ⟨animation, -, h⟩ := Option.bind_eq_some_iff.mp h
      cases h
      exact ⟨rfl, .region hname hparent hcolor fun hfalse => absurd hfalse Bool.false_ne_true⟩
  · cases h

theorem bubble?_obeys (h : bubble? fs = some c) : c.Obeys .bubble := by
  unfold bubble? at h
  split at h
  · next lat lng text =>
    simp only [Option.bind_eq_bind, Option.bind_eq_some_iff, Option.pure_def,
      Option.some.injEq] at h
    obtain ⟨place, -, t, ht, rfl⟩ := h
    have htext := Field.isText_of_text? (hfs text (by simp)) ht
    exact ⟨rfl, .bubble htext isColor_defaults.1⟩
  · next lat lng text color =>
    simp only [Option.bind_eq_bind, Option.bind_eq_some_iff, Option.pure_def,
      Option.some.injEq] at h
    obtain ⟨place, -, t, ht, k, hk, rfl⟩ := h
    have htext := Field.isText_of_text? (hfs text (by simp)) ht
    have hcolor := Field.isColor_of_color? (hfs color (by simp)) hk
    exact ⟨rfl, .bubble htext hcolor⟩
  · cases h

theorem label?_obeys (h : label? fs = some c) : c.Obeys .label := by
  have hnone : ∀ s, (none : Option String) = some s → IsColor s := by
    intro s hs
    cases hs
  unfold label? at h
  split at h
  · next lat lng text =>
    simp only [Option.bind_eq_bind, Option.bind_eq_some_iff, Option.pure_def,
      Option.some.injEq] at h
    obtain ⟨place, -, t, ht, rfl⟩ := h
    have htext := Field.isText_of_text? (hfs text (by simp)) ht
    exact ⟨rfl, .label htext (by decide) hnone⟩
  · next lat lng text size =>
    simp only [Option.bind_eq_bind, Option.bind_eq_some_iff, Option.pure_def,
      Option.some.injEq] at h
    obtain ⟨place, -, t, ht, n, hn, rfl⟩ := h
    have htext := Field.isText_of_text? (hfs text (by simp)) ht
    exact ⟨rfl, .label htext (one_le_of_labelSize? hn) hnone⟩
  · next lat lng text size color =>
    simp only [Option.bind_eq_bind, Option.bind_eq_some_iff, Option.pure_def,
      Option.some.injEq] at h
    obtain ⟨place, -, t, ht, n, hn, k, hk, rfl⟩ := h
    have htext := Field.isText_of_text? (hfs text (by simp)) ht
    have hcolor := Field.isColor_of_color? (hfs color (by simp)) hk
    refine ⟨rfl, .label htext (one_le_of_labelSize? hn) ?_⟩
    intro s hs
    cases hs
    exact hcolor
  · cases h

theorem arrow?_obeys (h : arrow? fs = some c) : c.Obeys .arrow := by
  unfold arrow? at h
  split at h
  · next lat lng text =>
    simp only [Option.bind_eq_bind, Option.bind_eq_some_iff, Option.pure_def,
      Option.some.injEq] at h
    obtain ⟨place, -, t, ht, rfl⟩ := h
    have htext := Field.isText_of_text? (hfs text (by simp)) ht
    exact ⟨rfl, .arrow htext isColor_defaults.2.1⟩
  · next lat lng text modifier =>
    simp only [Option.bind_eq_bind, Option.bind_eq_some_iff, Option.pure_def] at h
    obtain ⟨place, -, t, ht, h⟩ := h
    have htext := Field.isText_of_text? (hfs text (by simp)) ht
    -- the fourth field is a direction, or else it has to be a color
    split at h
    · cases h
      exact ⟨rfl, .arrow htext isColor_defaults.2.1⟩
    · obtain ⟨k, hk, h⟩ := Option.bind_eq_some_iff.mp h
      cases h
      exact ⟨rfl, .arrow htext (Field.isColor_of_color? (hfs modifier (by simp)) hk)⟩
  · next lat lng text direction color =>
    simp only [Option.bind_eq_bind, Option.bind_eq_some_iff, Option.pure_def,
      Option.some.injEq] at h
    obtain ⟨place, -, t, ht, d, -, k, hk, rfl⟩ := h
    have htext := Field.isText_of_text? (hfs text (by simp)) ht
    have hcolor := Field.isColor_of_color? (hfs color (by simp)) hk
    exact ⟨rfl, .arrow htext hcolor⟩
  · cases h

theorem year?_obeys (h : year? fs = some c) : c.Obeys .year := by
  unfold year? at h
  split at h
  · next text =>
    obtain ⟨t, ht, h⟩ := Option.bind_eq_some_iff.mp h
    cases h
    exact ⟨rfl, .year (Field.isText_of_text? (hfs text (by simp)) ht)⟩
  · next text flag =>
    obtain ⟨w, -, h⟩ := Option.bind_eq_some_iff.mp h
    split at h
    · obtain ⟨t, ht, h⟩ := Option.bind_eq_some_iff.mp h
      cases h
      exact ⟨rfl, .year (Field.isText_of_text? (hfs text (by simp)) ht)⟩
    · cases h
  · cases h

theorem effect?_obeys (h : effect? fs = some c) : c.Obeys .effect := by
  unfold effect? at h
  split at h
  · next lat lng name =>
    simp only [Option.bind_eq_bind, Option.bind_eq_some_iff, Option.pure_def,
      Option.some.injEq] at h
    obtain ⟨place, -, n, hn, rfl⟩ := h
    have hname := ne_empty_of_effectName? (hfs name (by simp)) hn
    exact ⟨rfl, .effect hname isColor_defaults.2.2 isScale_defaultEffectSize⟩
  · next lat lng name color =>
    simp only [Option.bind_eq_bind, Option.bind_eq_some_iff, Option.pure_def,
      Option.some.injEq] at h
    obtain ⟨place, -, n, hn, k, hk, rfl⟩ := h
    have hname := ne_empty_of_effectName? (hfs name (by simp)) hn
    have hcolor := Field.isColor_of_color? (hfs color (by simp)) hk
    exact ⟨rfl, .effect hname hcolor isScale_defaultEffectSize⟩
  · next lat lng name color size =>
    simp only [Option.bind_eq_bind, Option.bind_eq_some_iff, Option.pure_def,
      Option.some.injEq] at h
    obtain ⟨place, -, n, hn, k, hk, x, hx, rfl⟩ := h
    have hname := ne_empty_of_effectName? (hfs name (by simp)) hn
    have hcolor := Field.isColor_of_color? (hfs color (by simp)) hk
    exact ⟨rfl, .effect hname hcolor (isScale_of_effectSize? hx)⟩
  · cases h

theorem legendEntry?_obeys (h : legendEntry? fs = some c) : c.Obeys .legend := by
  unfold legendEntry? at h
  split at h
  · next text =>
    simp only [Option.bind_eq_bind, Option.bind_eq_some_iff, Option.pure_def,
      Option.some.injEq] at h
    obtain ⟨t, ht, rfl⟩ := h
    have hlabel := Field.isText_of_text? (hfs text (by simp)) ht
    exact ⟨rfl, .legendEntry hlabel isColor_defaults.1⟩
  · next text color =>
    simp only [Option.bind_eq_bind, Option.bind_eq_some_iff, Option.pure_def,
      Option.some.injEq] at h
    obtain ⟨t, ht, k, hk, rfl⟩ := h
    have hlabel := Field.isText_of_text? (hfs text (by simp)) ht
    have hcolor := Field.isColor_of_color? (hfs color (by simp)) hk
    exact ⟨rfl, .legendEntry hlabel hcolor⟩
  · cases h

theorem isColor_of_country? {name : List Char} (h : country? name fs = some c) :
    (name ≠ [] ∧ ∀ x ∈ name, isNameCharacter x = true) ∧
      ∃ color animation, IsColor color ∧ c = country (String.ofList name) color animation := by
  unfold country? at h
  split at h
  · cases h
  · next hname =>
    simp only [Bool.or_eq_true, not_or, Bool.not_eq_true', Bool.not_eq_false,
      List.isEmpty_iff, List.all_eq_true] at hname
    refine ⟨hname, ?_⟩
    split at h
    · next color =>
      obtain ⟨k, hk, h⟩ := Option.bind_eq_some_iff.mp h
      cases h
      exact ⟨k, .none, Field.isColor_of_color? (hfs color (by simp)) hk, rfl⟩
    · next color animation =>
      obtain ⟨k, hk, h⟩ := Option.bind_eq_some_iff.mp h
      obtain ⟨a, -, h⟩ := Option.bind_eq_some_iff.mp h
      cases h
      exact ⟨k, a, Field.isColor_of_color? (hfs color (by simp)) hk, rfl⟩
    · cases h

omit hfs

theorem fly?_obeys (h : fly? fs = some c) : c.Obeys .fly := by
  unfold fly? at h
  split at h
  · next lat lng level =>
    simp only [Option.bind_eq_bind, Option.bind_eq_some_iff, Option.pure_def,
      Option.some.injEq] at h
    obtain ⟨place, -, x, hx, rfl⟩ := h
    exact ⟨rfl, .fly (Field.isZoom_of_unsigned? hx)⟩
  · cases h

theorem cinematic?_obeys (h : cinematic? fs = some c) : c.Obeys .cinematic := by
  unfold cinematic? at h
  split at h
  · next lat lng level =>
    simp only [Option.bind_eq_bind, Option.bind_eq_some_iff, Option.pure_def,
      Option.some.injEq] at h
    obtain ⟨place, -, x, hx, rfl⟩ := h
    exact ⟨rfl, .cinematic (Field.isZoom_of_unsigned? hx)⟩
  · next lat lng level pitch =>
    simp only [Option.bind_eq_bind, Option.bind_eq_some_iff, Option.pure_def,
      Option.some.injEq] at h
    obtain ⟨place, -, x, hx, p, -, rfl⟩ := h
    exact ⟨rfl, .cinematic (Field.isZoom_of_unsigned? hx)⟩
  · next lat lng level pitch bearing =>
    simp only [Option.bind_eq_bind, Option.bind_eq_some_iff, Option.pure_def,
      Option.some.injEq] at h
    obtain ⟨place, -, x, hx, p, -, b, -, rfl⟩ := h
    exact ⟨rfl, .cinematic (Field.isZoom_of_unsigned? hx)⟩
  · cases h

end Rules

theorem writable_of_fields? {args : List Char} {fs : List Field} (h : fields? args = some fs) :
    ∀ f ∈ fs, f.Writable := by
  have hlist : Field.list args = .ok fs := by
    unfold fields? at h
    cases hread : Field.list args with
    | ok gs =>
      rw [hread] at h
      cases h
      rfl
    | error e =>
      rw [hread] at h
      cases h
  exact Field.writable_of_list hlist

theorem isCountryName_ofList {name : List Char} (hne : name ≠ []) (htrim : trim name = name)
    (hname : ∀ x ∈ name, isNameCharacter x = true) : IsCountryName (String.ofList name) := by
  refine ⟨⟨String.ofList_eq_empty_iff.not.mpr hne, ?_⟩, ?_⟩
  · rw [String.toList_ofList]
    exact htrim
  · intro x hx
    rw [String.toList_ofList] at hx
    have hx' := hname x hx
    simp only [isNameCharacter, Bool.or_eq_true, decide_eq_true_eq, or_assoc] at hx'
    exact hx'

/-- A country is given by its own keyword and by lines whose head is no keyword. -/
theorem country_obeys {name rest : List Char} {fs : List Field} {c : Command}
    (hfs : fields? rest = some fs) (h : country? (trim name) fs = some c) : c.Obeys .country := by
  obtain ⟨⟨hne, hname⟩, color, animation, hcolor, rfl⟩ :=
    isColor_of_country? (writable_of_fields? hfs) h
  exact ⟨rfl, .country (isCountryName_ofList hne (trim_trim name) hname) hcolor⟩

/-- The rule of a keyword gives well-formed commands of the keyword. -/
theorem ofArguments?_obeys {keyword : Keyword} {args : List Char} {c : Command}
    (hargs : trim args = args) (h : ofArguments? keyword args = some c) : c.Obeys keyword := by
  have hfields {rule : List Field → Option Command} (hrule : (fields? args).bind rule = some c)
      (hobeys : ∀ fs, (∀ f ∈ fs, f.Writable) → rule fs = some c → c.Obeys keyword) :
      c.Obeys keyword := by
    obtain ⟨fs, hfs, hc⟩ := Option.bind_eq_some_iff.mp hrule
    exact hobeys fs (writable_of_fields? hfs) hc
  cases keyword with
  | country =>
    obtain ⟨⟨name, rest⟩, -, h⟩ := Option.bind_eq_some_iff.mp h
    obtain ⟨fs, hfs, h⟩ := Option.bind_eq_some_iff.mp h
    exact country_obeys hfs h
  | region => exact hfields h fun fs hfs hc => region?_obeys hfs hc
  | line =>
    refine hfields h fun fs hfs hc => ?_
    obtain ⟨ts, hts, hc⟩ := Option.bind_eq_some_iff.mp hc
    exact line?_obeys (plain_of_connectorTokens? hfs hts) hc
  | attack =>
    refine hfields h fun fs hfs hc => ?_
    obtain ⟨ts, hts, hc⟩ := Option.bind_eq_some_iff.mp hc
    exact attack?_obeys (plain_of_connectorTokens? hfs hts) hc
  | bubble => exact hfields h fun fs hfs hc => bubble?_obeys hfs hc
  | label => exact hfields h fun fs hfs hc => label?_obeys hfs hc
  | arrow => exact hfields h fun fs hfs hc => arrow?_obeys hfs hc
  | year => exact hfields h fun fs hfs hc => year?_obeys hfs hc
  | effect => exact hfields h fun fs hfs hc => effect?_obeys hfs hc
  | legend =>
    unfold ofArguments? at h
    dsimp only at h
    split at h
    · cases h
      exact ⟨rfl, .legendAuto⟩
    · split at h
      · cases h
        exact ⟨rfl, .legendHide⟩
      · exact hfields h fun fs hfs hc => legendEntry?_obeys hfs hc
  | zoom =>
    unfold ofArguments? at h
    dsimp only at h
    split at h
    · cases h
    · next hne =>
      cases h
      rw [List.isEmpty_iff] at hne
      -- no field is read here, so that the target is trimmed because all of the arguments are
      refine ⟨rfl, .zoom ⟨String.ofList_eq_empty_iff.not.mpr hne, ?_⟩⟩
      rw [String.toList_ofList]
      exact hargs
  | fly => exact hfields h fun fs _ hc => fly?_obeys hc
  | cinematic => exact hfields h fun fs _ hc => cinematic?_obeys hc
  | wait =>
    obtain ⟨x, -, rfl⟩ := Option.map_eq_some_iff.mp h
    exact ⟨rfl, .wait _⟩
  | remove =>
    obtain ⟨what, -, rfl⟩ := Option.map_eq_some_iff.mp h
    exact ⟨rfl, .remove what⟩

/-- Whatever a line says, the command it gives is well formed. -/
theorem ofLine?_wellFormed {line : List Char} {c : Command} (h : ofLine? line = some c) :
    c.WellFormed := by
  have hcolon : ':' ∈ line := by
    by_contra hnot
    rw [ofLine?_eq_none hnot] at h
    cases h
  obtain ⟨head, args, rfl, hhead⟩ := List.eq_append_cons_of_mem hcolon
  obtain ⟨keyword, -, hrule⟩ | ⟨-, fs, hfs, hcountry⟩ := rule_of_ofLine? hhead h
  · exact (ofArguments?_obeys (trim_trim args) hrule).wellFormed
  · exact (country_obeys hfs hcountry).wellFormed

/-- The size zero is read as the default size. -/
theorem ofLine?_wellFormed_effect :
    let line := " Effect : 52.5 , 13.4, Blast_1 ,gold, 0 ".toList
    let c := effect ⟨13.4, 52.5⟩ "blast_1" "gold" 1
    ofLine? line = some c ∧ c.WellFormed := by
  intro line c
  have hline : ofLine? line = some c := by decide +kernel
  exact ⟨hline, ofLine?_wellFormed hline⟩

end Command

end ScriptedMap
