import ScriptedMap.Proofs.Script.Field
import ScriptedMap.Proofs.Text.Alphanumeric
import ScriptedMap.Script.Line

namespace ScriptedMap

attribute [simp] Field.bare? Field.quoted?

namespace Field

/-- A text that stands in a bare field as it is. -/
structure Plain (t : List Char) : Prop where
  trimmed : trim t = t
  no_comma : ',' ∉ t
  no_quote : t.head? ≠ some '"'

/-- The field can be written, and is the same when it is read. -/
def Writable : Field → Prop
  | bare t => Plain t
  | quoted t => '"' ∉ t

/-- The field as it is written. -/
def written : Field → List Char
  | bare t => t
  | quoted t => '"' :: t ++ ['"']

def Padded (t s : List Char) : Prop :=
  ∃ before after, AllBlank before ∧ AllBlank after ∧ s = before ++ t ++ after

theorem plain_of_alphanumeric {t : List Char}
    (h : ∀ c ∈ t, isAlphanumeric c = true ∨ c = '_' ∨ c = '-' ∨ c = '.') : Plain t := by
  have hblank : ∀ c ∈ t, isBlank c = false := by
    intro c hc
    rcases h c hc with hc | rfl | rfl | rfl
    · exact not_blank_of_isAlphanumeric hc
    · decide
    · decide
    · decide
  have hother (c : Char) (halpha : isAlphanumeric c = false) (hc : c ≠ '_' ∧ c ≠ '-' ∧ c ≠ '.') :
      c ∉ t := by
    intro hmem
    rcases h c hmem with h | h | h | h
    · rw [halpha] at h
      cases h
    · exact hc.1 h
    · exact hc.2.1 h
    · exact hc.2.2 h
  have hcomma : ',' ∉ t := hother ',' (not_alphanumeric_of_separator (by decide)) (by decide)
  have hquote : '"' ∉ t := hother '"' (not_alphanumeric_of_separator (by decide)) (by decide)
  exact ⟨trim_of_not_blank hblank, hcomma, fun hhead => hquote (List.mem_of_head? hhead)⟩

theorem Plain.find? {t after : List Char} (h : Plain t) (ha : AllBlank after) :
    (t ++ after).find? (!isBlank ·) ≠ some '"' := by
  cases ht : t with
  | nil =>
    rw [List.nil_append, find?_of_allBlank ha]
    exact (Option.some_ne_none _).symm
  | cons c u =>
    have hc : isBlank c = false := not_blank_of_trim_eq_cons (h.trimmed.trans ht)
    have hne := h.no_quote
    rw [ht, List.head?_cons] at hne
    rw [List.cons_append, List.find?_cons_of_pos (by simp [hc])]
    exact hne

theorem Writable.segment {f : Field} (hf : f.Writable) {s : List Char}
    (hs : Padded f.written s) : Segment s f := by
  obtain ⟨before, after, hb, ha, rfl⟩ := hs
  cases f with
  | quoted t =>
    have hsegment := Segment.quoted hb hf ha
    simpa [written] using hsegment
  | bare t =>
    have hplain : Plain t := hf
    have hcomma : ',' ∉ before ++ t ++ after := by
      simp [not_mem_of_allBlank hb isBlank_comma, not_mem_of_allBlank ha isBlank_comma,
        hplain.no_comma]
    have hfirst : (before ++ t ++ after).find? (!isBlank ·) ≠ some '"' := by
      rw [List.append_assoc, List.find?_append, find?_of_allBlank hb, Option.none_or]
      exact hplain.find? ha
    have hsegment := Segment.bare hcomma hfirst
    rwa [trim_append hb t ha, hplain.trimmed] at hsegment

/-- What stands in a segment can be written again. -/
theorem Segment.writable {s : List Char} {f : Field} (h : Segment s f) : f.Writable := by
  cases h with
  | quoted hb ht ha => exact ht
  | bare hs hfirst =>
    refine ⟨trim_trim s, fun hcomma => hs (mem_of_mem_trim hcomma), ?_⟩
    rw [head?_trim]
    exact hfirst

theorem writable_of_segments {segments : List (List Char)} {fs : List Field}
    (h : List.Forall₂ Segment segments fs) : ∀ f ∈ fs, f.Writable := by
  induction h with
  | nil =>
    intro f hf
    cases hf
  | cons hsegment _ ih =>
    intro f hf
    rcases List.mem_cons.mp hf with rfl | hf
    · exact hsegment.writable
    · exact ih f hf

/-- The fields that are read of a text can be written again. -/
theorem writable_of_list {s : List Char} {fs : List Field} (h : Field.list s = .ok fs) :
    ∀ f ∈ fs, f.Writable := by
  rcases writes_or_breaksAfter s with ⟨gs, hgs⟩ | ⟨gs, hgs⟩
  · rw [list_of_items_ok hgs.items_eq] at h
    cases h
    obtain ⟨segments, -, hsegments, -⟩ := hgs
    exact writable_of_segments hsegments
  · obtain ⟨e, he⟩ := hgs.items_eq
    rw [list_of_items_error he] at h
    cases h

theorem segments_of_padded {fs : List Field} {segments : List (List Char)}
    (hfs : ∀ f ∈ fs, f.Writable) (h : List.Forall₂ (fun f s => Padded f.written s) fs segments) :
    List.Forall₂ Segment segments fs := by
  induction h with
  | nil => exact .nil
  | @cons f s fs segments hs _ ih =>
    have hf : f.Writable := hfs f List.mem_cons_self
    exact .cons (hf.segment hs) (ih fun g hg => hfs g (List.mem_cons_of_mem f hg))

end Field

namespace Written

/-- A name has no commas in it and no blanks around it. -/
structure Name where
  text : List Char
  ne_nil : text ≠ []
  plain : Field.Plain text

/-- A color is a name of one word. -/
structure Color extends Name where
  one_word : ∀ c ∈ text, isBlank c = false

structure Text where
  text : List Char
  ne_nil : text ≠ []
  no_quote : '"' ∉ text

/-- Digits and points. -/
structure Unsigned where
  digits : List Char
  ne_nil : digits ≠ []
  numeric : ∀ c ∈ digits, Numeral.isNumeric c = true

structure Number extends Unsigned where
  negative : Bool

/-- An unsigned numeral that is a size other than zero. -/
structure Scale extends Unsigned where
  not_nan : (Numeral.value false digits).isNaN = false
  not_zero : (Numeral.value false digits).isZero = false

structure Size where
  digits : List Char
  all_digits : ∀ c ∈ digits, c.isDigit = true
  pos : 0 < Json.Numeral.digitsValue digits
  lt : Json.Numeral.digitsValue digits < Nat.pow 2 32

structure EffectName where
  text : List Char
  ne_nil : text ≠ []
  alphanumeric : ∀ c ∈ text, isAlphanumeric c = true ∨ c = '_'

/-- A word in any letter case. -/
structure Word (word : String) where
  text : List Char
  spells : asciiLower text = word.toList

section Names

variable (n : Name) (color : Color) (t : Text)

def Name.value : String := String.ofList n.text

def Name.field : Field := .bare n.text

def Text.value : String := String.ofList t.text

def Text.field : Field := .quoted t.text

theorem Name.writable : n.field.Writable := n.plain

theorem Text.writable : t.field.Writable := t.no_quote

@[simp] theorem Name.name?_field : n.field.name? = some n.value := by
  simp [field, value, Field.name?, n.ne_nil]

@[simp] theorem Text.text?_field : t.field.text? = some t.value := by
  simp [field, value, Field.text?, t.ne_nil]

@[simp] theorem Color.color?_field : color.field.color? = some color.value := by
  have hne : color.text.isEmpty = false := List.isEmpty_eq_false_iff.mpr color.ne_nil
  have hblank : color.text.any isBlank = false := by
    rw [List.any_eq_false]
    intro c hc
    simp [color.one_word c hc]
  simp [Name.field, Name.value, Field.color?, Field.colorOf?, hne, hblank]

end Names

theorem isAlphanumeric_of_isNumeric {c : Char} (h : Numeral.isNumeric c = true) :
    isAlphanumeric c = true ∨ c = '_' ∨ c = '-' ∨ c = '.' := by
  rw [Numeral.isNumeric, Bool.or_eq_true, decide_eq_true_eq] at h
  rcases h with h | h
  · exact .inl (isAlphanumeric_of_isDigit h)
  · exact .inr (.inr (.inr h))

theorem Unsigned.signed_digits (u : Unsigned) : Numeral.signed u.digits = (false, u.digits) := by
  cases hu : u.digits with
  | nil => exact absurd hu u.ne_nil
  | cons c s =>
    have hc : c ≠ '-' := by
      rintro rfl
      have hminus := u.numeric '-' (by simp [hu])
      revert hminus
      decide
    unfold Numeral.signed
    split
    · next heq => exact absurd (List.cons.inj heq).1 hc
    · rfl

def Unsigned.value (u : Unsigned) : Binary64 := Numeral.value false u.digits

def Unsigned.field (u : Unsigned) : Field := .bare u.digits

theorem Unsigned.writable (u : Unsigned) : u.field.Writable :=
  Field.plain_of_alphanumeric fun c hc => isAlphanumeric_of_isNumeric (u.numeric c hc)

@[simp] theorem Unsigned.unsigned?_field (u : Unsigned) : u.field.unsigned? = some u.value := by
  have hne : u.digits.isEmpty = false := List.isEmpty_eq_false_iff.mpr u.ne_nil
  have hall : u.digits.all Numeral.isNumeric = true := List.all_eq_true.mpr u.numeric
  simp [field, value, Field.unsigned?, Numeral.readUnsigned?, Numeral.read?,
    u.signed_digits, hne, hall]

@[simp] theorem Scale.effectSize?_field (scale : Scale) :
    Command.effectSize? scale.field = some scale.value := by
  have hnan : scale.value.isNaN = false := scale.not_nan
  have hzero : scale.value.isZero = false := scale.not_zero
  simp [Command.effectSize?, hnan, hzero]

namespace Number

variable (n : Number)

def text : List Char := if n.negative then '-' :: n.digits else n.digits

def value : Binary64 := Numeral.value n.negative n.digits

def field : Field := .bare n.text

theorem signed_text : Numeral.signed n.text = (n.negative, n.digits) := by
  cases hn : n.negative with
  | false =>
    rw [text, hn]
    exact n.signed_digits
  | true =>
    rw [text, hn]
    rfl

theorem writable : n.field.Writable := by
  apply Field.plain_of_alphanumeric
  intro c hc
  have hmem : c = '-' ∨ c ∈ n.digits := by
    rw [text] at hc
    split at hc
    · exact List.mem_cons.mp hc
    · exact .inr hc
  rcases hmem with rfl | hmem
  · exact .inr (.inr (.inl rfl))
  · exact isAlphanumeric_of_isNumeric (n.numeric c hmem)

theorem read?_text : Numeral.read? n.text = some n.value := by
  have hne : n.digits.isEmpty = false := List.isEmpty_eq_false_iff.mpr n.ne_nil
  have hall : n.digits.all Numeral.isNumeric = true := List.all_eq_true.mpr n.numeric
  simp [value, Numeral.read?, n.signed_text, hne, hall]

@[simp] theorem number?_field : n.field.number? = some n.value := n.read?_text

end Number

def place (lat lng : Number) : Point where
  lng := lng.value
  lat := lat.value

@[simp] theorem point?_fields (lat lng : Number) :
    Field.point? lat.field lng.field = some (place lat lng) := by
  simp [Field.point?, place]

namespace Size

variable (size : Size)

def value : Nat := Json.Numeral.digitsValue size.digits

def field : Field := .bare size.digits

theorem writable : size.field.Writable :=
  Field.plain_of_alphanumeric fun c hc => .inl (isAlphanumeric_of_isDigit (size.all_digits c hc))

@[simp] theorem labelSize?_field : Command.labelSize? size.field = some size.value := by
  have hne : size.digits ≠ [] := by
    intro hnil
    have hpos := size.pos
    rw [hnil] at hpos
    exact absurd hpos (by decide)
  have hinside : ¬(Json.Numeral.digitsValue size.digits = 0 ∨
      Nat.pow 2 32 ≤ Json.Numeral.digitsValue size.digits) := by
    rintro (hzero | hlarge)
    · exact Nat.ne_of_gt size.pos hzero
    · exact Nat.not_le_of_gt size.lt hlarge
  simpa [field, value, Command.labelSize?, hne, hinside] using size.all_digits

end Size

namespace EffectName

variable (n : EffectName)

def value : String := lowercase (String.ofList n.text)

def field : Field := .bare n.text

theorem writable : n.field.Writable := by
  apply Field.plain_of_alphanumeric
  intro c hc
  rcases n.alphanumeric c hc with h | h
  · exact .inl h
  · exact .inr (.inl h)

@[simp] theorem effectName?_field : Command.effectName? n.field = some n.value := by
  have hname : n.field.name? = some (String.ofList n.text) := by
    simp [field, Field.name?, n.ne_nil]
  have hall : (n.text.all fun c => isAlphanumeric c || c = '_') = true := by
    rw [List.all_eq_true]
    intro c hc
    simpa using n.alphanumeric c hc
  rw [Command.effectName?, hname]
  change (if (String.ofList n.text).toList.all _ = true then _ else none) = _
  rw [String.toList_ofList, if_pos hall]
  rfl

end EffectName

namespace Word

variable {word : String} (w : Word word)

def field : Field := .bare w.text

theorem alphanumeric (hword : word.toList.all isAlphanumeric = true) :
    ∀ c ∈ w.text, isAlphanumeric c = true :=
  isAlphanumeric_of_asciiLower w.spells (List.all_eq_true.mp hword)

theorem writable (hword : word.toList.all isAlphanumeric = true) :
    w.field.Writable :=
  Field.plain_of_alphanumeric fun c hc => .inl (w.alphanumeric hword c hc)

@[simp] theorem word?_field : w.field.word? = some word := by
  simp [field, Field.word?, w.spells]

end Word

end Written

end ScriptedMap
