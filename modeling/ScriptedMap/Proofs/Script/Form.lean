import ScriptedMap.Proofs.Script.Head
import ScriptedMap.Proofs.Script.Token

namespace ScriptedMap

namespace Written

/-- What may stand behind the color of a region. -/
inductive Modifier where
  | occupied (word : Word "occupied")
  | animated (animation : Animation) (word : Word animation.name)

structure Side where
  direction : Direction
  word : Word direction.name

/-- A command with its values as they are written, and without the optional ones
that are left out. -/
inductive Form where
  | region (name country : Name) (color : Color) (modifier : Option Modifier)
  | bubble (lat lng : Number) (text : Text) (color : Option Color)
  | label (lat lng : Number) (text : Text) (size : Option (Size × Option Color))
  | arrow (lat lng : Number) (text : Text) (side : Option (Side × Option Color))
  /-- The fourth field is a color because it is no direction. -/
  | arrowColor (lat lng : Number) (text : Text) (color : Color)
      (notLeft : asciiLower color.text ≠ "left".toList)
      (notRight : asciiLower color.text ≠ "right".toList)
  | year (text : Text) (highlight : Option (Word "highlight"))
  | legend (text : Text) (color : Option Color)
  | effect (lat lng : Number) (name : EffectName) (color : Option (Color × Option Scale))
  | fly (lat lng : Number) (zoom : Unsigned)
  | cinematic (lat lng : Number) (zoom : Unsigned) (pitch : Option (Number × Option Number))

def Modifier.field : Modifier → Field
  | occupied word => word.field
  | animated _ word => word.field

def Side.field (side : Side) : Field := side.word.field

namespace Form

def keyword : Form → String
  | region .. => "region"
  | bubble .. => "bubble"
  | label .. => "label"
  | arrow .. => "arrow"
  | arrowColor .. => "arrow"
  | year .. => "year"
  | legend .. => "legend"
  | effect .. => "effect"
  | fly .. => "fly"
  | cinematic .. => "cinematic"

@[simp] def fields : Form → List Field
  | region name country color none => [name.field, country.field, color.field]
  | region name country color (some modifier) =>
    [name.field, country.field, color.field, modifier.field]
  | bubble lat lng text none => [lat.field, lng.field, text.field]
  | bubble lat lng text (some color) => [lat.field, lng.field, text.field, color.field]
  | label lat lng text none => [lat.field, lng.field, text.field]
  | label lat lng text (some (size, none)) => [lat.field, lng.field, text.field, size.field]
  | label lat lng text (some (size, some color)) =>
    [lat.field, lng.field, text.field, size.field, color.field]
  | arrow lat lng text none => [lat.field, lng.field, text.field]
  | arrow lat lng text (some (side, none)) => [lat.field, lng.field, text.field, side.field]
  | arrow lat lng text (some (side, some color)) =>
    [lat.field, lng.field, text.field, side.field, color.field]
  | arrowColor lat lng text color _ _ => [lat.field, lng.field, text.field, color.field]
  | year text none => [text.field]
  | year text (some highlight) => [text.field, highlight.field]
  | legend text none => [text.field]
  | legend text (some color) => [text.field, color.field]
  | effect lat lng name none => [lat.field, lng.field, name.field]
  | effect lat lng name (some (color, none)) => [lat.field, lng.field, name.field, color.field]
  | effect lat lng name (some (color, some scale)) =>
    [lat.field, lng.field, name.field, color.field, scale.field]
  | fly lat lng zoom => [lat.field, lng.field, zoom.field]
  | cinematic lat lng zoom none => [lat.field, lng.field, zoom.field]
  | cinematic lat lng zoom (some (pitch, none)) =>
    [lat.field, lng.field, zoom.field, pitch.field]
  | cinematic lat lng zoom (some (pitch, some bearing)) =>
    [lat.field, lng.field, zoom.field, pitch.field, bearing.field]

/-- The command, with the default for each value that is left out. The color of a label, a pitch and
a bearing stay absent; the configuration has the defaults for these. -/
@[simp] def command : Form → Command
  | region name country color none => .region name.value country.value color.value .none false
  | region name country color (some (.occupied _)) =>
    .region name.value country.value color.value .none true
  | region name country color (some (.animated animation _)) =>
    .region name.value country.value color.value animation false
  | bubble lat lng text none => .bubble (place lat lng) text.value "blue"
  | bubble lat lng text (some color) => .bubble (place lat lng) text.value color.value
  | label lat lng text none => .label (place lat lng) text.value 14 none
  | label lat lng text (some (size, color)) =>
    .label (place lat lng) text.value size.value (color.map (·.value))
  | arrow lat lng text none => .arrow (place lat lng) text.value .right "white"
  | arrow lat lng text (some (side, none)) =>
    .arrow (place lat lng) text.value side.direction "white"
  | arrow lat lng text (some (side, some color)) =>
    .arrow (place lat lng) text.value side.direction color.value
  | arrowColor lat lng text color _ _ => .arrow (place lat lng) text.value .right color.value
  | year text highlight => .year text.value highlight.isSome
  | legend text none => .legend (.entry text.value "blue")
  | legend text (some color) => .legend (.entry text.value color.value)
  | effect lat lng name none => .effect (place lat lng) name.value "red" 1
  | effect lat lng name (some (color, none)) =>
    .effect (place lat lng) name.value color.value 1
  | effect lat lng name (some (color, some scale)) =>
    .effect (place lat lng) name.value color.value scale.value
  | fly lat lng zoom => .fly (place lat lng) zoom.value
  | cinematic lat lng zoom none => .cinematic (place lat lng) zoom.value none none
  | cinematic lat lng zoom (some (pitch, bearing)) =>
    .cinematic (place lat lng) zoom.value (some pitch.value) (bearing.map (·.value))

/-- The line writes the form. -/
def Writes (form : Form) (line : List Char) : Prop :=
  ∃ (word : Word form.keyword) (head : List Char) (segments : List (List Char)),
    Field.Padded word.text head ∧
    List.Forall₂ (fun f s => Field.Padded f.written s) form.fields segments ∧
    line = head ++ ':' :: [','].intercalate segments

end Form

namespace Word

section Keywords

variable {keyword : Keyword} (word : Word keyword.name)

theorem not_mem {c : Char} (hc : separatorRanges.holds c = true) : c ∉ word.text := by
  intro hmem
  have halpha := word.alphanumeric (by cases keyword <;> decide) c hmem
  rw [not_alphanumeric_of_separator hc] at halpha
  cases halpha

theorem not_blank : ∀ c ∈ word.text, isBlank c = false := by
  intro c hc
  apply not_blank_of_isAlphanumeric
  exact word.alphanumeric (by cases keyword <;> decide) c hc

end Keywords

/-- What stands before the first colon of a line is its keyword, and what stands behind are its
arguments. -/
theorem ofLine?_eq {keyword : Keyword} {name : String} (hname : name = keyword.name)
    (word : Word name) {head : List Char} (hhead : Field.Padded word.text head)
    (args : List Char) :
    Command.ofLine? (head ++ ':' :: args) = Command.ofArguments? keyword (trim args) := by
  subst hname
  obtain ⟨before, after, hb, ha, rfl⟩ := hhead
  have htrim : trim (before ++ word.text ++ after) = word.text :=
    (trim_append hb word.text ha).trans (trim_of_not_blank word.not_blank)
  have hcolon : ':' ∉ before ++ word.text ++ after := by
    simp only [List.mem_append, not_or]
    exact ⟨⟨not_mem_of_allBlank hb (by decide), word.not_mem (by decide)⟩,
      not_mem_of_allBlank ha (by decide)⟩
  apply Command.ofLine?_of_keyword hcolon
  rw [htrim]
  exact word.spells

end Word

/-- A word that is an argument of its own is one bare field. -/
theorem fields?_of_spells {word : String} {args : List Char}
    (hword : word.toList.all isAlphanumeric = true) (h : asciiLower args = word.toList) :
    Command.fields? args = some [.bare args] := by
  have hwritable : (Field.bare args).Writable := (Word.mk args h).writable hword
  have hpadded : Field.Padded args args := ⟨[], [], allBlank_nil, allBlank_nil, by simp⟩
  have hitems : Field.items args = [Field.bare args].map .ok :=
    Field.items_segment (hwritable.segment hpadded)
  rw [Command.fields?, Field.list_of_items_ok hitems]
  rfl

theorem Modifier.writable (modifier : Modifier) : modifier.field.Writable := by
  cases modifier with
  | occupied word => exact word.writable (by decide)
  | animated animation word =>
    apply word.writable
    cases animation <;> decide

theorem Side.writable (side : Side) : side.field.Writable := by
  apply side.word.writable
  cases side.direction <;> decide

@[simp] theorem Side.direction?_field (side : Side) :
    side.field.direction? = some side.direction := by
  have hname : Direction.ofName? side.direction.name = some side.direction := by
    cases side.direction <;> rfl
  simp [field, Field.direction?, hname]

theorem Color.direction?_field {color : Color} (hleft : asciiLower color.text ≠ "left".toList)
    (hright : asciiLower color.text ≠ "right".toList) : color.field.direction? = none := by
  have hne (d : Direction) : d.name ≠ String.ofList (asciiLower color.text) := by
    intro heq
    have hlist := congrArg String.toList heq
    rw [String.toList_ofList] at hlist
    cases d with
    | left => exact hleft hlist.symm
    | right => exact hright hlist.symm
  change Direction.ofName? _ = none
  rw [Direction.ofName?, List.find?_eq_none]
  intro d _
  simpa using hne d

namespace Form

theorem fields_writable (form : Form) : ∀ f ∈ form.fields, f.Writable := by
  have hword (w : Word "highlight") : w.field.Writable := w.writable (by decide)
  unfold fields
  split <;> simp [Name.writable, Text.writable, Unsigned.writable, Number.writable, Size.writable,
    EffectName.writable, Modifier.writable, Side.writable, hword]

theorem fields_ne_nil (form : Form) : form.fields ≠ [] := by
  unfold fields
  split <;> exact List.cons_ne_nil _ _

def rule : Form → Keyword
  | region .. => .region
  | bubble .. => .bubble
  | label .. => .label
  | arrow .. => .arrow
  | arrowColor .. => .arrow
  | year .. => .year
  | legend .. => .legend
  | effect .. => .effect
  | fly .. => .fly
  | cinematic .. => .cinematic

theorem keyword_eq (form : Form) : form.keyword = form.rule.name := by
  cases form <;> rfl

section Rules

variable (name country : Name) (color : Color) (lat lng : Number) (text : Text)

theorem region?_fields (modifier : Option Modifier) :
    Command.region? (region name country color modifier).fields =
      some (region name country color modifier).command := by
  cases modifier with
  | none => simp [Command.region?]
  | some modifier =>
    cases modifier with
    | occupied word => simp [Command.region?, Modifier.field]
    | animated animation word =>
      have hother : animation.name ≠ "occupied" := by cases animation <;> decide
      have hname : Animation.ofName? animation.name = some animation := by
        cases animation <;> rfl
      simp [Command.region?, Modifier.field, Field.animation?, hother, hname]

theorem bubble?_fields (color : Option Color) :
    Command.bubble? (bubble lat lng text color).fields =
      some (bubble lat lng text color).command := by
  cases color <;> simp [Command.bubble?, Command.defaultTextColor]

theorem label?_fields (size : Option (Size × Option Color)) :
    Command.label? (label lat lng text size).fields =
      some (label lat lng text size).command := by
  rcases size with - | ⟨size, - | color⟩ <;>
    simp [Command.label?, Command.defaultLabelSize]

theorem arrow?_fields (side : Option (Side × Option Color)) :
    Command.arrow? (arrow lat lng text side).fields =
      some (arrow lat lng text side).command := by
  rcases side with - | ⟨side, - | color⟩ <;>
    simp [Command.arrow?, Command.defaultArrowColor]

theorem arrow?_fields_color {color : Color} (hleft : asciiLower color.text ≠ "left".toList)
    (hright : asciiLower color.text ≠ "right".toList) :
    Command.arrow? (arrowColor lat lng text color hleft hright).fields =
      some (arrowColor lat lng text color hleft hright).command := by
  simp [Command.arrow?, Color.direction?_field hleft hright]

theorem year?_fields (highlight : Option (Word "highlight")) :
    Command.year? (year text highlight).fields = some (year text highlight).command := by
  cases highlight <;> simp [Command.year?]

theorem legendEntry?_fields (color : Option Color) :
    Command.legendEntry? (legend text color).fields = some (legend text color).command := by
  cases color <;> simp [Command.legendEntry?, Command.defaultTextColor]

theorem effect?_fields (name : EffectName) (color : Option (Color × Option Scale)) :
    Command.effect? (effect lat lng name color).fields =
      some (effect lat lng name color).command := by
  rcases color with - | ⟨color, - | scale⟩ <;>
    simp [Command.effect?, Command.defaultEffectColor, Command.defaultEffectSize]

theorem fly?_fields (zoom : Unsigned) :
    Command.fly? (fly lat lng zoom).fields = some (fly lat lng zoom).command := by
  simp [Command.fly?]

theorem cinematic?_fields (zoom : Unsigned) (pitch : Option (Number × Option Number)) :
    Command.cinematic? (cinematic lat lng zoom pitch).fields =
      some (cinematic lat lng zoom pitch).command := by
  rcases pitch with - | ⟨pitch, - | bearing⟩ <;> simp [Command.cinematic?]

end Rules

theorem legend_ofArguments? {args : List Char} {text : List Char} {fs : List Field}
    (h : Command.fields? args = some (.quoted text :: fs)) :
    Command.ofArguments? .legend args = Command.legendEntry? (.quoted text :: fs) := by
  have hne (word : String) (hword : word.toList.all isAlphanumeric = true) :
      asciiLower args ≠ word.toList := by
    intro hspells
    -- the word alone would be one bare field, but the first field is quoted
    rw [fields?_of_spells hword hspells] at h
    cases h
  rw [Command.ofArguments?, if_neg (hne "auto" (by decide)),
    if_neg (hne "hide" (by decide)), h]
  rfl

theorem fields_legend (text : Text) (color : Option Color) :
    ∃ fs, (legend text color).fields = .quoted text.text :: fs := by
  cases color with
  | none => exact ⟨_, rfl⟩
  | some color => exact ⟨_, rfl⟩

theorem ofArguments?_of_fields {form : Form} {args : List Char}
    (h : Command.fields? args = some form.fields) :
    Command.ofArguments? form.rule args = some form.command := by
  cases form with
  | region name country color modifier =>
    exact Option.bind_eq_some_iff.mpr ⟨_, h, region?_fields name country color modifier⟩
  | bubble lat lng text color =>
    exact Option.bind_eq_some_iff.mpr ⟨_, h, bubble?_fields lat lng text color⟩
  | label lat lng text size =>
    exact Option.bind_eq_some_iff.mpr ⟨_, h, label?_fields lat lng text size⟩
  | arrow lat lng text side =>
    exact Option.bind_eq_some_iff.mpr ⟨_, h, arrow?_fields lat lng text side⟩
  | arrowColor lat lng text color hleft hright =>
    exact Option.bind_eq_some_iff.mpr ⟨_, h, arrow?_fields_color lat lng text hleft hright⟩
  | year text highlight =>
    exact Option.bind_eq_some_iff.mpr ⟨_, h, year?_fields text highlight⟩
  | legend text color =>
    obtain ⟨fs, hfs⟩ := fields_legend text color
    rw [hfs] at h
    rw [rule, legend_ofArguments? h, ← hfs, legendEntry?_fields]
  | effect lat lng name color =>
    exact Option.bind_eq_some_iff.mpr ⟨_, h, effect?_fields lat lng name color⟩
  | fly lat lng zoom =>
    exact Option.bind_eq_some_iff.mpr ⟨_, h, fly?_fields lat lng zoom⟩
  | cinematic lat lng zoom pitch =>
    exact Option.bind_eq_some_iff.mpr ⟨_, h, cinematic?_fields lat lng zoom pitch⟩

theorem fields?_of_padded {form : Form} {segments : List (List Char)}
    (h : List.Forall₂ (fun f s => Field.Padded f.written s) form.fields segments) :
    Command.fields? (trim ([','].intercalate segments)) = some form.fields := by
  have hne : segments ≠ [] := by
    rintro rfl
    exact form.fields_ne_nil (List.forall₂_nil_right_iff.mp h)
  have hitems := Field.items_intercalate (Field.segments_of_padded form.fields_writable h) hne
  rw [Command.fields?, Field.list_of_items_ok]
  · rfl
  · rw [Field.items_trim, hitems]

/-- A line that writes a form gives its command. -/
theorem ofLine?_of_writes {form : Form} {line : List Char} (h : form.Writes line) :
    Command.ofLine? line = some form.command := by
  obtain ⟨word, head, segments, hhead, hsegments, rfl⟩ := h
  have hfields : Command.fields? (trim ([','].intercalate segments)) = some form.fields :=
    fields?_of_padded hsegments
  rw [word.ofLine?_eq form.keyword_eq hhead, ofArguments?_of_fields hfields]

/-- A legend entry whose text has a colon, a comma and a hash sign in it. -/
theorem ofLine?_of_writes_legend :
    let line := "  Legend : \"to: a, #b\"  ,red ".toList
    (∃ form : Form, form.Writes line) ∧
      Command.ofLine? line = some (.legend (.entry "to: a, #b" "red")) := by
  intro line
  let text : Text := ⟨"to: a, #b".toList, by decide, by decide⟩
  let color : Color := ⟨⟨"red".toList, by decide, by decide, by decide, by decide⟩, fun c hc =>
    not_blank_of_isAlphanumeric (List.all_eq_true.mp (by decide) c hc)⟩
  have hwrites : (legend text (some color)).Writes line := by
    refine ⟨⟨"Legend".toList, by decide⟩, "  Legend ".toList,
      [" \"to: a, #b\"  ".toList, "red ".toList], ?_, ?_, by decide⟩
    · exact ⟨[' ', ' '], [' '], by decide, by decide, by decide⟩
    · have htext : Field.Padded text.field.written " \"to: a, #b\"  ".toList :=
        ⟨[' '], [' ', ' '], by decide, by decide, by decide⟩
      have hcolor : Field.Padded color.field.written "red ".toList :=
        ⟨[], [' '], by decide, by decide, by decide⟩
      exact .cons htext (.cons hcolor .nil)
  exact ⟨⟨_, hwrites⟩, (ofLine?_of_writes hwrites).trans (by decide)⟩

end Form

end Written

end ScriptedMap
