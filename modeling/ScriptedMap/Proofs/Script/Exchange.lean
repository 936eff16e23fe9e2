import ScriptedMap.Proofs.Json.Reader
import ScriptedMap.Proofs.Script.Head
import ScriptedMap.Script.Json

namespace ScriptedMap

namespace Json

variable {α : Type}

/-- A part of an object whose names differ is found by its name. -/
theorem part?_of_mem {fields : List (String × Json)} (hnames : (fields.map (·.1)).Nodup)
    {name : String} {v : Json} (hv : (name, v) ∈ fields) (position : Nat) (read : Json → Option α)
    (absent : Option α) : (object fields).part? position name read absent = read v := by
  have hfilter : fields.filter (·.1 == name) = [(name, v)] := by
    induction fields with
    | nil => cases hv
    | cons f fs ih =>
      obtain ⟨hfirst, hrest⟩ := List.nodup_cons.mp hnames
      rcases List.mem_cons.mp hv with rfl | hv
      · have hnone : fs.filter (·.1 == name) = [] := by
          rw [List.filter_eq_nil_iff]
          intro g hg hname
          exact hfirst (List.mem_map.mpr ⟨g, hg, beq_iff_eq.mp hname⟩)
        simp [hnone]
      · have hother : f.1 ≠ name := by
          intro hname
          exact hfirst (List.mem_map.mpr ⟨(name, v), hv, hname.symm⟩)
        rw [List.filter_cons_of_neg (by simpa using hother)]
        exact ih hrest hv
  rw [part?, hfilter]

theorem real?_reread {x : Binary64} (h : x.isFinite = true → ReadsBack x) :
    real? (reread (ofReal x)) = if x.isFinite then some x else none := by
  rcases reread_ofReal h with ⟨hx, n, hread, hn⟩ | ⟨hx, hread⟩
  · rw [hread, hx, real?, hn]
    rfl
  · rw [hread, hx]
    rfl

theorem optional?_real?_reread {x : Option Binary64}
    (h : ∀ y ∈ x, y.isFinite = true → ReadsBack y) :
    optional? real? (reread (Command.orNull (x.map ofReal))) =
      some (x.filter Binary64.isFinite) := by
  cases x with
  | none => rfl
  | some x =>
    rw [Option.map_some, Command.orNull, Option.getD_some, Option.filter_some]
    rcases reread_ofReal (h x rfl) with ⟨hx, n, hread, hn⟩ | ⟨hx, hread⟩
    · rw [hread, hx]
      exact congrArg (fun y => some (some y)) hn
    · rw [hread, hx]
      rfl

theorem isReadable_reread_ofReal {x : Binary64} (h : x.isFinite = true → ReadsBack x)
    (depth : Nat) :
    isReadable depth (reread (ofReal x)) = true := by
  rcases reread_ofReal h with ⟨-, n, hread, -⟩ | ⟨-, hread⟩
  · rw [hread]
    rfl
  · rw [hread]
    rfl

end Json

open Json

/-- The numbers at one end of a connector. -/
def Endpoint.reals : Endpoint → List Binary64
  | point place => [place.lat, place.lng]
  | territory _ => []

namespace Command

/-- The numbers that a command cannot do without. -/
def requiredReals : Command → List Binary64
  | line source target _ => source.reals ++ target.reals
  | attack source target _ curve width headSize =>
    source.reals ++ target.reals ++ [curve, width, headSize]
  | bubble place _ _ => [place.lat, place.lng]
  | label place _ _ _ => [place.lat, place.lng]
  | arrow place _ _ _ => [place.lat, place.lng]
  | effect place _ _ size => [place.lat, place.lng, size]
  | fly place level => [place.lat, place.lng, level]
  | cinematic place level _ _ => [place.lat, place.lng, level]
  | _ => []

/-- The numbers that may be missing in a command. -/
def optionalReals : Command → List Binary64
  | cinematic _ _ pitch bearing => pitch.toList ++ bearing.toList
  | _ => []

def reals (command : Command) : List Binary64 := command.requiredReals ++ command.optionalReals

/-- Sizes of labels have 32 bits, and waiting times 64. -/
def InBounds : Command → Prop
  | label _ _ size _ => size < Nat.pow 2 32
  | wait ms => ms < Nat.pow 2 64
  | _ => True

/-- The command without those numbers that may be missing and are not finite. -/
def withoutNonFinite : Command → Command
  | cinematic place level pitch bearing =>
    cinematic place level (pitch.filter Binary64.isFinite) (bearing.filter Binary64.isFinite)
  | command => command

/-- The fields of the record that is written. -/
def fields (command : Command) : List (String × Json) :=
  ("type", .text command.keyword.name) :: command.parts

theorem names_nodup (command : Command) : (command.fields.map (·.1)).Nodup := by
  cases command with
  | legend change => cases change <;> simp [fields, parts, LegendChange.parts]
  | _ => simp [fields, parts, ofPoint]

/-- What is read of a written command. -/
def written (command : Command) : Json := command.toJson.reread

variable {α : Type} {c : Command}

theorem written_eq : c.written = .object (c.fields.map fun f => (f.1, f.2.reread)) := by
  rw [written, toJson, reread, rereadFields_eq_map, fields]

theorem part?_written {part : String} {v : Json} (hv : (part, v) ∈ c.fields) (position : Nat)
    (read : Json → Option α) (absent : Option α) :
    c.written.part? position part read absent = read v.reread := by
  have hnames : (c.fields.map fun f => (f.1, f.2.reread)).map (·.1) = c.fields.map (·.1) := by
    rw [List.map_map]
    rfl
  have hmem : (part, v.reread) ∈ c.fields.map fun f => (f.1, f.2.reread) :=
    List.mem_map.mpr ⟨(part, v), hv, rfl⟩
  rw [written_eq]
  exact part?_of_mem (hnames ▸ c.names_nodup) hmem position read absent

theorem bind_ite {β : Type} (p : Prop) [Decidable p] (a : α) (f : α → Option β) :
    ((if p then some a else none) >>= f) = if p then f a else none := by
  split
  · rfl
  · rfl

/-- A part that is written as a text. -/
theorem need_word {read : Json → Option α} (position : Nat) (part : String) {s : String} {a : α}
    (hread : read (.text s) = some a) (hs : (part, .text s) ∈ c.fields) :
    need position part read c.written = some a :=
  (part?_written hs position read none).trans hread

theorem need_text (position : Nat) (part s : String) (hs : (part, .text s) ∈ c.fields) :
    need position part Json.text? c.written = some s :=
  need_word position part rfl hs

theorem need_boolean (position : Nat) (part : String) (b : Bool)
    (hb : (part, .boolean b) ∈ c.fields) : need position part Json.boolean? c.written = some b :=
  part?_written hb position Json.boolean? none

theorem need_natural (position : Nat) (part : String) {n bound : Nat} (hbound : n < bound)
    (hbits : bound ≤ Nat.pow 2 64) (hn : (part, .ofNat n) ∈ c.fields) :
    need position part (Json.natural? bound) c.written = some n := by
  have hread : Json.natural? bound (reread (.ofNat n)) = some n := by
    have hlt : (n : Int) < bound := Int.ofNat_lt.mpr hbound
    rw [reread_ofNat (Nat.lt_of_lt_of_le hbound hbits)]
    simp [Json.natural?, Json.ofNat, hlt]
  exact (part?_written hn position _ none).trans hread

theorem animation?_name (animation : Animation) :
    animation? (.text animation.name) = some animation := by
  cases animation <;> rfl

theorem direction?_name (direction : Direction) :
    direction? (.text direction.name) = some direction := by
  cases direction <;> rfl

theorem removal?_name (what : Removal) : removal? (.text what.name) = some what := by
  cases what <;> rfl

theorem legendChange?_written (change : LegendChange) :
    LegendChange.ofJson? (legend change).written = some change := by
  cases change with
  | entry label color =>
    have hmode : (legend (.entry label color)).written.part? 1 "mode" LegendChange.mode? none
        = some "entry" :=
      part?_written (v := .text "entry") (by simp [fields, parts, LegendChange.parts]) 1 _ none
    have hlabel :
        (legend (.entry label color)).written.part? 2 "label" Json.text? none = some label :=
      need_text 2 "label" label (by simp [fields, parts, LegendChange.parts])
    have hcolor :
        (legend (.entry label color)).written.part? 3 "color" Json.text? none = some color :=
      need_text 3 "color" color (by simp [fields, parts, LegendChange.parts])
    rw [LegendChange.ofJson?, hmode, hlabel, hcolor]
    rfl
  | auto =>
    have hmode : (legend .auto).written.part? 1 "mode" LegendChange.mode? none = some "auto" :=
      part?_written (v := .text "auto") (by simp [fields, parts, LegendChange.parts]) 1 _ none
    rw [LegendChange.ofJson?, hmode]
    rfl
  | hide =>
    have hmode : (legend .hide).written.part? 1 "mode" LegendChange.mode? none = some "hide" :=
      part?_written (v := .text "hide") (by simp [fields, parts, LegendChange.parts]) 1 _ none
    rw [LegendChange.ofJson?, hmode]
    rfl

/-- Every finite number of the command is read back from its own text. -/
def Exact (command : Command) : Prop := ∀ x ∈ command.reals, x.isFinite = true → ReadsBack x

theorem need_real (h : c.Exact) (position : Nat) (part : String) (x : Binary64)
    (hpart : (part, .ofReal x) ∈ c.fields) (hx : x ∈ c.requiredReals) :
    need position part Json.real? c.written = if x.isFinite then some x else none :=
  (part?_written hpart position _ none).trans (real?_reread (h x (List.mem_append_left _ hx)))

theorem part?_optionalText (position : Nat) (part : String) (s : Option String)
    (hpart : (part, orNull (s.map .text)) ∈ c.fields) :
    c.written.part? position part (Json.optional? Json.text?) (some none) = some s := by
  refine (part?_written hpart position _ _).trans ?_
  cases s with
  | none => rfl
  | some s => rfl

theorem part?_optionalReal (h : c.Exact) (position : Nat) (part : String) (x : Option Binary64)
    (hpart : (part, orNull (x.map .ofReal)) ∈ c.fields) (hx : ∀ y ∈ x, y ∈ c.optionalReals) :
    c.written.part? position part (Json.optional? Json.real?) (some none)
      = some (x.filter Binary64.isFinite) :=
  (part?_written hpart position _ _).trans
    (optional?_real?_reread fun y hy => h y (List.mem_append_right _ (hx y hy)))

theorem place?_written (h : c.Exact) (place : Point) (hplace : ∀ f ∈ ofPoint place, f ∈ c.fields)
    (hlat : place.lat ∈ c.requiredReals) (hlng : place.lng ∈ c.requiredReals) :
    place? c.written = if place.lat.isFinite && place.lng.isFinite then some place else none := by
  have hneedLat := need_real h 1 "lat" place.lat (hplace _ (by simp [ofPoint])) hlat
  have hneedLng := need_real h 2 "lng" place.lng (hplace _ (by simp [ofPoint])) hlng
  rw [place?, hneedLat, hneedLng]
  cases place.lat.isFinite
  · cases place.lng.isFinite <;> rfl
  · cases place.lng.isFinite <;> rfl

theorem need_endpoint (h : c.Exact) (position : Nat) (part : String) (e : Endpoint)
    (hpart : (part, e.toJson) ∈ c.fields) (he : ∀ x ∈ e.reals, x ∈ c.requiredReals) :
    need position part Endpoint.ofJson? c.written
      = if e.reals.all Binary64.isFinite then some e else none := by
  refine (part?_written hpart position _ none).trans ?_
  cases e with
  | territory text => rfl
  | point place =>
    have hexact (x : Binary64) (hx : x ∈ (Endpoint.point place).reals) :
        x.isFinite = true → ReadsBack x :=
      h x (List.mem_append_left _ (he x hx))
    have hlat := real?_reread (hexact place.lat (by simp [Endpoint.reals]))
    have hlng := real?_reread (hexact place.lng (by simp [Endpoint.reals]))
    have hobject : (Endpoint.point place).toJson.reread
        = .object [("lat", reread (.ofReal place.lat)), ("lng", reread (.ofReal place.lng))] := rfl
    have hnames : ([("lat", reread (.ofReal place.lat)), ("lng", reread (.ofReal place.lng))].map
        (·.1)).Nodup := by simp
    rw [hobject, Endpoint.ofJson?, part?_of_mem hnames List.mem_cons_self,
      part?_of_mem hnames (List.mem_cons_of_mem _ List.mem_cons_self), hlat, hlng]
    simp only [bind_ite, Endpoint.reals, List.all_cons, List.all_nil, Bool.and_true,
      Bool.and_eq_true, ite_and]
    rfl

/-- The parts of a written command are read if all required numbers are finite. -/
theorem ofParts?_written (hbounds : c.InBounds) (h : c.Exact) :
    ofParts? c.keyword c.written
      = if c.requiredReals.all Binary64.isFinite then some c.withoutNonFinite else none := by
  -- each part is rewritten by its name; what is left says that it is among the fields
  cases c with
  | country name color animation =>
    rw [keyword, ofParts?, need_text 1 "name" name, need_text 2 "color" color,
      need_word 3 "animation" (animation?_name animation)]
    · rfl
    all_goals simp [fields, parts]
  | region name parent color animation occupied =>
    rw [keyword, ofParts?, need_text 1 "name" name, need_text 2 "country" parent,
      need_text 3 "color" color, need_word 4 "animation" (animation?_name animation),
      need_boolean 5 "occupied" occupied]
    · rfl
    all_goals simp [fields, parts]
  | line source target color =>
    rw [keyword, ofParts?, need_endpoint h 1 "from" source, need_endpoint h 2 "to" target,
      need_text 3 "color" color]
    · simp only [bind_ite]
      simp [requiredReals, withoutNonFinite, ite_and]
    all_goals simp +contextual [fields, parts, requiredReals]
  | attack source target color curve width headSize =>
    rw [keyword, ofParts?, need_endpoint h 1 "from" source, need_endpoint h 2 "to" target,
      need_text 3 "color" color, need_real h 4 "curve" curve, need_real h 5 "width" width,
      need_real h 6 "headSize" headSize]
    · simp only [bind_ite]
      simp [requiredReals, withoutNonFinite, ite_and]
    all_goals simp +contextual [fields, parts, requiredReals]
  | bubble place text color =>
    rw [keyword, ofParts?, place?_written h place, need_text 3 "text" text,
      need_text 4 "color" color]
    · simp [requiredReals, bind_ite, withoutNonFinite]
    all_goals simp +contextual [fields, parts, requiredReals]
  | label place text size color =>
    rw [keyword, ofParts?, place?_written h place, need_text 3 "text" text,
      need_natural 4 "size" hbounds (by decide), part?_optionalText 5 "color" color]
    · simp [requiredReals, bind_ite, withoutNonFinite]
    all_goals simp +contextual [fields, parts, requiredReals]
  | arrow place text direction color =>
    rw [keyword, ofParts?, place?_written h place, need_text 3 "text" text,
      need_word 4 "direction" (direction?_name direction), need_text 5 "color" color]
    · simp [requiredReals, bind_ite, withoutNonFinite]
    all_goals simp +contextual [fields, parts, requiredReals]
  | year text highlight =>
    rw [keyword, ofParts?, need_text 1 "text" text, need_boolean 2 "highlight" highlight]
    · rfl
    all_goals simp [fields, parts]
  | effect place name color size =>
    rw [keyword, ofParts?, place?_written h place, need_text 3 "effectName" name,
      need_text 4 "color" color, need_real h 5 "size" size]
    · simp only [bind_ite]
      simp [requiredReals, withoutNonFinite, ite_and]
    all_goals simp +contextual [fields, parts, requiredReals]
  | legend change =>
    rw [keyword, ofParts?, legendChange?_written]
    rfl
  | zoom target =>
    rw [keyword, ofParts?, need_text 1 "target" target]
    · rfl
    all_goals simp [fields, parts]
  | fly place level =>
    rw [keyword, ofParts?, place?_written h place, need_real h 3 "zoom" level]
    · simp only [bind_ite]
      simp [requiredReals, withoutNonFinite, ite_and]
    all_goals simp +contextual [fields, parts, requiredReals]
  | cinematic place level pitch bearing =>
    rw [keyword, ofParts?, place?_written h place, need_real h 3 "zoom" level,
      part?_optionalReal h 4 "pitch" pitch, part?_optionalReal h 5 "bearing" bearing]
    · simp only [bind_ite]
      simp [requiredReals, withoutNonFinite, ite_and]
    all_goals simp +contextual [fields, parts, requiredReals, optionalReals]
  | wait ms =>
    rw [keyword, ofParts?, need_natural 1 "ms" hbounds (Nat.le_refl _)]
    · rfl
    all_goals simp [fields, parts]
  | remove what =>
    rw [keyword, ofParts?, need_word 1 "scope" (removal?_name what)]
    · rfl
    all_goals simp [fields, parts]

theorem ofJson?_written (hbounds : c.InBounds) (h : c.Exact) :
    ofJson? c.written
      = if c.requiredReals.all Binary64.isFinite then some c.withoutNonFinite else none := by
  have hname : need 0 "type" Json.text? c.written = some c.keyword.name :=
    need_text 0 "type" c.keyword.name List.mem_cons_self
  have hfits : (partCount? c.keyword).all c.written.fits = true := by
    rw [written_eq]
    cases partCount? c.keyword with
    | none => rfl
    | some size => rfl
  rw [ofJson?, hname, Option.bind_eq_bind, Option.bind_some, Keyword.ofName?_name,
    Option.bind_eq_bind, Option.bind_some, if_pos hfits]
  exact ofParts?_written hbounds h

theorem isReadable_real (h : c.Exact) {x : Binary64} (hx : x ∈ c.reals) (depth : Nat) :
    isReadable depth (reread (.ofReal x)) = true :=
  isReadable_reread_ofReal (h x hx) depth

theorem isReadable_optionalReal (h : c.Exact) {x : Option Binary64} (hx : ∀ y ∈ x, y ∈ c.reals)
    (depth : Nat) : isReadable depth (reread (orNull (x.map .ofReal))) = true := by
  cases x with
  | none => rfl
  | some x => exact isReadable_real h (hx x rfl) depth

theorem isReadable_natural {n : Nat} (hn : n < Nat.pow 2 64) (depth : Nat) :
    isReadable depth (reread (.ofNat n)) = true := by
  rw [reread_ofNat hn]
  rfl

theorem isReadable_endpoint (h : c.Exact) (e : Endpoint) (he : ∀ x ∈ e.reals, x ∈ c.reals)
    (depth : Nat) : isReadable (depth + 1) (reread e.toJson) = true := by
  cases e with
  | territory name => rfl
  | point place =>
    have hlat := isReadable_real h (he place.lat (by simp [Endpoint.reals])) depth
    have hlng := isReadable_real h (he place.lng (by simp [Endpoint.reals])) depth
    simp [Endpoint.toJson, reread, rereadFields, isReadable, fieldsReadable, hlat, hlng]

theorem fieldsReadable_iff {fs : List (String × Json)} {depth : Nat} :
    fieldsReadable depth fs = true ↔ ∀ f ∈ fs, f.2.isReadable depth = true := by
  induction fs with
  | nil => simp [fieldsReadable]
  | cons f fs ih => rw [fieldsReadable, Bool.and_eq_true, ih, List.forall_mem_cons]

theorem isReadable_of_mem_fields (hbounds : c.InBounds) (h : c.Exact) (depth : Nat) :
    ∀ f ∈ c.fields, f.2.reread.isReadable (depth + 1) = true := by
  have hreals : ∀ x ∈ c.requiredReals, (reread (.ofReal x)).isReadable (depth + 1) = true :=
    fun x hx => isReadable_real h (List.mem_append_left _ hx) (depth + 1)
  cases c with
  | line source target color =>
    have hsource := isReadable_endpoint h source (by simp +contextual [reals, requiredReals]) depth
    have htarget := isReadable_endpoint h target (by simp +contextual [reals, requiredReals]) depth
    simp [fields, parts, reread, isReadable, hsource, htarget]
  | attack source target color curve width headSize =>
    have hsource := isReadable_endpoint h source (by simp +contextual [reals, requiredReals]) depth
    have htarget := isReadable_endpoint h target (by simp +contextual [reals, requiredReals]) depth
    simp only [requiredReals, List.forall_mem_append, List.forall_mem_cons] at hreals
    simp [fields, parts, reread, isReadable, hsource, htarget, hreals]
  | label place text size color =>
    have hsize : size < Nat.pow 2 64 := Nat.lt_of_lt_of_le hbounds (by decide)
    have hcolor : (reread (orNull (color.map .text))).isReadable (depth + 1) = true := by
      cases color <;> rfl
    simp only [requiredReals, List.forall_mem_cons] at hreals
    simp [fields, parts, ofPoint, reread, isReadable, hreals, isReadable_natural hsize, hcolor]
  | legend change => cases change <;> simp [fields, parts, LegendChange.parts, reread, isReadable]
  | cinematic place level pitch bearing =>
    have hpitch := isReadable_optionalReal h (x := pitch)
      (by simp +contextual [reals, optionalReals]) (depth + 1)
    have hbearing := isReadable_optionalReal h (x := bearing)
      (by simp +contextual [reals, optionalReals]) (depth + 1)
    simp only [requiredReals, List.forall_mem_cons] at hreals
    simp [fields, parts, ofPoint, reread, isReadable, hreals, hpitch, hbearing]
  | wait ms => simp [fields, parts, reread, isReadable, isReadable_natural hbounds]
  | _ =>
    simp only [requiredReals, List.forall_mem_cons] at hreals
    simp [fields, parts, ofPoint, reread, isReadable, hreals]

theorem isReadable_written (hbounds : c.InBounds) (h : c.Exact) (depth : Nat) :
    c.written.isReadable (depth + 2) = true := by
  have hfields := isReadable_of_mem_fields hbounds h depth
  rw [written_eq, isReadable, fieldsReadable_iff.mpr]
  · rfl
  · intro f hf
    obtain ⟨g, hg, rfl⟩ := List.mem_map.mp hf
    exact hfields g hg

/-- Reads the command at a position among the commands of a written script. -/
def ofDump? (text : String) (position : Nat) : Option Command := do
  let script ← Json.read? text
  let commands ← (← script.field? "commands").array?
  let command ← commands[position]?
  if command.isReadable (maxDepth - 2) then ofJson? command else none

/-- What is read of a written command: the command itself if all its numbers are finite, the command
without pitch or bearing where only these are not, and nothing if another number is not finite. -/
structure Recovers (command : Command) (read : Option Command) : Prop where
  exact : (∀ x ∈ command.reals, x.isFinite = true) → read = some command
  without : (∀ x ∈ command.requiredReals, x.isFinite = true) →
    read = some command.withoutNonFinite
  refused : (∃ x ∈ command.requiredReals, x.isFinite = false) → read = none

theorem withoutNonFinite_eq (h : ∀ x ∈ c.optionalReals, x.isFinite = true) :
    c.withoutNonFinite = c := by
  cases c with
  | cinematic place level pitch bearing =>
    have hfilter (x : Option Binary64) (hx : ∀ y ∈ x, y.isFinite = true) :
        x.filter Binary64.isFinite = x := by
      cases x with
      | none => rfl
      | some y => simp [hx y rfl]
    rw [withoutNonFinite, hfilter pitch, hfilter bearing]
    · exact fun y hy => h y (List.mem_append_right _ (Option.mem_toList.mpr hy))
    · exact fun y hy => h y (List.mem_append_left _ (Option.mem_toList.mpr hy))
  | _ => rfl

theorem recovers_ofJson? (hbounds : c.InBounds) (h : c.Exact) : c.Recovers (ofJson? c.written) := by
  have hread := ofJson?_written hbounds h
  have hwithout (hfinite : ∀ x ∈ c.requiredReals, x.isFinite = true) :
      ofJson? c.written = some c.withoutNonFinite := by
    rw [hread, if_pos (List.all_eq_true.mpr hfinite)]
  refine ⟨?_, hwithout, ?_⟩
  · intro hfinite
    have hrequired : ∀ x ∈ c.requiredReals, x.isFinite = true :=
      fun x hx => hfinite x (List.mem_append_left _ hx)
    rw [hwithout hrequired, withoutNonFinite_eq fun x hx => hfinite x (List.mem_append_right _ hx)]
  · rintro ⟨x, hx, hinfinite⟩
    have hall : c.requiredReals.all Binary64.isFinite = false :=
      List.all_eq_false.mpr ⟨x, hx, by simp [hinfinite]⟩
    rw [hread, hall]
    rfl

theorem ofText?_write (hbounds : c.InBounds) (h : c.Exact) (level : Option Nat) :
    ofText? (String.ofList (c.toJson.write level)) = ofJson? c.written := by
  have hreadable : c.written.isReadable maxDepth = true := isReadable_written hbounds h 125
  have hread : Json.read? (String.ofList (c.toJson.write level)) = some c.written :=
    read?_write level c.toJson
  rw [ofText?, readable?, hread, Option.filter_some, if_pos hreadable, Option.bind_some]

theorem ofDump?_dump (hbounds : c.InBounds) (h : c.Exact) {script : Script} {position : Nat}
    (hc : script.commands[position]? = some c) :
    ofDump? script.dump position = ofJson? c.written := by
  have hreadable : c.written.isReadable (maxDepth - 2) = true := isReadable_written hbounds h 123
  have hread : Json.read? script.dump = some script.toJson.reread :=
    read?_write (some 0) script.toJson
  have hcommands : (script.toJson.reread).field? "commands"
      = some (.array ((script.commands.map toJson).map reread)) := by
    rw [Script.toJson, reread, rereadFields_eq_map, ← rereadItems_eq_map]
    rfl
  have hcommand : ((script.commands.map toJson).map reread)[position]? = some c.written := by
    rw [List.getElem?_map, List.getElem?_map, hc]
    rfl
  simp only [ofDump?, hread, hcommands, array?, hcommand, Option.bind_eq_bind, Option.bind_some,
    hreadable, if_true]

/-- A command of any kind comes back from its text, alone or among those of a written script, once
its own finite numbers do. -/
theorem recovers_written (hbounds : c.InBounds)
    (h : ∀ x ∈ c.reals, x.isFinite = true → ReadsBack x) :
    (∀ level, c.Recovers (ofText? (String.ofList (c.toJson.write level)))) ∧
    ∀ (script : Script) (position : Nat), script.commands[position]? = some c →
      c.Recovers (ofDump? script.dump position) := by
  have hrecovers : c.Recovers (ofJson? c.written) := recovers_ofJson? hbounds h
  constructor
  · intro level
    rw [ofText?_write hbounds h level]
    exact hrecovers
  · intro script position hc
    rw [ofDump?_dump hbounds h hc]
    exact hrecovers

/-- A pitch that is not a number is missing when the command comes back. -/
theorem recovers_written_cinematic :
    (cinematic ⟨13.4, 52.5⟩ 6 (some .nan) (some 0.5)).InBounds ∧
    (∀ x ∈ (cinematic ⟨13.4, 52.5⟩ 6 (some .nan) (some 0.5)).reals,
      x.isFinite = true → ReadsBack x) ∧
    ofText? (cinematic ⟨13.4, 52.5⟩ 6 (some .nan) (some 0.5)).toJson.compact
      = some (cinematic ⟨13.4, 52.5⟩ 6 none (some 0.5)) ∧
    ofDump? (Script.mk
        [⟨0, wait 5⟩, ⟨2, cinematic ⟨13.4, 52.5⟩ 6 (some .nan) (some 0.5)⟩] [1]).dump 1
      = some (cinematic ⟨13.4, 52.5⟩ 6 none (some 0.5)) := by
  have hbounds : (cinematic ⟨13.4, 52.5⟩ 6 (some .nan) (some 0.5)).InBounds := trivial
  have hreals : ∀ x ∈ (cinematic ⟨13.4, 52.5⟩ 6 (some .nan) (some 0.5)).reals,
      x.isFinite = true → (read? (ofReal x).compact).bind real? = some x := by
    decide +kernel
  have hfinite : ∀ x ∈ (cinematic ⟨13.4, 52.5⟩ 6 (some .nan) (some 0.5)).requiredReals,
      x.isFinite = true := by
    decide +kernel
  have hwithout : (cinematic ⟨13.4, 52.5⟩ 6 (some .nan) (some 0.5)).withoutNonFinite
      = cinematic ⟨13.4, 52.5⟩ 6 none (some 0.5) := by
    decide +kernel
  obtain ⟨halone, hdump⟩ := recovers_written hbounds hreals
  rw [← hwithout]
  exact ⟨hbounds, hreals, (halone none).without hfinite, (hdump _ 1 rfl).without hfinite⟩

end Command

end ScriptedMap
