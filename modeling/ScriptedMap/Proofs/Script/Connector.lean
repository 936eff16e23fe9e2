import ScriptedMap.Proofs.Script.Head
import ScriptedMap.Proofs.Script.Numeral

namespace ScriptedMap

namespace Field

/-- The texts between the commas without the blanks around them, but for those that are nothing
else. -/
def nonBlank (args : List Char) : List (List Char) :=
  ((args.splitOn ',').map trim).filter (!·.isEmpty)

/-- None of the texts between the commas begins with a quote. -/
def Unquoted (args : List Char) : Prop :=
  ∀ piece ∈ args.splitOn ',', piece.find? (!isBlank ·) ≠ some '"'

/-- The fields of a connector that count. -/
def tokens? (args : List Char) : Option (List (List Char)) :=
  (Command.fields? args).bind Command.connectorTokens?

section Comma

variable (u v : List Char)

theorem nonBlank_append_comma : nonBlank (u ++ ',' :: v) = nonBlank u ++ nonBlank v := by
  rw [nonBlank, List.splitOn_append_cons_self, List.map_append, List.filter_append, nonBlank,
    nonBlank]

theorem unquoted_append_comma : Unquoted (u ++ ',' :: v) ↔ Unquoted u ∧ Unquoted v := by
  rw [Unquoted, List.splitOn_append_cons_self]
  exact List.forall_mem_append

end Comma

section Piece

variable {piece : List Char} (hpiece : ',' ∉ piece)

include hpiece

theorem nonBlank_of_no_comma : nonBlank piece = [trim piece].filter (!·.isEmpty) := by
  rw [nonBlank, List.splitOn_eq_singleton hpiece, List.map_singleton]

theorem unquoted_of_no_comma : Unquoted piece ↔ piece.find? (!isBlank ·) ≠ some '"' := by
  rw [Unquoted, List.splitOn_eq_singleton hpiece]
  exact List.forall_mem_singleton

end Piece

section Blank

variable {w : List Char} (hw : AllBlank w)

include hw

theorem nonBlank_of_allBlank : nonBlank w = [] := by
  rw [nonBlank_of_no_comma (not_mem_of_allBlank hw isBlank_comma), trim_of_allBlank hw]
  rfl

theorem unquoted_of_allBlank : Unquoted w := by
  rw [unquoted_of_no_comma (not_mem_of_allBlank hw isBlank_comma), find?_of_allBlank hw]
  exact (Option.some_ne_none _).symm

end Blank

theorem connectorTokens?_bare (t : List Char) (fs : List Field) :
    Command.connectorTokens? (bare t :: fs) =
      (Command.connectorTokens? fs).map ([t].filter (!·.isEmpty) ++ ·) := by
  rw [Command.connectorTokens?, List.mapM_cons, Command.connectorTokens?]
  cases fs.mapM bare? with
  | none => rfl
  | some ts => exact congrArg some (List.filter_append [t] ts)

theorem connectorTokens?_quoted (t : List Char) (fs : List Field) :
    Command.connectorTokens? (quoted t :: fs) = none := by
  rw [Command.connectorTokens?, List.mapM_cons]
  rfl

section Tokens

variable {segment : List Char}

theorem tokens?_segment {f : Field} (h : Segment segment f) :
    tokens? segment = Command.connectorTokens? [f] := by
  have hlist : Field.list segment = .ok [f] := list_of_items_ok (items_segment h)
  rw [tokens?, Command.fields?, hlist]
  rfl

theorem tokens?_segment_comma {f : Field} (h : Segment segment f) (s : List Char) :
    tokens? (segment ++ ',' :: s) =
      (Command.fields? s).bind fun fs => Command.connectorTokens? (f :: fs) := by
  rw [tokens?, Command.fields?, Field.list, items_segment_comma h, List.mapM_cons, Command.fields?,
    Field.list]
  cases (items s).mapM id <;> rfl

theorem tokens?_piece (hcomma : ',' ∉ segment) (hfirst : segment.find? (!isBlank ·) ≠ some '"') :
    tokens? segment = some (nonBlank segment) := by
  rw [tokens?_segment (.bare hcomma hfirst), connectorTokens?_bare, nonBlank_of_no_comma hcomma]
  exact congrArg some (List.append_nil _)

theorem tokens?_piece_comma (hcomma : ',' ∉ segment)
    (hfirst : segment.find? (!isBlank ·) ≠ some '"') (s : List Char) :
    tokens? (segment ++ ',' :: s) = (tokens? s).map (nonBlank segment ++ ·) := by
  rw [tokens?_segment_comma (.bare hcomma hfirst), tokens?, nonBlank_of_no_comma hcomma]
  simp only [connectorTokens?_bare]
  exact (Option.map_bind ..).symm

/-- Behind a quote there is no connector, whether it is closed or not. -/
theorem tokens?_of_quote {s : List Char} (h : s.find? (!isBlank ·) = some '"') :
    tokens? s = none := by
  rcases segment_cases s with ⟨f, hf⟩ | ⟨segment, f, rest, hf, rfl⟩ | ⟨e, he⟩
  · cases hf with
    | quoted hb ht ha =>
      rw [tokens?_segment (.quoted hb ht ha), connectorTokens?_quoted]
    | bare _ hfirst => exact absurd h hfirst
  · cases hf with
    | quoted hb ht ha =>
      rw [tokens?_segment_comma (.quoted hb ht ha)]
      simp only [connectorTokens?_quoted]
      exact Option.bind_fun_none _
    | bare _ hfirst =>
      -- what is not blank first is in the segment, or else the comma behind it
      rw [List.find?_append] at h
      rcases Option.or_eq_some_iff.mp h with hsegment | ⟨-, hcomma⟩
      · exact absurd hsegment hfirst
      · rw [List.find?_cons_of_pos (by simp [isBlank_comma])] at hcomma
        cases hcomma
  · have hitems : items s = ([] : List Field).map .ok ++ [.error e] := he
    have hlist : Field.list s = .error e := list_of_items_error hitems
    rw [tokens?, Command.fields?, hlist]
    rfl

end Tokens

/-- Exactly the texts without quotes at the beginning of a field are those of a connector, and what
counts are the fields that are not blank. -/
theorem tokens?_eq_some_iff {args : List Char} {ts : List (List Char)} :
    tokens? args = some ts ↔ Unquoted args ∧ nonBlank args = ts := by
  -- on the length, because what is cut off at a time is a field
  induction hn : args.length using Nat.strongRecOn generalizing args ts with
  | _ n ih =>
    by_cases hcomma : ',' ∈ args
    · obtain ⟨piece, rest, rfl, hpiece⟩ := List.eq_append_cons_of_mem hcomma
      rw [nonBlank_append_comma, unquoted_append_comma, unquoted_of_no_comma hpiece]
      by_cases hfirst : piece.find? (!isBlank ·) = some '"'
      · have hquote : (piece ++ ',' :: rest).find? (!isBlank ·) = some '"' := by
          rw [List.find?_append, hfirst, Option.some_or]
        rw [tokens?_of_quote hquote]
        exact iff_of_false nofun fun h => h.1.1 hfirst
      · have hlt : rest.length < n := by
          rw [← hn, List.length_append, List.length_cons]
          omega
        rw [tokens?_piece_comma hpiece hfirst, Option.map_eq_some_iff]
        constructor
        · rintro ⟨ts', hts', rfl⟩
          obtain ⟨hunquoted, rfl⟩ := (ih _ hlt rfl).mp hts'
          exact ⟨⟨hfirst, hunquoted⟩, rfl⟩
        · rintro ⟨⟨-, hunquoted⟩, rfl⟩
          exact ⟨_, (ih _ hlt rfl).mpr ⟨hunquoted, rfl⟩, rfl⟩
    · rw [unquoted_of_no_comma hcomma]
      by_cases hfirst : args.find? (!isBlank ·) = some '"'
      · rw [tokens?_of_quote hfirst]
        exact iff_of_false nofun fun h => h.1 hfirst
      · rw [tokens?_piece hcomma hfirst, Option.some_inj]
        exact (and_iff_right hfirst).symm

theorem tokens?_congr {u v : List Char} (hunquoted : Unquoted u ↔ Unquoted v)
    (hsame : nonBlank u = nonBlank v) : tokens? u = tokens? v := by
  apply Option.ext
  intro ts
  rw [tokens?_eq_some_iff, tokens?_eq_some_iff, hunquoted, hsame]

theorem tokens?_insert (u v : List Char) {w : List Char} (hw : AllBlank w) :
    tokens? (u ++ ',' :: (w ++ ',' :: v)) = tokens? (u ++ ',' :: v) := by
  apply tokens?_congr
  · simp only [unquoted_append_comma, unquoted_of_allBlank hw, true_and]
  · simp only [nonBlank_append_comma, nonBlank_of_allBlank hw, List.nil_append]

theorem tokens?_cons_comma (u : List Char) : tokens? (',' :: u) = tokens? u := by
  apply tokens?_congr
  · exact (unquoted_append_comma [] u).trans (and_iff_right (unquoted_of_allBlank allBlank_nil))
  · have hsplit := nonBlank_append_comma [] u
    rwa [nonBlank_of_allBlank allBlank_nil, List.nil_append] at hsplit

theorem tokens?_append_comma (u : List Char) : tokens? (u ++ [',']) = tokens? u := by
  apply tokens?_congr
  · simp only [unquoted_append_comma, unquoted_of_allBlank allBlank_nil, and_true]
  · simp only [nonBlank_append_comma, nonBlank_of_allBlank allBlank_nil, List.append_nil]

end Field

theorem Written.Number.not_blank (n : Written.Number) : ∀ c ∈ n.text, isBlank c = false := by
  intro c hc
  rw [n.text_eq] at hc
  rcases List.mem_append.mp hc with hc | hc
  · rw [Json.Numeral.sign] at hc
    split at hc
    · rw [List.mem_singleton.mp hc]
      decide
    · cases hc
  · rcases Written.isAlphanumeric_of_isNumeric (n.numeric c hc) with hc | rfl | rfl | rfl
    · exact not_blank_of_isAlphanumeric hc
    · decide
    · decide
    · decide

theorem Written.Number.text_ne_nil (n : Written.Number) : n.text ≠ [] := by
  rw [n.text_eq]
  exact List.append_ne_nil_of_right_ne_nil _ n.ne_nil

namespace Endpoint

/-- The text is two numerals with blanks between them. -/
def IsPlace (token : List Char) : Prop :=
  ∃ (lat lng : Written.Number) (gap : List Char), gap ≠ [] ∧ AllBlank gap ∧
    token = lat.text ++ gap ++ lng.text

theorem ofToken_of_isPlace {token : List Char} (h : IsPlace token) :
    ∃ place, ofToken token = .point place := by
  obtain ⟨lat, lng, gap, hne, hblank, rfl⟩ := h
  have hwords := words_pair lat.text_ne_nil lat.not_blank lng.text_ne_nil lng.not_blank hne hblank
  refine ⟨Written.place lat lng, ?_⟩
  simp only [ofToken, hwords, lat.read?_text, lng.read?_text]
  rfl

theorem ofToken_eq_point_iff {token : List Char} (htrim : trim token = token) :
    (∃ place, ofToken token = .point place) ↔ IsPlace token := by
  refine ⟨?_, ofToken_of_isPlace⟩
  rintro ⟨place, hplace⟩
  unfold ofToken at hplace
  split at hplace
  · next lat lng hwords =>
    split at hplace
    · next hlat hlng =>
      obtain ⟨lat, rfl⟩ := Numeral.exists_number hlat
      obtain ⟨lng, rfl⟩ := Numeral.exists_number hlng
      obtain ⟨gap, hne, hblank, htoken⟩ := trim_of_words_eq_pair hwords
      exact ⟨lat, lng, gap, hne, hblank, htrim.symm.trans htoken⟩
    · cases hplace
  · cases hplace

end Endpoint

namespace Command

open Endpoint (IsPlace)
open ScriptedMap.Field (nonBlank tokens?)

/-- The command joins two endpoints. -/
inductive Joins : Command → Endpoint → Endpoint → Prop
  | line {source target : Endpoint} {color : String} :
    Joins (line source target color) source target
  | attack {source target : Endpoint} {color : String} {curve width headSize : Binary64} :
      Joins (attack source target color curve width headSize) source target

/-- The head of an arrow is as large as its shaft is wide. -/
def HeadFitsShaft : Command → Prop
  | attack _ _ _ _ width headSize => headSize = width
  | _ => True

/-- The rule of a connector, for the fields of it that count. -/
def connector? : Keyword → List (List Char) → Option Command
  | .line, tokens => line? tokens
  | .attack, tokens => attack? tokens
  | _, _ => none

theorem ofLine?_of_connector {keyword : Keyword} {head : List Char}
    (hkeyword : keyword = .line ∨ keyword = .attack) (hcolon : ':' ∉ head)
    (hspells : asciiLower (trim head) = keyword.name.toList) (args : List Char) :
    ofLine? (head ++ ':' :: args) = (tokens? args).bind (connector? keyword) := by
  have hfields : fields? (trim args) = fields? args := by
    rw [fields?, Field.list, Field.items_trim, fields?, Field.list]
  have harguments : ofArguments? keyword (trim args) =
      ((fields? (trim args)).bind connectorTokens?).bind (connector? keyword) := by
    rcases hkeyword with rfl | rfl
    · exact (Option.bind_assoc ..).symm
    · exact (Option.bind_assoc ..).symm
  rw [ofLine?_of_keyword hcolon hspells, harguments, hfields, tokens?]

/-- The first two of the tokens are the endpoints that the command joins, and only with three more
than the color has an arrow a head of another size than its shaft. -/
def IsMadeOf (c : Command) (tokens : List (List Char)) : Prop :=
  ∃ source target color numbers, tokens = source :: target :: color :: numbers ∧
    Joins c (.ofToken source) (.ofToken target) ∧ (numbers.length < 3 → c.HeadFitsShaft)

section Rules

variable {tokens : List (List Char)} {c : Command}

theorem isMadeOf_of_line? (h : line? tokens = some c) : c.IsMadeOf tokens := by
  unfold line? at h
  split at h
  · next source target color =>
    obtain ⟨name, -, h⟩ := Option.bind_eq_some_iff.mp h
    cases h
    exact ⟨source, target, color, [], rfl, .line, fun _ => trivial⟩
  · cases h

theorem isMadeOf_of_attack? (h : attack? tokens = some c) : c.IsMadeOf tokens := by
  unfold attack? at h
  split at h
  · next source target color numbers =>
    obtain ⟨name, -, h⟩ := Option.bind_eq_some_iff.mp h
    obtain ⟨xs, hxs, h⟩ := Option.bind_eq_some_iff.mp h
    refine ⟨source, target, color, numbers, rfl, ?_⟩
    rw [← length_of_mapM hxs]
    -- with three numbers alone the head has a size of its own
    dsimp only at h
    split at h
    · cases h
      exact ⟨.attack, fun _ => rfl⟩
    · cases h
      exact ⟨.attack, fun _ => rfl⟩
    · cases h
      exact ⟨.attack, fun _ => rfl⟩
    · cases h
      exact ⟨.attack, fun hlt => absurd hlt (by simp)⟩
    · cases h
  · cases h

theorem isMadeOf_of_connector? {keyword : Keyword} (h : connector? keyword tokens = some c) :
    c.IsMadeOf tokens := by
  unfold connector? at h
  split at h
  · exact isMadeOf_of_line? h
  · exact isMadeOf_of_attack? h
  · cases h

end Rules

theorem trim_of_mem_nonBlank {args token : List Char} (h : token ∈ nonBlank args) :
    trim token = token := by
  obtain ⟨piece, -, rfl⟩ := List.mem_map.mp (List.mem_filter.mp h).1
  exact trim_trim piece

/-- Commas in front, behind and side by side make no difference to a connector, with or without
blanks between them, and neither do they where there is no connector. If there is one, its endpoints
are places exactly where two numerals are written for them, and the head of an arrow is only of
another size than its shaft if a sixth field is not blank. -/
theorem ofLine?_connector_blank_fields {keyword : Keyword} {head : List Char}
    (hkeyword : keyword = .line ∨ keyword = .attack) (hcolon : ':' ∉ head)
    (hspells : asciiLower (trim head) = keyword.name.toList) :
    (∀ u v w, AllBlank w → ofLine? (head ++ ':' :: (u ++ ',' :: v)) =
      ofLine? (head ++ ':' :: (u ++ ',' :: (w ++ ',' :: v)))) ∧
    (∀ u, ofLine? (head ++ ':' :: u) = ofLine? (head ++ ':' :: ',' :: u) ∧
      ofLine? (head ++ ':' :: u) = ofLine? (head ++ ':' :: (u ++ [',']))) ∧
    ∀ u c, ofLine? (head ++ ':' :: u) = some c → ∃ source target color numbers s t,
      nonBlank u = source :: target :: color :: numbers ∧ Joins c s t ∧
      ((∃ place, s = .point place) ↔ IsPlace source) ∧
      ((∃ place, t = .point place) ↔ IsPlace target) ∧
      ((nonBlank u).length < 6 → c.HeadFitsShaft) := by
  have hread := ofLine?_of_connector hkeyword hcolon hspells
  refine ⟨?_, ?_, ?_⟩
  · intro u v w hw
    rw [hread, hread, Field.tokens?_insert u v hw]
  · intro u
    rw [hread, hread, hread, Field.tokens?_cons_comma, Field.tokens?_append_comma]
    exact ⟨rfl, rfl⟩
  · intro u c hc
    rw [hread] at hc
    obtain ⟨tokens, htokens, hc⟩ := Option.bind_eq_some_iff.mp hc
    obtain ⟨-, rfl⟩ := Field.tokens?_eq_some_iff.mp htokens
    obtain ⟨source, target, color, numbers, hparts, hjoins, hhead⟩ := isMadeOf_of_connector? hc
    have hsource : source ∈ nonBlank u := by
      rw [hparts]
      exact List.mem_cons_self
    have htarget : target ∈ nonBlank u := by
      rw [hparts]
      exact List.mem_cons_of_mem _ List.mem_cons_self
    refine ⟨source, target, color, numbers, _, _, hparts, hjoins,
      Endpoint.ofToken_eq_point_iff (trim_of_mem_nonBlank hsource),
      Endpoint.ofToken_eq_point_iff (trim_of_mem_nonBlank htarget), ?_⟩
    intro hlength
    rw [hparts] at hlength
    have hlt : numbers.length + 3 < 3 + 3 := hlength
    exact hhead (Nat.lt_of_add_lt_add_right hlt)

/-- An arrow from a place to a territory, with commas to spare. -/
theorem ofLine?_connector_blank_fields_attack :
    let line (args : String) := "Attack ".toList ++ ':' :: args.toList
    ofLine? (line ",1 -2, ,B,red") = some (attack
      (.point ⟨Numeral.value true "2".toList, Numeral.value false "1".toList⟩) (.territory "B")
      "red" defaultCurve defaultWidth defaultWidth) ∧
    IsPlace "1 -2".toList ∧ ¬IsPlace "B".toList := by
  intro line
  obtain ⟨hinsert, hends, hparts⟩ := ofLine?_connector_blank_fields (.inr rfl)
    (by decide : ':' ∉ "Attack ".toList) (by decide)
  have hplain : ofLine? (line "1 -2,B,red") = some (attack
      (.point ⟨Numeral.value true "2".toList, Numeral.value false "1".toList⟩) (.territory "B")
      "red" defaultCurve defaultWidth defaultWidth) := by
    decide +kernel
  refine ⟨?_, ?_⟩
  · calc ofLine? (line ",1 -2, ,B,red")
      _ = ofLine? (line "1 -2, ,B,red") := (hends "1 -2, ,B,red".toList).1.symm
      _ = ofLine? (line "1 -2,B,red") :=
        (hinsert "1 -2".toList "B,red".toList [' '] (by decide)).symm
      _ = _ := hplain
  · obtain ⟨source, target, color, numbers, s, t, hfields, hjoins, hsource, htarget, -⟩ :=
      hparts _ _ hplain
    have hsame :
        nonBlank "1 -2,B,red".toList = ["1 -2".toList, "B".toList, "red".toList] := by decide
    rw [hsame] at hfields
    cases hfields
    cases hjoins
    exact ⟨hsource.mp ⟨_, rfl⟩, fun h => nomatch htarget.mpr h⟩

end Command

end ScriptedMap
