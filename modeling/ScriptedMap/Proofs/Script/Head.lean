import ScriptedMap.Proofs.Script.Accounting
import ScriptedMap.Proofs.Text.Alphanumeric
import ScriptedMap.Proofs.Text.Blank
import ScriptedMap.Script.Line

namespace ScriptedMap

theorem cutAt?_append {mark : Char} {s : List Char} (hs : mark ∉ s) (t : List Char) :
    cutAt? mark (s ++ mark :: t) = some (s, t) := by
  induction s with
  | nil => exact if_pos rfl
  | cons c s ih =>
    obtain ⟨hc, hs⟩ := not_or.mp (List.mem_cons.not.mp hs)
    rw [List.cons_append, cutAt?, if_neg (Ne.symm hc), ih hs]
    rfl

theorem cutAt?_eq_none {mark : Char} {s : List Char} (hs : mark ∉ s) : cutAt? mark s = none := by
  induction s with
  | nil => rfl
  | cons c s ih =>
    obtain ⟨hc, hs⟩ := not_or.mp (List.mem_cons.not.mp hs)
    rw [cutAt?, if_neg (Ne.symm hc), ih hs]
    rfl

namespace Keyword

theorem ofName?_name (keyword : Keyword) : ofName? keyword.name = some keyword := by
  cases keyword <;> rfl

theorem ofName?_eq_none {name : String} (h : ∀ keyword : Keyword, keyword.name ≠ name) :
    ofName? name = none := by
  rw [ofName?, List.find?_eq_none]
  intro keyword _
  simpa using h keyword

theorem head?_name (keyword : Keyword) : keyword.name.toList.head? ≠ some '#' := by
  cases keyword <;> decide

end Keyword

namespace Command

variable {head args : List Char}

theorem isIgnored_append_colon : isIgnored (head ++ ':' :: args) = false ↔
    (trim head).head? ≠ some '#' := by
  have hcolon : isBlank ':' = false := by decide
  have hfirst : (trim (head ++ ':' :: args)).head? = (trim head).head?.or (some ':') := by
    rw [head?_trim, head?_trim, List.find?_append, List.find?_cons_of_pos (by simp [hcolon])]
  have hne : trim (head ++ ':' :: args) ≠ [] := by
    intro hnil
    rw [hnil] at hfirst
    cases h : (trim head).head? <;> rw [h] at hfirst <;> cases hfirst
  rw [isIgnored_eq_false_iff, hfirst, and_iff_right hne]
  cases (trim head).head? <;> simp

theorem ofLine?_eq_none {line : List Char} (h : ':' ∉ line) : ofLine? line = none := by
  have htrim : ':' ∉ trim line := fun hmem => h (mem_of_mem_trim hmem)
  rw [ofLine?, cutAt?_eq_none htrim]
  split <;> rfl

section Cut

variable (hhead : ':' ∉ head)

include hhead

theorem cutAt?_trim : cutAt? ':' (trim (head ++ ':' :: args)) =
    some (trimStart head, trimEnd args) := by
  have hstart : ':' ∉ trimStart head := fun hmem => hhead ((List.dropWhile_sublist _).mem hmem)
  rw [trim_append_cons (by decide), cutAt?_append hstart]

/-- A line whose head is a keyword in any letter case is left to the rule of the keyword. -/
theorem ofLine?_of_keyword {keyword : Keyword}
    (hspells : asciiLower (trim head) = keyword.name.toList) :
    ofLine? (head ++ ':' :: args) = ofArguments? keyword (trim args) := by
  -- such a line is no comment, because no keyword begins with a hash sign
  have hshown : isIgnored (head ++ ':' :: args) = false := by
    rw [isIgnored_append_colon]
    intro hhash
    have hfirst : keyword.name.toList.head? = some '#' := by
      rw [← hspells, asciiLower, List.head?_map, hhash]
      rfl
    exact keyword.head?_name hfirst
  have hname : Keyword.ofName? (String.ofList (asciiLower (trim head))) = some keyword := by
    rw [hspells, String.ofList_toList, Keyword.ofName?_name]
  simp [ofLine?, hshown, cutAt?_trim hhead, trim_trimStart, trim_trimEnd, hname]

theorem ofLine?_of_name (hshown : isIgnored (head ++ ':' :: args) = false)
    (hname : ∀ keyword : Keyword, asciiLower (trim head) ≠ keyword.name.toList) :
    ofLine? (head ++ ':' :: args) = (do country? (trim head) (← fields? (trim args))) := by
  have hnone : Keyword.ofName? (String.ofList (asciiLower (trim head))) = none := by
    apply Keyword.ofName?_eq_none
    intro keyword heq
    apply hname keyword
    rw [heq, String.toList_ofList]
  simp [ofLine?, hshown, cutAt?_trim hhead, trim_trimStart, trim_trimEnd, hnone]

/-- What a line gives is given by the rule of its head: a keyword's, or that of names. -/
theorem rule_of_ofLine? {c : Command} (h : ofLine? (head ++ ':' :: args) = some c) :
    (∃ keyword : Keyword, asciiLower (trim head) = keyword.name.toList ∧
      ofArguments? keyword (trim args) = some c) ∨
    (∀ keyword : Keyword, asciiLower (trim head) ≠ keyword.name.toList) ∧
      ∃ fs, fields? (trim args) = some fs ∧ country? (trim head) fs = some c := by
  by_cases hname : ∃ keyword : Keyword, asciiLower (trim head) = keyword.name.toList
  · obtain ⟨keyword, hspells⟩ := hname
    rw [ofLine?_of_keyword hhead hspells] at h
    exact .inl ⟨keyword, hspells, h⟩
  · have hne (keyword : Keyword) : asciiLower (trim head) ≠ keyword.name.toList :=
      fun hspells => hname ⟨keyword, hspells⟩
    have hshown : isIgnored (head ++ ':' :: args) = false := by
      by_contra hignored
      rw [ofLine?_of_isIgnored (eq_true_of_ne_false hignored)] at h
      cases h
    rw [ofLine?_of_name hhead hshown hne] at h
    exact .inr ⟨hne, Option.bind_eq_some_iff.mp h⟩

end Cut

theorem country?_of_hash {name : List Char} (h : name.head? = some '#') (fs : List Field) :
    country? name fs = none := by
  have hhash : isNameCharacter '#' = false := by
    have halpha : isAlphanumeric '#' = false := not_alphanumeric_of_separator (by decide)
    have hblank : isBlank '#' = false := by decide
    simp [isNameCharacter, halpha, hblank]
  have hnot : name.all isNameCharacter = false := by
    rw [List.all_eq_false]
    exact ⟨'#', List.mem_of_head? h, by simp [hhash]⟩
  simp [hnot, country?]

/-- After the keyword of countries a name is cut off at the first comma. -/
theorem ofLine?_of_country {name : List Char} (hname : ',' ∉ name) (args : List Char) :
    ofLine? ("country".toList ++ ':' :: (name ++ ',' :: args)) =
      (do country? (trim name) (← fields? (trim args))) := by
  have hspells : asciiLower (trim "country".toList) = Keyword.country.name.toList := by decide
  have hcomma : isBlank ',' = false := by decide
  have hstart : ',' ∉ trimStart name := fun hmem => hname ((List.dropWhile_sublist _).mem hmem)
  rw [ofLine?_of_keyword (by decide) hspells, ofArguments?, trim_append_cons hcomma,
    cutAt?_append hstart]
  change (do country? (trim (trimStart name)) (← fields? (trim (trimEnd args)))) = _
  rw [trim_trimStart, trim_trimEnd]

/-- A line of a name and a color gives the same as one in which the keyword of countries comes
first. A name that is no keyword and has neither colons nor commas in it may be anything else, also
blank or a comment. -/
theorem ofLine?_country_eq (name args : List Char) (hcolon : ':' ∉ name) (hcomma : ',' ∉ name)
    (hname : ∀ keyword : Keyword, asciiLower (trim name) ≠ keyword.name.toList) :
    ofLine? ("country: ".toList ++ name ++ ", ".toList ++ args) =
      ofLine? (name ++ ": ".toList ++ args) := by
  have hspace : AllBlank [' '] := by decide
  have hbefore (s : List Char) : trim (' ' :: s) = trim s := by
    have h := trim_append hspace s allBlank_nil
    rwa [List.append_nil] at h
  have hlong : "country: ".toList ++ name ++ ", ".toList ++ args =
      "country".toList ++ ':' :: ((' ' :: name) ++ ',' :: (' ' :: args)) := by
    simp
  have hshort : name ++ ": ".toList ++ args = name ++ ':' :: (' ' :: args) := by simp
  have hcomma' : ',' ∉ ' ' :: name := by simp [hcomma]
  rw [hlong, hshort, ofLine?_of_country hcomma', hbefore, hbefore]
  by_cases hshown : isIgnored (name ++ ':' :: (' ' :: args)) = false
  · rw [ofLine?_of_name hcolon hshown hname, hbefore]
  · -- the short form is a comment, and the hash sign that begins it is in no name
    have hhash : (trim name).head? = some '#' := by
      by_contra hne
      exact hshown (isIgnored_append_colon.mpr hne)
    rw [ofLine?_of_isIgnored (eq_true_of_ne_false hshown)]
    cases fields? (trim args) with
    | none => rfl
    | some fs => exact country?_of_hash hhash fs

/-- Blanks around the name do not matter, nor does a name that would make the
short form a comment. -/
theorem ofLine?_country_eq_padded :
    let name := " \tNew Caledonia ".toList
    ':' ∉ name ∧ ',' ∉ name ∧
      ofLine? ("country: ".toList ++ name ++ ", ".toList ++ "red, Pulse".toList) =
        some (country "New Caledonia" "red" .pulse) ∧
      ofLine? "country: #1, red".toList = ofLine? "#1: red".toList := by
  intro name
  have hname (keyword : Keyword) : asciiLower (trim name) ≠ keyword.name.toList := by
    cases keyword <;> decide
  have hhash (keyword : Keyword) : asciiLower (trim "#1".toList) ≠ keyword.name.toList := by
    cases keyword <;> decide
  refine ⟨by decide, by decide, ?_, ?_⟩
  · rw [ofLine?_country_eq name "red, Pulse".toList (by decide) (by decide) hname]
    decide +kernel
  · exact ofLine?_country_eq "#1".toList "red".toList (by decide) (by decide) hhash

end Command

end ScriptedMap
