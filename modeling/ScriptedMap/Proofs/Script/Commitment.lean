import ScriptedMap.Proofs.Script.WellFormed
import ScriptedMap.Proofs.Text.Ascii

namespace ScriptedMap

namespace Command

theorem keyword_of_ofLine? {head args : List Char} (hhead : ':' ∉ head) {keyword : Keyword}
    (hspells : asciiLower (trim head) = keyword.name.toList) {c : Command}
    (h : ofLine? (head ++ ':' :: args) = some c) : c.keyword = keyword := by
  rw [ofLine?_of_keyword hhead hspells] at h
  exact (ofArguments?_obeys (trim_trim args) h).keyword

theorem country_of_ofLine? {head args : List Char} (hhead : ':' ∉ head)
    (hname : ∀ keyword : Keyword, asciiLower (trim head) ≠ keyword.name.toList) {c : Command}
    (h : ofLine? (head ++ ':' :: args) = some c) :
    ∃ color animation, c = country (String.ofList (trim head)) color animation := by
  obtain ⟨keyword, hspells, -⟩ | ⟨-, fs, hfs, hcountry⟩ := rule_of_ofLine? hhead h
  · exact absurd hspells (hname keyword)
  · obtain ⟨-, color, animation, -, hc⟩ :=
      isColor_of_country? (writable_of_fields? hfs) hcountry
    exact ⟨color, animation, hc⟩

theorem ofLine?_congr_head {head head' : List Char} (hhead : ':' ∉ head) {keyword : Keyword}
    (hspells : asciiLower (trim head) = keyword.name.toList)
    (hcase : asciiLower head' = asciiLower head) (args : List Char) :
    ofLine? (head' ++ ':' :: args) = ofLine? (head ++ ':' :: args) := by
  have hcolon : separatorRanges.holds ':' = true := by decide
  have hhead' : ':' ∉ head' := by
    rw [← mem_asciiLower_iff hcolon, hcase, mem_asciiLower_iff hcolon]
    exact hhead
  have hspells' : asciiLower (trim head') = keyword.name.toList := by
    rw [← trim_asciiLower, hcase, trim_asciiLower, hspells]
  rw [ofLine?_of_keyword hhead hspells, ofLine?_of_keyword hhead' hspells']

/-- What stands before the first colon of a line decides of which keyword its command can be. -/
theorem ofLine?_commits (line : List Char) :
    (':' ∉ line → ofLine? line = none) ∧
    ∀ head args : List Char, ':' ∉ head → line = head ++ ':' :: args →
      (∀ keyword : Keyword, asciiLower (trim head) = keyword.name.toList →
        (∀ c, ofLine? line = some c → c.keyword = keyword) ∧
        ∀ head', asciiLower head' = asciiLower head →
          ofLine? (head' ++ ':' :: args) = ofLine? line) ∧
      ((∀ keyword : Keyword, asciiLower (trim head) ≠ keyword.name.toList) →
        ∀ c, ofLine? line = some c →
          ∃ color animation, c = country (String.ofList (trim head)) color animation) := by
  refine ⟨ofLine?_eq_none, ?_⟩
  rintro head args hhead rfl
  refine ⟨?_, ?_⟩
  · intro keyword hspells
    refine ⟨?_, ?_⟩
    · intro c hc
      exact keyword_of_ofLine? hhead hspells hc
    · intro head' hcase
      exact ofLine?_congr_head hhead hspells hcase args
  · intro hname c hc
    exact country_of_ofLine? hhead hname hc

/-- A head that only begins with a keyword is a name. -/
theorem ofLine?_commits_year :
    let line := " Year : \"1938\"".toList
    let named := "yearly: red".toList
    (∃ c, ofLine? line = some c ∧ c.keyword = .year) ∧
      ofLine? " yEAR : \"1938\"".toList = ofLine? line ∧
      ∃ c color animation, ofLine? named = some c ∧ c = country "yearly" color animation := by
  intro line named
  obtain ⟨hyear, -⟩ := (ofLine?_commits line).2 " Year ".toList " \"1938\"".toList (by decide)
    (by decide)
  obtain ⟨hkeyword, hcase⟩ := hyear .year (by decide)
  have hline : ofLine? line = some (year "1938" false) := by decide
  refine ⟨⟨_, hline, hkeyword _ hline⟩, hcase " yEAR ".toList (by decide), ?_⟩
  have hname (keyword : Keyword) :
      asciiLower (trim "yearly".toList) ≠ keyword.name.toList := by
    cases keyword <;> decide
  obtain ⟨-, hyearly⟩ := (ofLine?_commits named).2 "yearly".toList " red".toList (by decide)
    (by decide)
  have hnamed : ofLine? named = some (country "yearly" "red" .none) := by decide
  obtain ⟨color, animation, hc⟩ := hyearly hname _ hnamed
  exact ⟨_, color, animation, hnamed, hc⟩

end Command

end ScriptedMap
