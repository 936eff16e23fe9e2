import ScriptedMap.Proofs.Geo.Country
import ScriptedMap.Proofs.Geo.Region

namespace ScriptedMap

/-- A key of the country that is not empty is the name sought, begins it or is begun by it. -/
def Country.HasRelatedKey (sought : String) (c : Country) : Prop :=
  ∃ key ∈ [c.name, c.admin, c.longName], key ≠ "" ∧
    (key = sought ∨ key.toList <+: sought.toList ∨ sought.toList <+: key.toList)

/-- A name of the region that is not empty is the one sought, contains it or is contained in it. -/
def Region.HasRelatedName (name : String) (r : Region) : Prop :=
  ∃ n ∈ r.names, n ≠ "" ∧ (n = name ∨ name.toList <:+: n.toList ∨ n.toList <:+: name.toList)

instance (sought : String) (c : Country) : Decidable (c.HasRelatedKey sought) :=
  inferInstanceAs (Decidable (∃ key ∈ _, _))

instance (name : String) (r : Region) : Decidable (r.HasRelatedName name) :=
  inferInstanceAs (Decidable (∃ n ∈ _, _))

theorem Country.hasRelatedKey_of_rank? {sought : String} {c : Country} {r : Nat}
    (h : c.rank? sought = some r) : c.HasRelatedKey sought := by
  unfold Country.rank? at h
  split_ifs at h with hname hadmin hlong hbegins
  · exact ⟨c.name, by simp, hname.1, .inl hname.2⟩
  · exact ⟨c.admin, by simp, hadmin.1, .inl hadmin.2⟩
  · exact ⟨c.longName, by simp, hlong.1, .inl hlong.2⟩
  · obtain ⟨key, hmem, hne, hrelated⟩ := hbegins
    have hkey : key ∈ [c.name, c.admin, c.longName] := List.mem_append_left [c.longName] hmem
    exact ⟨key, hkey, hne, .inr hrelated⟩

/-- Whatever has a name fits the empty one. -/
theorem Country.rank?_empty {c : Country} :
    c.rank? "" ≠ none ↔ c.name ≠ "" ∨ c.admin ≠ "" := by
  have hnot (key : String) : ¬(key ≠ "" ∧ key = "") := fun h => h.1 h.2
  rw [Country.rank?, if_neg (hnot _), if_neg (hnot _), if_neg (hnot _)]
  simp [imp_iff_not_or]

namespace Region

variable {name : String} {r : Region}

/-- A region is similar to a name by a name of its own, or else by an empty one. -/
theorem IsAlike.hasRelatedName_or (h : r.IsAlike name) :
    r.HasRelatedName name ∨ "" ∈ r.names ∧ name.utf8ByteSize ≤ 3 := by
  obtain ⟨n, hn, hclose, hwithin⟩ := h
  by_cases hempty : n = ""
  · subst hempty
    refine .inr ⟨hn, ?_⟩
    have hzero : ("" : String).utf8ByteSize = 0 := rfl
    omega
  · exact .inl ⟨n, hn, hempty, .inr hwithin⟩

end Region

namespace Atlas

variable {atlas : Atlas} {name parent : String}

/-- The country whose territory is found. -/
def countryNamed? (atlas : Atlas) (name : String) : Option Country :=
  if normalize name = "" then none
  else search (Country.tests (atlas.unalias (normalize name))) atlas.countries

/-- The region whose territory is found. -/
def regionNamed? (atlas : Atlas) (name parent : String) : Option Region :=
  if normalize name = "" ∨ normalize parent = "" then none
  else
    let isIn := Region.isIn (normalize parent) (atlas.unalias (normalize parent))
    (atlas.regions.find? fun r => r.hasName (normalize name) && isIn r).or
      (atlas.regions.find? fun r => r.hasSimilarName (normalize name) && isIn r)

theorem findTerritory?_eq_map :
    atlas.findTerritory? name = (atlas.countryNamed? name).map (·.territory) := by
  unfold countryNamed?
  split_ifs with h
  · exact findTerritory?_of_empty h
  · exact findTerritory?_eq_search h

theorem findSubregion?_eq_map :
    atlas.findSubregion? name parent = (atlas.regionNamed? name parent).map (·.territory) := by
  unfold regionNamed?
  split_ifs with h
  · exact findSubregion?_of_empty h
  · rw [not_or] at h
    exact findSubregion?_eq_or h.1 h.2

theorem countryNamed?_eq_some {c : Country} (h : atlas.countryNamed? name = some c) :
    normalize name ≠ "" ∧ c ∈ atlas.countries ∧
      ∃ r, c.rank? (atlas.unalias (normalize name)) = some r := by
  unfold countryNamed? at h
  split_ifs at h with hempty
  obtain ⟨i, r, hbest⟩ := isBest_of_search h
  rw [Country.rankBy_tests] at hbest
  exact ⟨hempty, hbest.first.mem, r, hbest.first.holds⟩

theorem countryNamed?_eq_none_iff (h : normalize name ≠ "") : atlas.countryNamed? name = none ↔
    ∀ c ∈ atlas.countries, c.rank? (atlas.unalias (normalize name)) = none := by
  rw [countryNamed?, if_neg h, search_eq_none_iff, Country.rankBy_tests]

/-- Nothing is sought unless some name stands for nothing. -/
theorem unalias_eq_empty_iff {n : String} (h : n ≠ "") :
    atlas.unalias n = "" ↔ atlas.aliases.get? n = some "" := by
  rw [unalias]
  cases atlas.aliases.get? n with
  | none => simp [h]
  | some target => simp

/-- A country is found by an empty name if and only if the name stands for the empty one and some
country has a name. -/
theorem countryNamed?_not_empty_iff :
    (∀ c, atlas.countryNamed? name = some c → atlas.unalias (normalize name) ≠ "") ↔
      (normalize name ≠ "" → atlas.aliases.get? (normalize name) = some "" →
        ∀ c ∈ atlas.countries, c.name = "" ∧ c.admin = "") := by
  constructor
  · intro hfound hn halias c hc
    have hsought := (unalias_eq_empty_iff hn).mpr halias
    cases hcase : atlas.countryNamed? name with
    | none =>
      have hnone := (countryNamed?_eq_none_iff hn).mp hcase c hc
      rw [hsought] at hnone
      have hkeys := Country.rank?_empty.not.mp (not_not.mpr hnone)
      rwa [not_or, not_not, not_not] at hkeys
    | some d => exact absurd hsought (hfound d hcase)
  · intro hkeys c hfound hsought
    obtain ⟨hn, hc, r, hrank⟩ := countryNamed?_eq_some hfound
    obtain ⟨hname, hadmin⟩ := hkeys hn ((unalias_eq_empty_iff hn).mp hsought) c hc
    have hsome : c.rank? "" ≠ none := by
      rw [← hsought, hrank]
      exact Option.some_ne_none r
    rcases Country.rank?_empty.mp hsome with h | h
    · exact h hname
    · exact h hadmin

theorem regionNamed?_eq_some_iff {target : String} {r : Region}
    (htarget : atlas.unalias (normalize parent) = target) :
    atlas.regionNamed? name parent = some r ↔ normalize name ≠ "" ∧ normalize parent ≠ "" ∧
      ((∃ i, IsFirst (fun s => s.IsEligible (normalize parent) target ∧ normalize name ∈ s.names)
          atlas.regions i r) ∨
        (∀ s ∈ atlas.regions, s.IsEligible (normalize parent) target → normalize name ∉ s.names) ∧
          ∃ i, IsFirst
            (fun s => s.IsEligible (normalize parent) target ∧ s.IsAlike (normalize name))
            atlas.regions i r) := by
  subst htarget
  unfold regionNamed?
  split_ifs with hempty
  · constructor
    · nofun
    · rintro ⟨hn, hp, -⟩
      exact absurd hempty (not_or.mpr ⟨hn, hp⟩)
  · rw [not_or] at hempty
    rw [Option.or_eq_some_iff, find?_eq_some_iff_isFirst, find?_eq_some_iff_isFirst,
      List.find?_eq_none]
    simp only [Region.named_iff, Region.alike_iff, not_and]
    exact ⟨fun h => ⟨hempty.1, hempty.2, h⟩, fun h => h.2.2⟩

theorem mem_regions_of_regionNamed? {r : Region} (h : atlas.regionNamed? name parent = some r) :
    r ∈ atlas.regions := by
  obtain ⟨-, -, ⟨i, hfirst⟩ | ⟨-, i, hfirst⟩⟩ := (regionNamed?_eq_some_iff rfl).mp h
  · exact hfirst.mem
  · exact hfirst.mem

/-- Only for names of three bytes at most is a region found by an empty name. -/
theorem hasRelatedName_or_of_regionNamed? {r : Region}
    (h : atlas.regionNamed? name parent = some r) :
    r.HasRelatedName (normalize name) ∨ "" ∈ r.names ∧ (normalize name).utf8ByteSize ≤ 3 := by
  obtain ⟨hn, -, ⟨i, hfirst⟩ | ⟨-, i, hfirst⟩⟩ := (regionNamed?_eq_some_iff rfl).mp h
  · exact .inl ⟨_, hfirst.holds.2, hn, .inl rfl⟩
  · exact hfirst.holds.2.hasRelatedName_or

/-- A country is always found by a key that is not empty, but the name sought is empty where an
alias makes it so; and a region is found by a name that is not empty, unless no region has the name,
the first similar one is similar by an empty name alone, and the name sought has three bytes at
most. -/
theorem found_by_name_iff {config : Config} {countries : String} {regions : Option String}
    {atlas : Atlas} (hread : read config countries regions = .ok atlas) (name parent : String) :
    let n := normalize name
    let sought := (config.aliases.get? n).getD n
    let p := normalize parent
    let target := (config.aliases.get? p).getD p
    (atlas.findTerritory? name = (atlas.countryNamed? name).map (·.territory) ∧
      atlas.findSubregion? name parent = (atlas.regionNamed? name parent).map (·.territory)) ∧
    (∀ c, atlas.countryNamed? name = some c → c ∈ atlas.countries ∧ c.HasRelatedKey sought) ∧
    ((∀ c, atlas.countryNamed? name = some c → sought ≠ "") ↔
      (n ≠ "" → config.aliases.get? n = some "" →
        ∀ c ∈ atlas.countries, c.name = "" ∧ c.admin = "")) ∧
    (∀ r, atlas.regionNamed? name parent = some r →
      r ∈ atlas.regions ∧ (r.HasRelatedName n ∨ "" ∈ r.names ∧ n.utf8ByteSize ≤ 3)) ∧
    ((∀ r, atlas.regionNamed? name parent = some r → r.HasRelatedName n) ↔
      (n ≠ "" → p ≠ "" → n.utf8ByteSize ≤ 3 →
        (∀ s ∈ atlas.regions, s.IsEligible p target → n ∉ s.names) →
        ∀ i r, IsFirst (fun s => s.IsEligible p target ∧ s.IsAlike n) atlas.regions i r →
          "" ∈ r.names → r.HasRelatedName n)) := by
  intro n sought p target
  have haliases : atlas.aliases = config.aliases := (of_read hread).1
  have hsought : atlas.unalias n = sought := by rw [unalias, haliases]
  have htarget : atlas.unalias p = target := by rw [unalias, haliases]
  refine ⟨⟨findTerritory?_eq_map, findSubregion?_eq_map⟩, ?_, ?_, ?_, ?_⟩
  · intro c hfound
    obtain ⟨-, hc, r, hrank⟩ := countryNamed?_eq_some hfound
    rw [hsought] at hrank
    exact ⟨hc, Country.hasRelatedKey_of_rank? hrank⟩
  · rw [← hsought, ← haliases]
    exact countryNamed?_not_empty_iff
  · intro r hfound
    exact ⟨mem_regions_of_regionNamed? hfound, hasRelatedName_or_of_regionNamed? hfound⟩
  · constructor
    · intro hrelated hn hp _ hunnamed i r hfirst _
      exact hrelated r ((regionNamed?_eq_some_iff htarget).mpr ⟨hn, hp, .inr ⟨hunnamed, i, hfirst⟩⟩)
    · intro hfirst r hfound
      rcases hasRelatedName_or_of_regionNamed? hfound with hrelated | ⟨hempty, hshort⟩
      · exact hrelated
      · obtain ⟨hn, hp, ⟨i, hnamed⟩ | ⟨hunnamed, i, halike⟩⟩ :=
          (regionNamed?_eq_some_iff htarget).mp hfound
        · exact ⟨n, hnamed.holds.2, hn, .inl rfl⟩
        · exact hfirst hn hp hshort hunnamed i r halike hempty

/-- The standard configuration but for one name, which stands for nothing. -/
def blanking : Config := { Config.standard with aliases := [("oz", "")] }

theorem found_by_name_iff_oz : ∃ atlas c r,
    read blanking (Feature.collection [[("NAME", "France")]])
      (some (Feature.collection [[("name", "-"), ("woe_name", "Oz."), ("admin", "Kansas")]])) =
        .ok atlas ∧
    atlas.countryNamed? "Oz" = some c ∧ c.HasRelatedKey "" ∧
    atlas.regionNamed? "Oz" "Kansas" = some r ∧ "" ∈ r.names ∧ r.HasRelatedName "oz" := by
  let france : Country := ⟨⟨"France", none, []⟩, "france", "", ""⟩
  let oz : Region := ⟨⟨"-", some "Kansas", []⟩, ["", "oz."], ["kansas"]⟩
  let atlas : Atlas := { empty blanking with countries := [france], regions := [oz] }
  have hread : read blanking (Feature.collection [[("NAME", "France")]])
      (some (Feature.collection [[("name", "-"), ("woe_name", "Oz."), ("admin", "Kansas")]])) =
        .ok atlas := read_collection (by decide +kernel) (by decide +kernel)
  have hcountry : atlas.countryNamed? "Oz" = some france := by decide +kernel
  have hregion : atlas.regionNamed? "Oz" "Kansas" = some oz := by decide +kernel
  obtain ⟨-, hkey, -, -, hname⟩ := found_by_name_iff hread "Oz" "Kansas"
  refine ⟨atlas, france, oz, hread, hcountry, (hkey france hcountry).2, hregion,
    List.mem_cons_self, hname.mpr ?_ oz hregion⟩
  intro _ _ _ _ i r hfirst _
  obtain rfl : r = oz := List.mem_singleton.mp hfirst.mem
  decide +kernel

/-- A country is found by an empty name, and so is a region. -/
theorem found_by_empty_name :
    (¬∀ (config : Config) (countries : String) (regions : Option String) (atlas : Atlas),
      read config countries regions = .ok atlas →
      ∀ (name : String) (c : Country), atlas.countryNamed? name = some c →
        (config.aliases.get? (normalize name)).getD (normalize name) ≠ "") ∧
    (¬∀ (config : Config) (countries : String) (regions : Option String) (atlas : Atlas),
      read config countries regions = .ok atlas →
      ∀ (name parent : String) (r : Region), atlas.regionNamed? name parent = some r →
        r.HasRelatedName (normalize name)) := by
  constructor
  · intro h
    let france : Country := ⟨⟨"France", none, []⟩, "france", "", ""⟩
    have hread : read blanking (Feature.collection [[("NAME", "France")]])
        (some (Feature.collection [])) =
        .ok { empty blanking with countries := [france], regions := [] } :=
      read_collection (by decide +kernel) rfl
    exact h _ _ _ _ hread "Oz" france (by decide +kernel) (by decide +kernel)
  · intro h
    let dash : Region := ⟨⟨"-", some "France", []⟩, [""], ["france"]⟩
    have hread : read .standard (Feature.collection [])
        (some (Feature.collection [[("name", "-"), ("admin", "France")]])) =
        .ok { empty .standard with countries := [], regions := [dash] } :=
      read_collection rfl (by decide +kernel)
    have hrelated := h _ _ _ _ hread "Var" "France" dash (by decide +kernel)
    revert hrelated
    decide +kernel

end Atlas

end ScriptedMap
