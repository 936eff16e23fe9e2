import ScriptedMap.Proofs.Geo.Loading
import ScriptedMap.Proofs.Geo.Name

namespace ScriptedMap

theorem isKey_iff {sought key : String} : isKey sought key = true ↔ key ≠ "" ∧ key = sought := by
  simp [isKey]

theorem sharesBeginning_iff {sought key : String} : sharesBeginning sought key = true ↔
    key ≠ "" ∧ (key.toList <+: sought.toList ∨ sought.toList <+: key.toList) := by
  simp [sharesBeginning, begins_iff, or_comm]

namespace Country

/-- How well a country fits the name sought, the least number the best. The name sought is its name,
its administrative name or its long name, or it begins one of the first two or is begun by one of
them. -/
def rank? (sought : String) (c : Country) : Option Nat :=
  if c.name ≠ "" ∧ c.name = sought then some 0
  else if c.admin ≠ "" ∧ c.admin = sought then some 1
  else if c.longName ≠ "" ∧ c.longName = sought then some 2
  else if ∃ key ∈ [c.name, c.admin],
      key ≠ "" ∧ (key.toList <+: sought.toList ∨ sought.toList <+: key.toList) then some 3
  else none

theorem rankBy_tests (sought : String) : rankBy (tests sought) = rank? sought := by
  funext c
  have hshares : (sharesBeginning sought c.name || sharesBeginning sought c.admin) = true ↔
      ∃ key ∈ [c.name, c.admin],
        key ≠ "" ∧ (key.toList <+: sought.toList ∨ sought.toList <+: key.toList) := by
    simp [sharesBeginning_iff]
  simp only [rankBy, tests, List.findIdx?_cons, List.findIdx?_nil, isKey_iff, hshares, rank?]
  split_ifs <;> rfl

end Country

namespace Atlas

variable {atlas : Atlas} {name : String} {t : Territory}

theorem findTerritory?_of_empty (h : normalize name = "") : atlas.findTerritory? name = none := by
  simp [findTerritory?, h]

theorem findTerritory?_eq_search (h : normalize name ≠ "") :
    atlas.findTerritory? name =
      (search (Country.tests (atlas.unalias (normalize name))) atlas.countries).map
        (·.territory) := by
  have hempty : (normalize name).isEmpty = false := by simpa using h
  rw [findTerritory?, hempty]
  rfl

theorem findTerritory?_eq_some_iff (h : normalize name ≠ "") :
    atlas.findTerritory? name = some t ↔ ∃ i r c,
      IsBest (Country.rank? (atlas.unalias (normalize name))) atlas.countries i r c ∧
        c.territory = t := by
  rw [findTerritory?_eq_search h, Option.map_eq_some_iff]
  simp only [search_eq_some_iff, Country.rankBy_tests]
  constructor
  · rintro ⟨c, ⟨i, r, hbest⟩, ht⟩
    exact ⟨i, r, c, hbest, ht⟩
  · rintro ⟨i, r, c, hbest, ht⟩
    exact ⟨c, ⟨i, r, hbest⟩, ht⟩

theorem findTerritory?_eq_none_iff (h : normalize name ≠ "") :
    atlas.findTerritory? name = none ↔
      ∀ c ∈ atlas.countries, c.rank? (atlas.unalias (normalize name)) = none := by
  rw [findTerritory?_eq_search h, Option.map_eq_none_iff, search_eq_none_iff, Country.rankBy_tests]

/-- More countries at the end of the dataset change an answer only for a country
of a better rank. -/
theorem findTerritory?_append {longer : Atlas} {more : List Country}
    (haliases : longer.aliases = atlas.aliases)
    (hcountries : longer.countries = atlas.countries ++ more) (h : normalize name ≠ "") :
    longer.findTerritory? name = atlas.findTerritory? name ∨ ∃ i r c,
      IsBest (Country.rank? (atlas.unalias (normalize name))) longer.countries i r c ∧
        longer.findTerritory? name = some c.territory ∧
        ∀ d ∈ atlas.countries, ∀ q ∈ d.rank? (atlas.unalias (normalize name)), r < q := by
  have hsought : longer.unalias (normalize name) = atlas.unalias (normalize name) := by
    rw [unalias, haliases, unalias]
  cases hfind : longer.findTerritory? name with
  | none =>
    left
    have hnone := (findTerritory?_eq_none_iff h).mp hfind
    refine ((findTerritory?_eq_none_iff h).mpr ?_).symm
    intro c hc
    rw [← hsought]
    exact hnone c (hcountries ▸ List.mem_append_left more hc)
  | some t =>
    obtain ⟨i, r, c, hbest, rfl⟩ := (findTerritory?_eq_some_iff h).mp hfind
    rw [hsought] at hbest
    rcases (hcountries ▸ hbest).of_append with hsame | ⟨-, hbetter⟩
    · exact .inl ((findTerritory?_eq_some_iff h).mpr ⟨i, r, c, hsame, rfl⟩).symm
    · exact .inr ⟨i, r, c, hbest, rfl, hbetter⟩

/-- The country of a name is the first one of those that fit it best. -/
theorem findTerritory?_best {config : Config} {countries : String} {regions : Option String}
    {atlas : Atlas} (hread : read config countries regions = .ok atlas) (name : String) :
    let n := normalize name
    let sought := (config.aliases.get? n).getD n
    Dataset.HoldsCountries countries atlas.countries ∧
    (n = "" → atlas.findTerritory? name = none) ∧
    (n ≠ "" →
      (∀ t, atlas.findTerritory? name = some t ↔ ∃ i r c,
        IsBest (Country.rank? sought) atlas.countries i r c ∧ c.territory = t) ∧
      (atlas.findTerritory? name = none ↔ ∀ c ∈ atlas.countries, c.rank? sought = none) ∧
      ∀ countries' regions' longer, Extends countries countries' →
        read config countries' regions' = .ok longer →
        longer.findTerritory? name = atlas.findTerritory? name ∨ ∃ i r c,
          IsBest (Country.rank? sought) longer.countries i r c ∧
            longer.findTerritory? name = some c.territory ∧
            ∀ j q d, IsBest (Country.rank? sought) atlas.countries j q d → r < q) := by
  intro n sought
  obtain ⟨haliases, hcountries, -⟩ := of_read hread
  have hsought : atlas.unalias n = sought := by rw [unalias, haliases]
  refine ⟨hcountries, findTerritory?_of_empty, ?_⟩
  intro hn
  rw [← hsought]
  refine ⟨fun t => findTerritory?_eq_some_iff hn, findTerritory?_eq_none_iff hn, ?_⟩
  intro countries' regions' longer hextends hlonger
  obtain ⟨haliases', hcountries', -⟩ := of_read hlonger
  obtain ⟨more, hmore⟩ := readCountries_append hextends
    (readCountries_eq_ok_iff.mpr hcountries) (readCountries_eq_ok_iff.mpr hcountries')
  rcases findTerritory?_append (haliases'.trans haliases.symm) hmore hn with hsame | hbetter
  · exact .inl hsame
  · obtain ⟨i, r, c, hbest, hfind, hless⟩ := hbetter
    exact .inr ⟨i, r, c, hbest, hfind, fun j q d hd => hless d hd.first.mem q hd.first.holds⟩

/-- Three countries that can be called the United Kingdom, the later ones the better. -/
def kingdoms : List (List (String × String)) :=
  [[("NAME", "United Kingdoms of Old")],
   [("NAME", "U.K."), ("NAME_LONG", "United Kingdom")],
   [("NAME", "Albion"), ("ADMIN", "United-Kingdom")]]

def kingdomsAndMore : List (List (String × String)) :=
  kingdoms ++ [[("NAME", "The United Kingdom")]]

theorem findTerritory?_best_kingdoms : ∃ atlas longer,
    read .standard (Feature.collection kingdoms) (some (Feature.collection [])) = .ok atlas ∧
    Extends (Feature.collection kingdoms) (Feature.collection kingdomsAndMore) ∧
    read .standard (Feature.collection kingdomsAndMore) (some (Feature.collection [])) =
      .ok longer ∧
    normalize "Britain" ≠ "" ∧
    atlas.findTerritory? "Britain" = some ⟨"Albion", none, []⟩ ∧
    longer.findTerritory? "Britain" = some ⟨"The United Kingdom", none, []⟩ ∧
    ∃ (c : Country) (r : Nat), c.rank? "united kingdom" = some r ∧ r < 1 ∧
      longer.findTerritory? "Britain" = some c.territory := by
  let known : List Country :=
    [⟨⟨"United Kingdoms of Old", none, []⟩, "united kingdoms of old", "", ""⟩,
     ⟨⟨"U.K.", none, []⟩, "u.k.", "", "united kingdom"⟩,
     ⟨⟨"Albion", none, []⟩, "albion", "united kingdom", ""⟩]
  let kingdom : Country := ⟨⟨"The United Kingdom", none, []⟩, "united kingdom", "", ""⟩
  let atlas : Atlas := { empty .standard with countries := known, regions := [] }
  let longer : Atlas := { empty .standard with countries := known ++ [kingdom], regions := [] }
  have hread : read .standard (Feature.collection kingdoms) (some (Feature.collection [])) =
      .ok atlas := read_collection (by decide +kernel) rfl
  have hlonger : read .standard (Feature.collection kingdomsAndMore)
      (some (Feature.collection [])) = .ok longer := read_collection (by decide +kernel) rfl
  have hextends : Extends (Feature.collection kingdoms) (Feature.collection kingdomsAndMore) :=
    ⟨_, _, Feature.ofText_collection kingdoms, Feature.ofText_collection kingdomsAndMore⟩
  have hname : normalize "Britain" ≠ "" := by decide +kernel
  have halbion : IsBest (Country.rank? "united kingdom") atlas.countries 2 1 known[2] :=
    ⟨⟨rfl, by decide +kernel, by decide +kernel⟩, by decide +kernel⟩
  have hkingdom : IsBest (Country.rank? "united kingdom") longer.countries 3 0 kingdom :=
    ⟨⟨rfl, by decide +kernel, by decide +kernel⟩, by decide +kernel⟩
  obtain ⟨hfirst, -, hmore⟩ := (findTerritory?_best hread "Britain").2.2 hname
  obtain ⟨hsecond, -⟩ := (findTerritory?_best hlonger "Britain").2.2 hname
  have hbefore : atlas.findTerritory? "Britain" = some ⟨"Albion", none, []⟩ :=
    (hfirst _).mpr ⟨2, 1, _, halbion, rfl⟩
  have hafter : longer.findTerritory? "Britain" = some ⟨"The United Kingdom", none, []⟩ :=
    (hsecond _).mpr ⟨3, 0, _, hkingdom, rfl⟩
  refine ⟨atlas, longer, hread, hextends, hlonger, hname, hbefore, hafter, ?_⟩
  rcases hmore _ _ longer hextends hlonger with hsame | ⟨i, r, c, hbest, hfind, hless⟩
  · rw [hbefore, hafter] at hsame
    exact absurd hsame (by decide)
  · exact ⟨c, r, hbest.first.holds, hless 2 1 _ halbion, hfind⟩

end Atlas

end ScriptedMap
