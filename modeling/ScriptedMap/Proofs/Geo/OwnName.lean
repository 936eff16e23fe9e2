import ScriptedMap.Proofs.Geo.Country

namespace ScriptedMap

/-- A country has its own name as its name, or else as its administrative name. -/
theorem Country.IsOf.rank?_own {feature : Json} {c : Country} (h : c.IsOf feature)
    (hname : normalize c.territory.name ≠ "") :
    ∃ r ≤ 1, c.rank? (normalize c.territory.name) = some r := by
  have htitle := Feature.head?_texts_eq_some_iff.mpr h.territory.name
  rw [Feature.head?_texts_country] at htitle
  cases hnamed : Feature.property? feature "NAME" with
  | some title =>
    rw [hnamed] at htitle
    obtain rfl : title = c.territory.name := Option.some.inj htitle
    have hkey : c.name = normalize c.territory.name := by
      rw [h.name, Feature.key, hnamed]
      rfl
    exact ⟨0, Nat.zero_le 1, if_pos ⟨hkey ▸ hname, hkey⟩⟩
  | none =>
    rw [hnamed] at htitle
    have hadmin : Feature.property? feature "ADMIN" = some c.territory.name := htitle
    have hkey : c.admin = normalize c.territory.name := by
      rw [h.admin, Feature.key, hadmin]
      rfl
    have hmissing : c.name = "" := by
      rw [h.name, Feature.key, hnamed]
      rfl
    have hnot : ¬(c.name ≠ "" ∧ c.name = normalize c.territory.name) := fun hkey => hkey.1 hmissing
    exact ⟨1, Nat.le_refl 1, (if_neg hnot).trans (if_pos ⟨hkey ▸ hname, hkey⟩)⟩

namespace Atlas

/-- A name that stands for no other finds a country that has it as its name or as its administrative
name, if some country is called so. -/
theorem findTerritory?_of_own {atlas : Atlas} {c : Country} (hc : c ∈ atlas.countries)
    {feature : Json} (hfrom : c.IsOf feature) (hname : normalize c.territory.name ≠ "")
    (halias : atlas.aliases.get? (normalize c.territory.name) = none) :
    ∃ i r d, IsBest (Country.rank? (normalize c.territory.name)) atlas.countries i r d ∧ r ≤ 1 ∧
      atlas.findTerritory? c.territory.name = some d.territory := by
  have hsought : atlas.unalias (normalize c.territory.name) = normalize c.territory.name := by
    rw [unalias, halias]
    rfl
  obtain ⟨q, hq, hrank⟩ := hfrom.rank?_own hname
  cases hfind : atlas.findTerritory? c.territory.name with
  | none =>
    have hnone := (findTerritory?_eq_none_iff hname).mp hfind c hc
    rw [hsought, hrank] at hnone
    cases hnone
  | some t =>
    obtain ⟨i, r, d, hbest, rfl⟩ := (findTerritory?_eq_some_iff hname).mp hfind
    rw [hsought] at hbest
    exact ⟨i, r, d, hbest, Nat.le_trans (hbest.least c hc q hrank) hq, rfl⟩

/-- A country is found under its own name if and only if the name does not stand for one that fits
no country. -/
theorem findTerritory?_own_iff {config : Config} {countries : String} {regions : Option String}
    {atlas : Atlas} (hread : read config countries regions = .ok atlas) {c : Country}
    (hc : c ∈ atlas.countries) (hname : normalize c.territory.name ≠ "") :
    let n := normalize c.territory.name
    Dataset.HoldsCountries countries atlas.countries ∧
    (atlas.findTerritory? c.territory.name ≠ none ↔
      ∀ target, config.aliases.get? n = some target →
        ∃ d ∈ atlas.countries, d.rank? target ≠ none) ∧
    (config.aliases.get? n = none → ∃ i r d,
      IsBest (Country.rank? n) atlas.countries i r d ∧ r ≤ 1 ∧
        atlas.findTerritory? c.territory.name = some d.territory) := by
  intro n
  obtain ⟨haliases, hcountries, -⟩ := of_read hread
  have hheld := hcountries
  obtain ⟨_, -, hall⟩ := hheld
  obtain ⟨feature, -, hfrom⟩ := exists_of_forall₂ hall hc
  have hown (halias : config.aliases.get? n = none) := by
    rw [← haliases] at halias
    exact findTerritory?_of_own hc hfrom hname halias
  refine ⟨hcountries, ?_, hown⟩
  cases halias : config.aliases.get? n with
  | none =>
    obtain ⟨_, _, d, -, -, hfind⟩ := hown halias
    rw [hfind]
    exact ⟨fun _ => nofun, fun _ => nofun⟩
  | some target =>
    have hsought : atlas.unalias n = target := by
      rw [unalias, haliases, halias]
      rfl
    rw [ne_eq, findTerritory?_eq_none_iff hname, hsought]
    simp

/-- Two countries, the first of which has a name that stands for that of the second. -/
def unions : List (List (String × String)) :=
  [[("NAME", "England")], [("ADMIN", "United-Kingdom")]]

theorem findTerritory?_own_iff_unions : ∃ atlas england union,
    read .standard (Feature.collection unions) (some (Feature.collection [])) = .ok atlas ∧
    england ∈ atlas.countries ∧ union ∈ atlas.countries ∧
    normalize england.territory.name ≠ "" ∧ normalize union.territory.name ≠ "" ∧
    england.territory.name = "England" ∧ atlas.findTerritory? "England" ≠ none ∧
    union.territory.name = "United-Kingdom" ∧ atlas.findTerritory? "United-Kingdom" ≠ none := by
  let england : Country := ⟨⟨"England", none, []⟩, "england", "", ""⟩
  let union : Country := ⟨⟨"United-Kingdom", none, []⟩, "", "united kingdom", ""⟩
  let atlas : Atlas := { empty .standard with countries := [england, union], regions := [] }
  have hread : read .standard (Feature.collection unions) (some (Feature.collection [])) =
      .ok atlas := read_collection (by decide +kernel) rfl
  have hengland : england ∈ atlas.countries := List.mem_cons_self
  have hunion : union ∈ atlas.countries := List.mem_cons_of_mem _ List.mem_cons_self
  have hname : normalize england.territory.name ≠ "" := by decide +kernel
  have hname' : normalize union.territory.name ≠ "" := by decide +kernel
  have hstands : Config.standard.aliases.get? (normalize england.territory.name) =
      some "united kingdom" := by decide +kernel
  have halone : Config.standard.aliases.get? (normalize union.territory.name) = none := by
    decide +kernel
  refine ⟨atlas, england, union, hread, hengland, hunion, hname, hname', rfl, ?_, rfl, ?_⟩
  · refine (findTerritory?_own_iff hread hengland hname).2.1.mpr ?_
    intro target htarget
    obtain rfl := Option.some.inj (hstands.symm.trans htarget)
    exact ⟨union, hunion, by decide⟩
  · obtain ⟨i, r, d, -, -, hfind⟩ := (findTerritory?_own_iff hread hunion hname').2.2 halone
    change atlas.findTerritory? "United-Kingdom" = _ at hfind
    rw [hfind]
    exact Option.some_ne_none _

/-- A country is not found under its own name where that name stands for one of no country. -/
theorem findTerritory?_not_own :
    ¬∀ (config : Config) (countries : String) (regions : Option String) (atlas : Atlas),
      read config countries regions = .ok atlas →
      ∀ c ∈ atlas.countries, normalize c.territory.name ≠ "" →
        atlas.findTerritory? c.territory.name ≠ none := by
  intro h
  let england : Country := ⟨⟨"England", none, []⟩, "england", "", ""⟩
  have hread : read .standard (Feature.collection [[("NAME", "England")]])
      (some (Feature.collection [])) =
      .ok { empty .standard with countries := [england], regions := [] } :=
    read_collection (by decide +kernel) rfl
  have hfound := h _ _ _ _ hread england List.mem_cons_self (by decide +kernel)
  revert hfound
  decide +kernel

end Atlas

end ScriptedMap
