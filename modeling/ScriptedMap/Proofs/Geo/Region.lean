import ScriptedMap.Proofs.Geo.Loading
import ScriptedMap.Proofs.Geo.Name

namespace ScriptedMap

namespace Region

/-- The country of the region has the name sought, or the one it stands for. -/
def HasParent (parent target : String) (r : Region) : Prop :=
  ∃ p ∈ r.parents, p = parent ∨ p = target

/-- The country of the region has the name sought, or the one it stands for, or a name that contains
the one sought. -/
def IsEligible (parent target : String) (r : Region) : Prop :=
  ∃ p ∈ r.parents, p = parent ∨ p = target ∨ parent.toList <:+: p.toList

/-- A name of the region contains the one sought or is contained in it, and their lengths in UTF-8
differ by three bytes at most. -/
def IsAlike (name : String) (r : Region) : Prop :=
  ∃ n ∈ r.names, ((n.utf8ByteSize : Int) - name.utf8ByteSize).natAbs ≤ 3 ∧
    (name.toList <:+: n.toList ∨ n.toList <:+: name.toList)

variable {parent target name : String} {r : Region}

instance : Decidable (r.HasParent parent target) := inferInstanceAs (Decidable (∃ p ∈ _, _))

instance : Decidable (r.IsEligible parent target) := inferInstanceAs (Decidable (∃ p ∈ _, _))

instance : Decidable (r.IsAlike name) := inferInstanceAs (Decidable (∃ n ∈ _, _))

theorem HasParent.isEligible (h : r.HasParent parent target) : r.IsEligible parent target := by
  obtain ⟨p, hp, heq⟩ := h
  exact ⟨p, hp, heq.imp_right .inl⟩

theorem isIn_iff : r.isIn parent target = true ↔ r.IsEligible parent target := by
  simp [isIn, IsEligible, isWithin_iff, or_assoc]

theorem areClose_iff {s t : String} :
    areClose s t = true ↔ ((s.utf8ByteSize : Int) - t.utf8ByteSize).natAbs ≤ 3 := by
  rw [areClose, slack, Bool.and_eq_true, decide_eq_true_eq, decide_eq_true_eq]
  omega

theorem hasSimilarName_iff : r.hasSimilarName name = true ↔ r.IsAlike name := by
  simp [hasSimilarName, IsAlike, areClose_iff, isWithin_iff]

theorem named_iff : (r.hasName name && r.isIn parent target) = true ↔
    r.IsEligible parent target ∧ name ∈ r.names := by
  simp [hasName, isIn_iff, and_comm]

theorem alike_iff : (r.hasSimilarName name && r.isIn parent target) = true ↔
    r.IsEligible parent target ∧ r.IsAlike name := by
  rw [Bool.and_eq_true, hasSimilarName_iff, isIn_iff, and_comm]

end Region

namespace Atlas

section Found

variable {atlas : Atlas} {name parent : String}

theorem findSubregion?_of_empty (h : normalize name = "" ∨ normalize parent = "") :
    atlas.findSubregion? name parent = none := by
  rcases h with h | h <;> simp [findSubregion?, h]

theorem findSubregion?_eq_or (hn : normalize name ≠ "") (hp : normalize parent ≠ "") :
    atlas.findSubregion? name parent =
      ((atlas.regions.find? fun r => r.hasName (normalize name) &&
          r.isIn (normalize parent) (atlas.unalias (normalize parent))).or
        (atlas.regions.find? fun r => r.hasSimilarName (normalize name) &&
          r.isIn (normalize parent) (atlas.unalias (normalize parent)))).map (·.territory) := by
  simp only [findSubregion?, List.findSome?_cons, List.findSome?_nil, String.isEmpty_iff, hn, hp,
    Bool.or_eq_true, or_self, if_false]
  cases atlas.regions.find? fun r => r.hasName (normalize name) &&
      r.isIn (normalize parent) (atlas.unalias (normalize parent)) with
  | some r => rfl
  | none =>
    cases atlas.regions.find? fun r => r.hasSimilarName (normalize name) &&
        r.isIn (normalize parent) (atlas.unalias (normalize parent)) <;> rfl

/-- What is found: the first region with the name, or else the first with a similar one, or else
nothing. -/
theorem findSubregion?_cases {target : String} (htarget : atlas.unalias (normalize parent) = target)
    (hn : normalize name ≠ "") (hp : normalize parent ≠ "") :
    (∃ i r, IsFirst (fun r => r.IsEligible (normalize parent) target ∧ normalize name ∈ r.names)
        atlas.regions i r ∧ atlas.findSubregion? name parent = some r.territory) ∨
    (∀ r ∈ atlas.regions, r.IsEligible (normalize parent) target → normalize name ∉ r.names) ∧
      ((∃ i r, IsFirst
            (fun r => r.IsEligible (normalize parent) target ∧ r.IsAlike (normalize name))
          atlas.regions i r ∧ atlas.findSubregion? name parent = some r.territory) ∨
      (∀ r ∈ atlas.regions, r.IsEligible (normalize parent) target → ¬r.IsAlike (normalize name)) ∧
        atlas.findSubregion? name parent = none) := by
  subst htarget
  rw [findSubregion?_eq_or hn hp]
  rcases find?_cases (fun _ => Region.named_iff) atlas.regions with
    ⟨i, r, hfirst, hfind⟩ | ⟨hnot, hfind⟩
  · refine .inl ⟨i, r, hfirst, ?_⟩
    rw [hfind]
    rfl
  · refine .inr ⟨fun r hr heligible hmem => hnot r hr ⟨heligible, hmem⟩, ?_⟩
    rw [hfind, Option.none_or]
    rcases find?_cases (fun _ => Region.alike_iff) atlas.regions with
      ⟨i, r, hfirst, hfind⟩ | ⟨hnot, hfind⟩
    · refine .inl ⟨i, r, hfirst, ?_⟩
      rw [hfind]
      rfl
    · refine .inr ⟨fun r hr heligible halike => hnot r hr ⟨heligible, halike⟩, ?_⟩
      rw [hfind]
      rfl

variable {target : String} (htarget : atlas.unalias (normalize parent) = target)
  (hn : normalize name ≠ "") (hp : normalize parent ≠ "")

include htarget hn hp

theorem findSubregion?_of_named {i : Nat} {r : Region}
    (h : IsFirst (fun r => r.IsEligible (normalize parent) target ∧ normalize name ∈ r.names)
      atlas.regions i r) :
    atlas.findSubregion? name parent = some r.territory := by
  rcases findSubregion?_cases htarget hn hp with ⟨j, s, hs, hfind⟩ | ⟨hunnamed, -⟩
  · rw [hfind, (hs.eq h).2]
  · exact absurd h.holds.2 (hunnamed r h.mem h.holds.1)

theorem findSubregion?_of_alike
    (hunnamed : ∀ r ∈ atlas.regions, r.IsEligible (normalize parent) target →
      normalize name ∉ r.names) {i : Nat} {r : Region}
    (h : IsFirst (fun r => r.IsEligible (normalize parent) target ∧ r.IsAlike (normalize name))
      atlas.regions i r) :
    atlas.findSubregion? name parent = some r.territory := by
  rcases findSubregion?_cases htarget hn hp with
    ⟨j, s, hs, -⟩ | ⟨-, ⟨j, s, hs, hfind⟩ | ⟨hunlike, -⟩⟩
  · exact absurd hs.holds.2 (hunnamed s hs.mem hs.holds.1)
  · rw [hfind, (hs.eq h).2]
  · exact absurd h.holds.2 (hunlike r h.mem h.holds.1)

theorem findSubregion?_eq_none_iff :
    atlas.findSubregion? name parent = none ↔
      ∀ r ∈ atlas.regions, r.IsEligible (normalize parent) target →
        normalize name ∉ r.names ∧ ¬r.IsAlike (normalize name) := by
  rcases findSubregion?_cases htarget hn hp with
    ⟨j, s, hs, hfind⟩ | ⟨hunnamed, ⟨j, s, hs, hfind⟩ | ⟨hunlike, hfind⟩⟩
  · rw [hfind]
    exact ⟨nofun, fun h => absurd hs.holds.2 (h s hs.mem hs.holds.1).1⟩
  · rw [hfind]
    exact ⟨nofun, fun h => absurd hs.holds.2 (h s hs.mem hs.holds.1).2⟩
  · exact ⟨fun _ r hr heligible => ⟨hunnamed r hr heligible, hunlike r hr heligible⟩,
      fun _ => hfind⟩

/-- What is found is a region of the country, and it has the name unless no region of the country
has. -/
theorem exists_of_findSubregion? {t : Territory} (h : atlas.findSubregion? name parent = some t) :
    ∃ r ∈ atlas.regions, r.territory = t ∧ r.IsEligible (normalize parent) target ∧
      (normalize name ∈ r.names ∨ r.IsAlike (normalize name) ∧
        ∀ s ∈ atlas.regions, s.IsEligible (normalize parent) target →
          normalize name ∉ s.names) := by
  rcases findSubregion?_cases htarget hn hp with
    ⟨j, s, hs, hfind⟩ | ⟨hunnamed, ⟨j, s, hs, hfind⟩ | ⟨-, hfind⟩⟩
  · rw [hfind] at h
    exact ⟨s, hs.mem, Option.some.inj h, hs.holds.1, .inl hs.holds.2⟩
  · rw [hfind] at h
    exact ⟨s, hs.mem, Option.some.inj h, hs.holds.1, .inr ⟨hs.holds.2, hunnamed⟩⟩
  · rw [hfind] at h
    cases h

end Found

/-- The region of a name in a country is the first one of the country that has the name, or if none
has it the first one with a similar name. -/
theorem findSubregion?_first {config : Config} {countries : String} {regions : Option String}
    {atlas : Atlas} (hread : read config countries regions = .ok atlas) (name parent : String) :
    let n := normalize name
    let p := normalize parent
    let target := (config.aliases.get? p).getD p
    Dataset.HoldsRegions regions atlas.regions ∧
    (n = "" ∨ p = "" → atlas.findSubregion? name parent = none) ∧
    (n ≠ "" → p ≠ "" →
      (∀ i r, IsFirst (fun r => r.IsEligible p target ∧ n ∈ r.names) atlas.regions i r →
        atlas.findSubregion? name parent = some r.territory) ∧
      ((∀ r ∈ atlas.regions, r.IsEligible p target → n ∉ r.names) →
        ∀ i r, IsFirst (fun r => r.IsEligible p target ∧ r.IsAlike n) atlas.regions i r →
          atlas.findSubregion? name parent = some r.territory) ∧
      (atlas.findSubregion? name parent = none ↔
        ∀ r ∈ atlas.regions, r.IsEligible p target → n ∉ r.names ∧ ¬r.IsAlike n) ∧
      ∀ t, atlas.findSubregion? name parent = some t →
        ∃ r ∈ atlas.regions, r.territory = t ∧ r.IsEligible p target ∧
          (n ∈ r.names ∨
            r.IsAlike n ∧ ∀ s ∈ atlas.regions, s.IsEligible p target → n ∉ s.names)) := by
  intro n p target
  obtain ⟨haliases, -, hregions⟩ := of_read hread
  have htarget : atlas.unalias p = target := by rw [unalias, haliases]
  refine ⟨hregions, findSubregion?_of_empty, ?_⟩
  intro hn hp
  refine ⟨?_, ?_, findSubregion?_eq_none_iff htarget hn hp, ?_⟩
  · intro i r hfirst
    exact findSubregion?_of_named htarget hn hp hfirst
  · intro hunnamed i r hfirst
    exact findSubregion?_of_alike htarget hn hp hunnamed hfirst
  · intro t ht
    exact exists_of_findSubregion? htarget hn hp ht

/-- Regions of which the later ones fit better, and one of another country. -/
def texases : List (List (String × String)) :=
  [[("name", "Texa"), ("admin", "United States of America")],
   [("name", "Texas"), ("admin", "Mexico")],
   [("woe_name", "Texas"), ("sovereignt", "United-States of America")]]

theorem findSubregion?_first_texases : ∃ atlas,
    read .standard (Feature.collection []) (some (Feature.collection texases)) = .ok atlas ∧
    normalize "texas" ≠ "" ∧ normalize "texaß" ≠ "" ∧ normalize "USA" ≠ "" ∧
    atlas.findSubregion? "texas" "USA" = some ⟨"Texas", some "United-States of America", []⟩ ∧
    atlas.findSubregion? "texaß" "USA" = some ⟨"Texa", some "United States of America", []⟩ := by
  let known : List Region :=
    [⟨⟨"Texa", some "United States of America", []⟩, ["texa"], ["united states of america"]⟩,
     ⟨⟨"Texas", some "Mexico", []⟩, ["texas"], ["mexico"]⟩,
     ⟨⟨"Texas", some "United-States of America", []⟩, ["texas"], ["united states of america"]⟩]
  let atlas : Atlas := { empty .standard with countries := [], regions := known }
  have hread : read .standard (Feature.collection []) (some (Feature.collection texases)) =
      .ok atlas := read_collection rfl (by decide +kernel)
  have hname : normalize "texas" ≠ "" := by decide +kernel
  have hsharp : normalize "texaß" ≠ "" := by decide +kernel
  have hparent : normalize "USA" ≠ "" := by decide +kernel
  obtain ⟨hnamed, -⟩ := (findSubregion?_first hread "texas" "USA").2.2 hname hparent
  obtain ⟨-, halike, -⟩ := (findSubregion?_first hread "texaß" "USA").2.2 hsharp hparent
  refine ⟨atlas, hread, hname, hsharp, hparent, ?_, ?_⟩
  · exact hnamed 2 known[2] ⟨rfl, by decide +kernel, by decide +kernel⟩
  · exact halike (by decide +kernel) 0 known[0] ⟨rfl, by decide +kernel, by decide +kernel⟩

/-- The country of what is found has the very name sought if and only if no region that has the
name, of a country whose name only contains the one sought, comes before all those of the country
itself. -/
theorem findSubregion?_exact_iff {config : Config} {countries : String} {regions : Option String}
    {atlas : Atlas} (hread : read config countries regions = .ok atlas) (name parent : String) :
    let n := normalize name
    let p := normalize parent
    let target := (config.aliases.get? p).getD p
    n ≠ "" → p ≠ "" → (∃ s ∈ atlas.regions, n ∈ s.names ∧ s.HasParent p target) →
    ∃ (i : Nat) (r : Region), atlas.regions[i]? = some r ∧ n ∈ r.names ∧ r.IsEligible p target ∧
      atlas.findSubregion? name parent = some r.territory ∧
      (r.HasParent p target ↔
        ∀ (j : Nat) (b : Region), atlas.regions[j]? = some b → n ∈ b.names →
          b.IsEligible p target → ¬b.HasParent p target →
          ∃ k < j, ∃ s : Region, atlas.regions[k]? = some s ∧ n ∈ s.names ∧
            s.HasParent p target) := by
  intro n p target hn hp hexact
  obtain ⟨s, hs, hnamed, hparent⟩ := hexact
  have htarget : atlas.unalias p = target := by rw [unalias, (of_read hread).1]
  rcases findSubregion?_cases htarget hn hp with ⟨i, r, hfirst, hfind⟩ | ⟨hunnamed, -⟩
  · refine ⟨i, r, hfirst.get, hfirst.holds.2, hfirst.holds.1, hfind, ?_⟩
    constructor
    · intro hr j b hb hbnamed hbeligible hbnot
      have hle : i ≤ j := hfirst.le hb ⟨hbeligible, hbnamed⟩
      have hne : i ≠ j := by
        rintro rfl
        obtain rfl : r = b := Option.some.inj (hfirst.get.symm.trans hb)
        exact hbnot hr
      exact ⟨i, by omega, r, hfirst.get, hfirst.holds.2, hr⟩
    · intro hcovered
      by_contra hr
      obtain ⟨k, hk, s, hget, hsnamed, hsparent⟩ :=
        hcovered i r hfirst.get hfirst.holds.2 hfirst.holds.1 hr
      have hle : i ≤ k := hfirst.le hget ⟨hsparent.isEligible, hsnamed⟩
      omega
  · exact absurd hnamed (hunnamed s hs hparent.isEligible)

/-- Two regions of one name, the first in a country whose name contains that of the other. -/
def centrals : List (List (String × String)) :=
  [[("name", "Central"), ("admin", "Papua New Guinea")], [("name", "Central"), ("admin", "Guinea")]]

theorem findSubregion?_exact_iff_centrals : ∃ atlas,
    read .standard (Feature.collection []) (some (Feature.collection centrals.reverse)) =
      .ok atlas ∧
    normalize "Central" ≠ "" ∧ normalize "Guinea" ≠ "" ∧
    (∃ s ∈ atlas.regions, normalize "Central" ∈ s.names ∧ s.HasParent "guinea" "guinea") ∧
    ∃ r : Region, atlas.findSubregion? "Central" "Guinea" = some r.territory ∧
      r.HasParent "guinea" "guinea" := by
  let known : List Region :=
    [⟨⟨"Central", some "Guinea", []⟩, ["central"], ["guinea"]⟩,
     ⟨⟨"Central", some "Papua New Guinea", []⟩, ["central"], ["papua new guinea"]⟩]
  let atlas : Atlas := { empty .standard with countries := [], regions := known }
  have hread : read .standard (Feature.collection [])
      (some (Feature.collection centrals.reverse)) = .ok atlas :=
    read_collection rfl (by decide +kernel)
  have hname : normalize "Central" ≠ "" := by decide +kernel
  have hparent : normalize "Guinea" ≠ "" := by decide +kernel
  have hexact : ∃ s ∈ atlas.regions, normalize "Central" ∈ s.names ∧
      s.HasParent "guinea" "guinea" := by decide +kernel
  obtain ⟨i, r, -, -, -, hfind, hiff⟩ :=
    findSubregion?_exact_iff hread "Central" "Guinea" hname hparent hexact
  refine ⟨atlas, hread, hname, hparent, hexact, r, hfind, hiff.mpr ?_⟩
  intro j b hb _ _ hnot
  rcases j with _ | j
  · cases hb
    exact absurd (by decide) hnot
  · exact ⟨0, Nat.succ_pos j, known[0], rfl, by decide +kernel, by decide +kernel⟩

/-- A region of the very country can be passed over for one of a country whose name contains it. -/
theorem findSubregion?_not_exact :
    ¬∀ (config : Config) (countries : String) (regions : Option String) (atlas : Atlas),
      read config countries regions = .ok atlas → ∀ name parent : String,
        let n := normalize name
        let p := normalize parent
        let target := (config.aliases.get? p).getD p
        n ≠ "" → p ≠ "" → (∃ s ∈ atlas.regions, n ∈ s.names ∧ s.HasParent p target) →
        ∃ r ∈ atlas.regions, atlas.findSubregion? name parent = some r.territory ∧
          r.HasParent p target := by
  intro h
  let known : List Region :=
    [⟨⟨"Central", some "Papua New Guinea", []⟩, ["central"], ["papua new guinea"]⟩,
     ⟨⟨"Central", some "Guinea", []⟩, ["central"], ["guinea"]⟩]
  have hread : read .standard (Feature.collection []) (some (Feature.collection centrals)) =
      .ok { empty .standard with countries := [], regions := known } :=
    read_collection rfl (by decide +kernel)
  have hfound := h _ _ _ _ hread "Central" "Guinea" (by decide +kernel) (by decide +kernel)
    (by decide +kernel)
  revert hfound
  decide +kernel

end Atlas

end ScriptedMap
