import ScriptedMap.Geo.Atlas
import ScriptedMap.Proofs.Text.Blank
import ScriptedMap.Proofs.Text.Lowercase

namespace ScriptedMap

/-- The name begins with `the`, in whatever letter case, and a blank, a hyphen or an underscore
follows. -/
def HasArticle (name : String) : Prop :=
  (lowercase name).toList.take 3 = ['t', 'h', 'e'] ∧
    (lowercase name).toList[3]?.any gapRanges.holds = true

instance (name : String) : Decidable (HasArticle name) := inferInstanceAs (Decidable (_ ∧ _))

/-- The name as the article is looked for in it. -/
def plain (name : String) : List Char := (lowercase name).toList.map spaced

/-- The article that is left out stands at the beginning. -/
def LeadsWithArticle (s : List Char) : Prop :=
  ∃ c rest, s = 't' :: 'h' :: 'e' :: c :: rest ∧ isBlank c = true

theorem normalize_eq (name : String) :
    normalize name = String.ofList (trim (dropArticle (plain name))) := rfl

section Gaps

theorem gapRanges_holds_iff {c : Char} :
    gapRanges.holds c = true ↔ isBlank c = true ∨ c = '-' ∨ c = '_' := by
  have hhyphen : 0x2D ≤ c.toNat ∧ c.toNat ≤ 0x2D ↔ c = '-' := by
    rw [← Char.toNat_inj]
    change _ ↔ c.toNat = 0x2D
    omega
  have hunderscore : 0x5F ≤ c.toNat ∧ c.toNat ≤ 0x5F ↔ c = '_' := by
    rw [← Char.toNat_inj]
    change _ ↔ c.toNat = 0x5F
    omega
  rw [gapRanges, CodeRanges.holds, List.any_append, Bool.or_eq_true]
  simp [isBlank, CodeRanges.holds, hhyphen, hunderscore]

theorem isBlank_spaced (c : Char) : isBlank (spaced c) = gapRanges.holds c := by
  rw [Bool.eq_iff_iff, gapRanges_holds_iff]
  by_cases hc : c = '-' ∨ c = '_'
  · rw [spaced, if_pos (by simpa using hc)]
    exact ⟨fun _ => .inr hc, fun _ => by decide⟩
  · rw [spaced, if_neg (by simpa using hc)]
    exact ⟨.inl, fun h => h.resolve_right hc⟩

theorem spaced_eq_iff {c d : Char} (hd : gapRanges.holds d = false) : spaced c = d ↔ c = d := by
  constructor
  · rintro rfl
    by_cases hc : c = '-' ∨ c = '_'
    · rw [spaced, if_pos (by simpa using hc)] at hd
      exact absurd hd (by decide)
    · rw [spaced, if_neg (by simpa using hc)]
  · rintro rfl
    have hc : ¬(c = '-' ∨ c = '_') := by
      intro hc
      rw [gapRanges_holds_iff.mpr (.inr hc)] at hd
      cases hd
    rw [spaced, if_neg (by simpa using hc)]

theorem allBlank_spaced {s : List Char} (hs : AllGaps s) : AllBlank (s.map spaced) := by
  intro c hc
  obtain ⟨d, hd, rfl⟩ := List.mem_map.mp hc
  rw [isBlank_spaced]
  exact hs d hd

theorem plain_padded {p q : String} (hp : AllGaps p.toList) (hq : AllGaps q.toList) (s : String) :
    plain (p ++ s ++ q) = p.toList.map spaced ++ plain s ++ q.toList.map spaced := by
  rw [plain, lowercase_padded hp hq, String.toList_append, String.toList_append, List.map_append,
    List.map_append, plain]

theorem plain_padded_end {q : String} (hq : AllGaps q.toList) (s : String) :
    plain ("" ++ s ++ q) = plain s ++ q.toList.map spaced := by
  rw [plain_padded allGaps_empty hq, String.toList_empty, List.map_nil, List.nil_append]

end Gaps

section Article

variable {s after : List Char} {c : Char}

theorem not_gap_article (hc : c ∈ ['t', 'h', 'e']) : gapRanges.holds c = false := by
  obtain rfl | rfl | rfl : c = 't' ∨ c = 'h' ∨ c = 'e' := by simpa using hc
  all_goals decide

theorem not_blank_article : ∀ c ∈ ['t', 'h', 'e'], isBlank c = false := by
  intro c hc
  cases hblank : isBlank c with
  | false => rfl
  | true => rw [← not_gap_article hc, gapRanges_holds_iff.mpr (.inl hblank)]

theorem spaced_eq_article_iff {d : Char} (hd : d ∈ ['t', 'h', 'e']) : spaced c = d ↔ c = d :=
  spaced_eq_iff (not_gap_article hd)

theorem dropArticle_of_blank (hc : isBlank c = true) (rest : List Char) :
    dropArticle ('t' :: 'h' :: 'e' :: c :: rest) = c :: rest := if_pos hc

theorem dropArticle_of_not (h : ¬LeadsWithArticle s) : dropArticle s = s := by
  unfold dropArticle
  split
  · next c rest => exact if_neg fun hc => h ⟨c, rest, rfl, hc⟩
  · rfl

theorem not_leadsWithArticle_cons (hc : isBlank c = true) : ¬LeadsWithArticle (c :: s) := by
  rintro ⟨d, rest, h, -⟩
  obtain ⟨rfl, -⟩ := List.cons.inj h
  exact absurd hc (by decide)

/-- Blanks after a text make an article of the bare word only. -/
theorem leadsWithArticle_append (ha : AllBlank after) : LeadsWithArticle (s ++ after) ↔
    LeadsWithArticle s ∨ s = ['t', 'h', 'e'] ∧ after ≠ [] := by
  constructor
  · rintro ⟨c, rest, h, hc⟩
    have hwhole : s ++ after = ['t', 'h', 'e'] ++ c :: rest := h
    rcases List.append_eq_append_iff.mp hwhole with ⟨letters, hthe, hafter⟩ | ⟨more, hs, hrest⟩
    · -- The word goes on into the blanks only if nothing of it is left.
      have hnone : letters = [] := by
        rw [List.eq_nil_iff_forall_not_mem]
        intro d hd
        have hletter : d ∈ ['t', 'h', 'e'] := hthe ▸ List.mem_append_right s hd
        have hblank : isBlank d = true := ha d (hafter ▸ List.mem_append_left _ hd)
        rw [not_blank_article d hletter] at hblank
        cases hblank
      subst hnone
      rw [List.append_nil] at hthe
      exact .inr ⟨hthe.symm, by simp [hafter]⟩
    · cases more with
      | nil => exact .inr ⟨hs, List.ne_nil_of_mem (hrest ▸ List.mem_cons_self)⟩
      | cons d more =>
        obtain ⟨rfl, -⟩ := List.cons.inj hrest
        exact .inl ⟨c, more, hs, hc⟩
  · rintro (⟨c, rest, rfl, hc⟩ | ⟨rfl, hne⟩)
    · exact ⟨c, rest ++ after, rfl, hc⟩
    · obtain ⟨c, rest, rfl⟩ := List.exists_cons_of_ne_nil hne
      exact ⟨c, rest, rfl, ha c List.mem_cons_self⟩

theorem trim_append_blanks (ha : AllBlank after) (s : List Char) : trim (s ++ after) = trim s :=
  trim_append allBlank_nil s ha

theorem trim_dropArticle_append (ha : AllBlank after) (h : s = ['t', 'h', 'e'] → after = []) :
    trim (dropArticle (s ++ after)) = trim (dropArticle s) := by
  by_cases hs : LeadsWithArticle s
  · obtain ⟨c, rest, rfl, hc⟩ := hs
    have hlonger :
        't' :: 'h' :: 'e' :: c :: rest ++ after = 't' :: 'h' :: 'e' :: c :: (rest ++ after) :=
      rfl
    rw [hlonger, dropArticle_of_blank hc, dropArticle_of_blank hc]
    exact trim_append_blanks ha (c :: rest)
  · have hnot : ¬LeadsWithArticle (s ++ after) := by
      rw [leadsWithArticle_append ha]
      rintro (hleads | ⟨hthe, hne⟩)
      · exact hs hleads
      · exact hne (h hthe)
    rw [dropArticle_of_not hnot, dropArticle_of_not hs, trim_append_blanks ha]

/-- Trimming at both ends leaves no more than trimming at the end. -/
theorem length_trim_le (s : List Char) : (trim s).length ≤ (trimEnd s).length := by
  obtain ⟨before, -, hs⟩ := exists_eq_append_trimStart s
  cases hstart : trimStart s with
  | nil =>
    rw [trim, hstart]
    exact Nat.zero_le _
  | cons c t =>
    have hc := not_blank_of_trimStart_eq_cons hstart
    have hshort : trimEnd (c :: t) = c :: trimEnd t := trimEnd_append_cons hc [] t
    rw [hstart] at hs
    rw [trim, hstart, hs, trimEnd_append_cons hc, hshort, List.length_append]
    exact Nat.le_add_left _ _

/-- A text with an article is not the same without. -/
theorem trim_ne_trim_dropArticle (h : LeadsWithArticle s) : trim s ≠ trim (dropArticle s) := by
  obtain ⟨c, rest, rfl, hc⟩ := h
  have hkept : trim ('t' :: 'h' :: 'e' :: c :: rest) = 't' :: 'h' :: 'e' :: trimEnd (c :: rest) :=
    trim_append_cons (by decide : isBlank 'e' = false) ['t', 'h'] (c :: rest)
  rw [dropArticle_of_blank hc, hkept]
  intro heq
  have hlength := congrArg List.length heq
  have hle := length_trim_le (c :: rest)
  simp only [List.length_cons] at hlength
  omega

end Article

theorem hasArticle_iff (name : String) : HasArticle name ↔ LeadsWithArticle (plain name) := by
  rw [HasArticle, plain]
  generalize (lowercase name).toList = l
  match l with
  | [] | [_] | [_, _] | [_, _, _] => simp [LeadsWithArticle]
  | a :: b :: c :: d :: rest =>
    simp [LeadsWithArticle, spaced_eq_article_iff, isBlank_spaced, and_assoc]

/-- Padding leaves the article alone: none is put before one, and none after the bare word. -/
def SparesArticle (p s q : String) : Prop :=
  (p ≠ "" → ¬HasArticle s) ∧ (p = "" → q ≠ "" → lowercase s ≠ "the")

instance (p s q : String) : Decidable (SparesArticle p s q) := inferInstanceAs (Decidable (_ ∧ _))

theorem plain_eq_the_iff (name : String) :
    plain name = ['t', 'h', 'e'] ↔ lowercase name = "the" := by
  rw [plain, ← String.toList_inj]
  change _ ↔ _ = ['t', 'h', 'e']
  generalize (lowercase name).toList = l
  match l with
  | [] | [_] | [_, _] | _ :: _ :: _ :: _ :: _ => simp
  | [a, b, c] => simp [spaced_eq_article_iff]

section Padded

variable {p q : String} (hp : AllGaps p.toList) (hq : AllGaps q.toList) (s : String)

include hp hq

/-- Padding before a name keeps the article in it. -/
theorem normalize_padded_start (hne : p ≠ "") :
    normalize (p ++ s ++ q) = String.ofList (trim (plain s)) := by
  have hblank := allBlank_spaced hp
  have hnot : ¬LeadsWithArticle (p.toList.map spaced ++ (plain s ++ q.toList.map spaced)) := by
    obtain ⟨c, rest, hcons⟩ := List.exists_cons_of_ne_nil (String.toList_eq_nil_iff.not.mpr hne)
    rw [hcons, List.map_cons] at hblank ⊢
    exact not_leadsWithArticle_cons (hblank _ List.mem_cons_self)
  rw [normalize_eq, plain_padded hp hq, List.append_assoc, dropArticle_of_not hnot,
    ← List.append_assoc, trim_append hblank _ (allBlank_spaced hq)]

omit hp in
/-- Padding after a name is trimmed off, unless it makes an article of the word before it. -/
theorem normalize_padded_end (h : q ≠ "" → lowercase s ≠ "the") :
    normalize ("" ++ s ++ q) = normalize s := by
  have hthe : plain s = ['t', 'h', 'e'] → q.toList.map spaced = [] := by
    intro hplain
    by_contra hne
    exact h (by rintro rfl; exact hne rfl) ((plain_eq_the_iff s).mp hplain)
  rw [normalize_eq, plain_padded_end hq, trim_dropArticle_append (allBlank_spaced hq) hthe,
    normalize_eq]

omit hp in
/-- Padding after the bare word leaves nothing of it. -/
theorem normalize_padded_the (hne : q ≠ "") (h : lowercase s = "the") :
    normalize ("" ++ s ++ q) = "" := by
  have hblank := allBlank_spaced hq
  rw [normalize_eq, plain_padded_end hq, (plain_eq_the_iff s).mpr h]
  obtain ⟨c, rest, hcons⟩ := List.exists_cons_of_ne_nil (String.toList_eq_nil_iff.not.mpr hne)
  rw [hcons, List.map_cons] at hblank ⊢
  have hdropped : dropArticle (['t', 'h', 'e'] ++ spaced c :: rest.map spaced) =
      spaced c :: rest.map spaced := dropArticle_of_blank (hblank _ List.mem_cons_self) _
  rw [hdropped, trim_of_allBlank hblank]

theorem normalize_padded_eq_iff :
    normalize (p ++ s ++ q) = normalize s ↔ SparesArticle p s q := by
  by_cases hne : p = ""
  · subst hne
    constructor
    · intro heq
      refine ⟨fun h => absurd rfl h, fun _ hq' hthe => ?_⟩
      have hword : normalize s = "the" := by
        have hnot : ¬LeadsWithArticle ['t', 'h', 'e'] := by
          rintro ⟨c, rest, h, -⟩
          cases h
        rw [normalize_eq, (plain_eq_the_iff s).mpr hthe, dropArticle_of_not hnot,
          trim_of_not_blank not_blank_article]
      rw [normalize_padded_the hq s hq' hthe, hword] at heq
      exact absurd heq (by decide)
    · intro hspares
      exact normalize_padded_end hq s (hspares.2 rfl)
  · have hkept := normalize_padded_start hp hq s hne
    rw [hkept, normalize_eq, String.ofList_inj]
    constructor
    · intro heq
      refine ⟨fun _ harticle => ?_, fun h => absurd h hne⟩
      exact trim_ne_trim_dropArticle ((hasArticle_iff s).mp harticle) heq
    · intro hspares
      rw [dropArticle_of_not ((hasArticle_iff s).not.mp (hspares.1 hne))]

end Padded

namespace Atlas

variable {atlas : Atlas} {name name' : String}

theorem findTerritory?_congr (h : normalize name = normalize name') :
    atlas.findTerritory? name = atlas.findTerritory? name' := by
  rw [findTerritory?, findTerritory?, h]

theorem findSubregion?_congr {parent parent' : String} (hn : normalize name = normalize name')
    (hp : normalize parent = normalize parent') :
    atlas.findSubregion? name parent = atlas.findSubregion? name' parent' := by
  rw [findSubregion?, findSubregion?, hn, hp]

end Atlas

/-- Padding does not change a name, nor what any atlas finds by it, unless it touches an article. -/
theorem normalize_padded_iff {p q : String} (hp : AllGaps p.toList) (hq : AllGaps q.toList)
    (s : String) :
    (normalize (p ++ s ++ q) = normalize s ↔ SparesArticle p s q) ∧
    (SparesArticle p s q → ∀ (atlas : Atlas) (other : String),
      atlas.findTerritory? (p ++ s ++ q) = atlas.findTerritory? s ∧
      atlas.findSubregion? (p ++ s ++ q) other = atlas.findSubregion? s other ∧
      atlas.findSubregion? other (p ++ s ++ q) = atlas.findSubregion? other s) := by
  refine ⟨normalize_padded_eq_iff hp hq s, ?_⟩
  intro hspares atlas other
  have heq := (normalize_padded_eq_iff hp hq s).mpr hspares
  exact ⟨Atlas.findTerritory?_congr heq, Atlas.findSubregion?_congr heq rfl,
    Atlas.findSubregion?_congr rfl heq⟩

theorem normalize_padded_iff_rhodes :
    AllGaps "".toList ∧ AllGaps "_ -".toList ∧ AllGaps " ".toList ∧
    normalize ("" ++ "The ΡΟΔΟΣ" ++ "_ -") = normalize "The ΡΟΔΟΣ" ∧
    normalize (" " ++ "The ΡΟΔΟΣ" ++ "_ -") ≠ normalize "The ΡΟΔΟΣ" := by
  have hafter : AllGaps "_ -".toList := by decide +kernel
  have hbefore : AllGaps " ".toList := by decide +kernel
  have hspares : SparesArticle "" "The ΡΟΔΟΣ" "_ -" := by decide +kernel
  have htouches : ¬SparesArticle " " "The ΡΟΔΟΣ" "_ -" := by decide +kernel
  refine ⟨allGaps_empty, hafter, hbefore, ?_, ?_⟩
  · exact (normalize_padded_iff allGaps_empty hafter _).1.mpr hspares
  · exact fun heq => htouches ((normalize_padded_iff hbefore hafter _).1.mp heq)

/-- A name with a blank before its article is another name. -/
theorem normalize_not_padded : ¬∀ p s q : String, AllGaps p.toList → AllGaps q.toList →
    normalize (p ++ s ++ q) = normalize s := by
  intro h
  have heq := h "  " "The Gambia" "" (by decide +kernel) (by decide)
  revert heq
  decide +kernel

end ScriptedMap
