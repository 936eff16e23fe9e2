import ScriptedMap.Proofs.Text.Alphanumeric
import ScriptedMap.Text.Lowercase

namespace ScriptedMap

/-- The character is no capital. -/
def IsLowerCase (c : Char) : Prop :=
  c ≠ 'İ' ∧ capitalRuns.all (fun run => !run.holds c.toNat) = true

instance : DecidablePred IsLowerCase := fun _ => inferInstanceAs (Decidable (_ ∧ _))

namespace CapitalRun

/-- The greatest code of a lower-case form of the run. -/
def lowerLast (run : CapitalRun) : Nat := run.lowerFirst + (run.last - run.first)

/-- The lower-case forms of the run are characters, and none is the dotted capital I. -/
def staysInside (run : CapitalRun) : Bool :=
  (run.lowerLast < 0xD800 || 0xDFFF < run.lowerFirst && run.lowerLast < 0x110000) &&
    (run.lowerLast < 'İ'.toNat || 'İ'.toNat < run.lowerFirst)

/-- The lower-case forms of the run and the capitals of the other lie apart, or every second code is
the one and every second the other. -/
def isClearOf (run other : CapitalRun) : Bool :=
  -- `Nat.blt` and not `<`, for this is computed for every pair of runs
  Nat.blt other.last run.lowerFirst || Nat.blt run.lowerLast other.first ||
    ((run.first == run.last || run.stride == 2) && other.stride == 2 &&
      run.lowerFirst % 2 != other.first % 2)

theorem all_staysInside : capitalRuns.all staysInside = true := by decide +kernel

/-- Runs begin after the characters of ASCII, but for `A` to `Z`. -/
theorem all_beyond_ascii :
    capitalRuns.all (fun run => 0x80 ≤ run.first || run.first == 0x41 && run.last == 0x5A) =
      true := by
  decide +kernel

theorem all_isClearOf : (capitalRuns.all fun run => capitalRuns.all run.isClearOf) = true := by
  decide +kernel

theorem holds_iff {run : CapitalRun} {n : Nat} :
    run.holds n = true ↔
      run.first ≤ n ∧ n ≤ run.last ∧ (n - run.first) % run.stride = 0 := by
  simp [holds, and_assoc]

variable {run other : CapitalRun} {n : Nat}

theorem not_holds_of_isClearOf (h : run.isClearOf other = true) (hn : run.holds n = true) :
    other.holds (n - run.first + run.lowerFirst) = false := by
  rw [Bool.eq_false_iff]
  intro hother
  have hlast : run.lowerLast = run.lowerFirst + (run.last - run.first) := rfl
  simp only [isClearOf, Bool.or_eq_true, Bool.and_eq_true, Nat.blt_eq, beq_iff_eq,
    bne_iff_ne] at h
  obtain ⟨hlow, hhigh, hstride⟩ := holds_iff.mp hn
  obtain ⟨holow, hohigh, hostride⟩ := holds_iff.mp hother
  rcases h with (habove | hbelow) | ⟨⟨hstep, htwo⟩, hparity⟩
  · omega
  · omega
  · rw [htwo] at hostride
    rcases hstep with hone | htwo'
    · omega
    · rw [htwo'] at hstride
      omega

theorem toNat_lower (h : run.staysInside = true) (hn : run.holds n = true) :
    (Char.ofNat (n - run.first + run.lowerFirst)).toNat = n - run.first + run.lowerFirst ∧
      n - run.first + run.lowerFirst ≠ 'İ'.toNat := by
  have hlast : run.lowerLast = run.lowerFirst + (run.last - run.first) := rfl
  simp only [staysInside, Bool.and_eq_true, Bool.or_eq_true, decide_eq_true_eq] at h
  obtain ⟨hvalid, hdotted⟩ := h
  obtain ⟨hlow, hhigh, -⟩ := holds_iff.mp hn
  have hchar : (n - run.first + run.lowerFirst).isValidChar := by
    unfold Nat.isValidChar
    omega
  constructor
  · rw [Char.ofNat, dif_pos hchar]
    rfl
  · omega

end CapitalRun

/-- The characters `A` to `Z` are capitals like all others. -/
theorem lowerChar_eq (c : Char) :
    lowerChar c = if c = 'İ' then ['i', '\u0307'] else
      [match capitalRuns.find? (·.holds c.toNat) with
        | some run => Char.ofNat (c.toNat - run.first + run.lowerFirst)
        | none => c] := by
  by_cases hascii : c.toNat < 0x80
  · have hdotted : c ≠ 'İ' := by
      rintro rfl
      exact absurd hascii (by decide)
    rw [lowerChar, if_pos hascii, if_neg hdotted]
    by_cases hupper : 'A'.val ≤ c.val ∧ c.val ≤ 'Z'.val
    · have hlower := toNat_toLower hupper
      simp only [UInt32.le_iff_toNat_le] at hupper
      have hrange : 0x41 ≤ c.toNat ∧ c.toNat ≤ 0x5A := hupper
      have hholds : CapitalRun.holds ⟨0x41, 0x5A, 1, 0x61⟩ c.toNat = true :=
        CapitalRun.holds_iff.mpr ⟨hrange.1, hrange.2, Nat.mod_one _⟩
      have hfound : capitalRuns.find? (·.holds c.toNat) = some ⟨0x41, 0x5A, 1, 0x61⟩ :=
        List.find?_cons_of_pos hholds
      have hcode : c.toNat - 0x41 + 0x61 = c.toLower.toNat := by omega
      rw [hfound]
      dsimp only
      rw [hcode, Char.ofNat_toNat]
    · have hsame : c.toLower = c := dif_neg hupper
      have hnone : capitalRuns.find? (·.holds c.toNat) = none := by
        rw [List.find?_eq_none]
        intro run hrun hholds
        obtain ⟨hlow, hhigh, -⟩ := CapitalRun.holds_iff.mp hholds
        have hbeyond := List.all_eq_true.mp CapitalRun.all_beyond_ascii run hrun
        simp only [Bool.or_eq_true, Bool.and_eq_true, decide_eq_true_eq, beq_iff_eq] at hbeyond
        rcases hbeyond with hbeyond | ⟨hfirst, hlast⟩
        · omega
        · rw [hfirst] at hlow
          rw [hlast] at hhigh
          exact hupper (by simp only [UInt32.le_iff_toNat_le]; exact ⟨hlow, hhigh⟩)
      rw [hsame, hnone]
  · rw [lowerChar, if_neg hascii]
    split
    · rfl
    · split <;> simp [*]

theorem lowerChar_of_isLowerCase {c : Char} (hc : IsLowerCase c) : lowerChar c = [c] := by
  have hnone : capitalRuns.find? (·.holds c.toNat) = none := by
    rw [List.find?_eq_none]
    intro run hrun
    simpa using List.all_eq_true.mp hc.2 run hrun
  rw [lowerChar_eq, if_neg hc.1, hnone]

theorem isLowerCase_of_mem_lowerChar {c d : Char} (h : d ∈ lowerChar c) : IsLowerCase d := by
  rw [lowerChar_eq] at h
  split at h
  · have hboth : IsLowerCase 'i' ∧ IsLowerCase '\u0307' := by decide +kernel
    simp only [List.mem_cons, List.not_mem_nil, or_false] at h
    rcases h with rfl | rfl
    · exact hboth.1
    · exact hboth.2
  · next hdotted =>
    rw [List.mem_singleton] at h
    split at h
    · next run hrun =>
      have hmem := List.mem_of_find?_eq_some hrun
      have hholds : run.holds c.toNat = true := by
        simpa using List.find?_some hrun
      obtain ⟨hcode, hne⟩ :=
        CapitalRun.toNat_lower (List.all_eq_true.mp CapitalRun.all_staysInside run hmem) hholds
      rw [← h] at hcode
      have hclear := List.all_eq_true.mp CapitalRun.all_isClearOf run hmem
      constructor
      · rintro rfl
        exact hne hcode.symm
      · rw [List.all_eq_true]
        intro other hother
        rw [hcode,
          CapitalRun.not_holds_of_isClearOf (List.all_eq_true.mp hclear other hother) hholds]
        rfl
    · next hnone =>
      rw [List.find?_eq_none] at hnone
      rw [h]
      exact ⟨hdotted, List.all_eq_true.mpr (by simpa using hnone)⟩

theorem lowerChar_ne_nil (c : Char) : lowerChar c ≠ [] := by
  rw [lowerChar_eq]
  split <;> exact List.cons_ne_nil _ _

theorem ne_sigma_of_isLowerCase {c : Char} (hc : IsLowerCase c) : c ≠ 'Σ' := by
  rintro rfl
  exact absurd hc (by decide)

theorem isLowerCase_of_mem_lowerAfter {before s : List Char} {d : Char}
    (h : d ∈ lowerAfter before s) : IsLowerCase d := by
  have hsigmas : IsLowerCase 'ς' ∧ IsLowerCase 'σ' := by decide +kernel
  induction s generalizing before with
  | nil => cases h
  | cons c s ih =>
    rw [lowerAfter, List.mem_append] at h
    rcases h with h | h
    · split at h
      · rw [List.mem_singleton] at h
        rw [h]
        split
        · exact hsigmas.1
        · exact hsigmas.2
      · exact isLowerCase_of_mem_lowerChar h
    · exact ih h

theorem lowerAfter_of_isLowerCase {s : List Char} (hs : ∀ c ∈ s, IsLowerCase c)
    (before : List Char) : lowerAfter before s = s := by
  induction s generalizing before with
  | nil => rfl
  | cons c s ih =>
    have hc := hs c List.mem_cons_self
    rw [lowerAfter, if_neg (ne_sigma_of_isLowerCase hc), lowerChar_of_isLowerCase hc,
      ih fun d hd => hs d (List.mem_cons_of_mem c hd)]
    rfl

/-- A text in lower case is its own lower case. -/
theorem lowercase_lowercase (s : String) : lowercase (lowercase s) = lowercase s := by
  have hlower : ∀ c ∈ lowerAfter [] s.toList, IsLowerCase c :=
    fun _ => isLowerCase_of_mem_lowerAfter
  rw [lowercase, lowercase, String.toList_ofList, lowerAfter_of_isLowerCase hlower]

theorem lowercase_ne_empty {s : String} (h : s ≠ "") : lowercase s ≠ "" := by
  rw [lowercase, ne_eq, String.ofList_eq_empty_iff]
  cases hs : s.toList with
  | nil => exact absurd (String.toList_eq_nil_iff.mp hs) h
  | cons c t =>
    rw [lowerAfter]
    split
    · exact List.cons_ne_nil _ _
    · exact List.append_ne_nil_of_left_ne_nil (lowerChar_ne_nil c) _

/-- In a text of ASCII characters the letters `A` to `Z` alone change. -/
theorem lowercase_of_ascii {s : String} (hs : ∀ c ∈ s.toList, c.toNat < 0x80) :
    (lowercase s).toList = asciiLower s.toList := by
  have hgo (before t : List Char) (ht : ∀ c ∈ t, c.toNat < 0x80) :
      lowerAfter before t = asciiLower t := by
    induction t generalizing before with
    | nil => rfl
    | cons c t ih =>
      have hc := ht c List.mem_cons_self
      have hsigma : c ≠ 'Σ' := by
        rintro rfl
        exact absurd hc (by decide)
      rw [lowerAfter, if_neg hsigma, lowerChar, if_pos hc,
        ih _ fun d hd => ht d (List.mem_cons_of_mem c hd)]
      rfl
  rw [lowercase, String.toList_ofList, hgo [] s.toList hs]

/-- Texts of ASCII characters that are the same in lower case are the same but for the case of `A`
to `Z`. -/
theorem sameIgnoringCase_of_ascii {s t : String} (hs : ∀ c ∈ s.toList, c.toNat < 0x80)
    (ht : ∀ c ∈ t.toList, c.toNat < 0x80) (h : lowercase s = lowercase t) :
    sameIgnoringCase s t = true := by
  rw [sameIgnoringCase, beq_iff_eq, ← lowercase_of_ascii hs, ← lowercase_of_ascii ht, h]

end ScriptedMap
