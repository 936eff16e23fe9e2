import ScriptedMap.Text.Alphanumeric
import ScriptedMap.Text.Ascii
import ScriptedMap.Text.Blank

namespace ScriptedMap

/-- No range of the one table meets a range of the other. -/
def CodeRanges.apart (ranges others : CodeRanges) : Bool :=
  ranges.all fun r => others.all fun o => r.2 < o.1 || o.2 < r.1

theorem CodeRanges.holds_iff {ranges : CodeRanges} {c : Char} :
    ranges.holds c = true ↔ ∃ r ∈ ranges, r.1 ≤ c.toNat ∧ c.toNat ≤ r.2 := by
  simp [CodeRanges.holds]

theorem CodeRanges.not_holds_of_apart {ranges others : CodeRanges}
    (h : ranges.apart others = true) {c : Char} (hc : ranges.holds c = true) :
    others.holds c = false := by
  obtain ⟨r, hr, hlow, hhigh⟩ := holds_iff.mp hc
  rw [Bool.eq_false_iff]
  intro hother
  obtain ⟨o, ho, holow, hohigh⟩ := holds_iff.mp hother
  have hpair := List.all_eq_true.mp (List.all_eq_true.mp h r hr) o ho
  simp only [Bool.or_eq_true, decide_eq_true_eq] at hpair
  omega

/-- Blanks and the characters `"`, `#`, `,` and `:`. -/
def separatorRanges : CodeRanges := blankRanges ++ [(0x22, 0x23), (0x2C, 0x2C), (0x3A, 0x3A)]

theorem separators_apart : separatorRanges.apart alphanumericRanges = true := by decide +kernel

theorem not_alphanumeric_of_separator {c : Char} (h : separatorRanges.holds c = true) :
    isAlphanumeric c = false := CodeRanges.not_holds_of_apart separators_apart h

theorem not_blank_of_isAlphanumeric {c : Char} (h : isAlphanumeric c = true) :
    isBlank c = false := by
  rw [Bool.eq_false_iff]
  intro hblank
  have hseparator : separatorRanges.holds c = true := by
    rw [CodeRanges.holds, separatorRanges, List.any_append, Bool.or_eq_true]
    exact .inl hblank
  rw [not_alphanumeric_of_separator hseparator] at h
  cases h

theorem isAlphanumeric_of_isDigit {c : Char} (h : c.isDigit = true) : isAlphanumeric c = true := by
  simp only [Char.isDigit, Bool.and_eq_true, decide_eq_true_eq, UInt32.le_iff_toNat_le] at h
  exact CodeRanges.holds_iff.mpr ⟨(0x30, 0x39), List.mem_cons_self, h⟩

theorem toNat_toLower {c : Char} (h : 'A'.val ≤ c.val ∧ c.val ≤ 'Z'.val) :
    c.toLower.toNat = c.toNat + 32 := by
  have hlower : c.toLower.val = c.val + ('a'.val - 'A'.val) := congrArg Char.val (dif_pos h)
  simp only [UInt32.le_iff_toNat_le] at h
  have hhigh : c.val.toNat ≤ 90 := h.2
  change c.toLower.val.toNat = c.val.toNat + 32
  rw [hlower, UInt32.toNat_add]
  change (c.val.toNat + 32) % 2 ^ 32 = c.val.toNat + 32
  omega

/-- Folding the case changes letters only, and makes letters of them. -/
theorem toLower_eq_or_isAlphanumeric (c : Char) :
    c.toLower = c ∨ isAlphanumeric c = true ∧ isAlphanumeric c.toLower = true := by
  by_cases hupper : 'A'.val ≤ c.val ∧ c.val ≤ 'Z'.val
  · have hlower := toNat_toLower hupper
    simp only [UInt32.le_iff_toNat_le] at hupper
    have hrange : 0x41 ≤ c.toNat ∧ c.toNat ≤ 0x5A := hupper
    have hmem : (0x41, 0x5A) ∈ alphanumericRanges := List.mem_cons_of_mem _ List.mem_cons_self
    have hmem' : (0x61, 0x7A) ∈ alphanumericRanges :=
      List.mem_cons_of_mem _ (List.mem_cons_of_mem _ List.mem_cons_self)
    have hrange' : 0x61 ≤ c.toLower.toNat ∧ c.toLower.toNat ≤ 0x7A := by omega
    exact .inr ⟨CodeRanges.holds_iff.mpr ⟨_, hmem, hrange⟩,
      CodeRanges.holds_iff.mpr ⟨_, hmem', hrange'⟩⟩
  · exact .inl (dif_neg hupper)

theorem isAlphanumeric_of_toLower {c : Char} (h : isAlphanumeric c.toLower = true) :
    isAlphanumeric c = true := by
  rcases toLower_eq_or_isAlphanumeric c with hsame | ⟨hc, -⟩
  · rwa [hsame] at h
  · exact hc

/-- A text in other letter case than a word of letters and numerals is made of these too. -/
theorem isAlphanumeric_of_asciiLower {word text : List Char} (h : asciiLower text = word)
    (hword : ∀ c ∈ word, isAlphanumeric c = true) : ∀ c ∈ text, isAlphanumeric c = true := by
  intro c hc
  have hmem : c.toLower ∈ word := h ▸ List.mem_map_of_mem hc
  exact isAlphanumeric_of_toLower (hword _ hmem)

end ScriptedMap
