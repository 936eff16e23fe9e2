import ScriptedMap.Proofs.Text.Alphanumeric
import ScriptedMap.Text.Lowercase

namespace ScriptedMap

/-- Blanks and the characters `-` and `_`. -/
def gapRanges : CodeRanges := blankRanges ++ [(0x2D, 0x2D), (0x5F, 0x5F)]

def AllGaps (s : List Char) : Prop := ∀ c ∈ s, gapRanges.holds c = true

instance : DecidablePred AllGaps := fun _ => decidable_of_iff _ List.all_eq_true

theorem allGaps_empty : AllGaps "".toList := by decide

theorem gaps_apart_cased : gapRanges.apart casedRanges = true := by decide +kernel

theorem gaps_apart_caseIgnorable : gapRanges.apart caseIgnorableRanges = true := by decide +kernel

theorem gaps_apart_alphanumeric : gapRanges.apart alphanumericRanges = true := by decide +kernel

theorem gaps_apart_capitals :
    gapRanges.apart (capitalRuns.map fun run => (run.first, run.last)) = true := by decide +kernel

section Gap

variable {c : Char} (hc : gapRanges.holds c = true)

include hc

theorem toLower_gap : c.toLower = c := by
  have hnot := CodeRanges.not_holds_of_apart gaps_apart_alphanumeric hc
  rcases toLower_eq_or_isAlphanumeric c with hsame | ⟨hletter, -⟩
  · exact hsame
  · rw [isAlphanumeric, hnot] at hletter
    cases hletter

theorem not_capital_gap : capitalRuns.find? (·.holds c.toNat) = none := by
  have hnot := CodeRanges.not_holds_of_apart gaps_apart_capitals hc
  rw [Bool.eq_false_iff, ne_eq, CodeRanges.holds_iff] at hnot
  rw [List.find?_eq_none]
  intro run hrun hholds
  rw [CapitalRun.holds, Bool.and_eq_true, Bool.and_eq_true, decide_eq_true_eq, decide_eq_true_eq]
    at hholds
  exact hnot ⟨_, List.mem_map_of_mem hrun, hholds.1⟩

theorem lowerChar_gap : lowerChar c = [c] := by
  have hdotted : c ≠ 'İ' := by
    rintro rfl
    exact absurd hc (by decide)
  rw [lowerChar, toLower_gap hc, if_neg hdotted, not_capital_gap hc, ite_self]

theorem gap_ne_sigma : c ≠ 'Σ' := by
  rintro rfl
  exact absurd hc (by decide)

end Gap

/-- Gaps after a text do not matter to what it meets first. -/
theorem meetsCased_append {gaps : List Char} (hgaps : AllGaps gaps) (s : List Char) :
    meetsCased (s ++ gaps) = meetsCased s := by
  have hnone : meetsCased gaps = false := by
    cases gaps with
    | nil => rfl
    | cons c gaps =>
      have hc := hgaps c List.mem_cons_self
      have hstays := CodeRanges.not_holds_of_apart gaps_apart_caseIgnorable hc
      have hcased := CodeRanges.not_holds_of_apart gaps_apart_cased hc
      rw [meetsCased, List.dropWhile_cons_of_neg (by simp [hstays])]
      exact hcased
  unfold meetsCased at hnone ⊢
  rw [List.dropWhile_append]
  cases hrest : s.dropWhile caseIgnorableRanges.holds with
  | nil => exact hnone
  | cons c rest => rfl

theorem lowerAfter_cons_gap {c : Char} (hc : gapRanges.holds c = true) (before s : List Char) :
    lowerAfter before (c :: s) = c :: lowerAfter (c :: before) s := by
  rw [lowerAfter, if_neg (gap_ne_sigma hc), lowerChar_gap hc]
  rfl

theorem lowerAfter_gaps_append {gaps : List Char} (hgaps : AllGaps gaps) (before s : List Char) :
    lowerAfter before (gaps ++ s) = gaps ++ lowerAfter (gaps.reverse ++ before) s := by
  induction gaps generalizing before with
  | nil => rfl
  | cons c gaps ih =>
    have hrest : AllGaps gaps := fun d hd => hgaps d (List.mem_cons_of_mem c hd)
    rw [List.cons_append, lowerAfter_cons_gap (hgaps c List.mem_cons_self), ih hrest,
      List.reverse_cons, List.append_assoc]
    rfl

/-- Gaps before everything that stands before a text do not matter to it. -/
theorem lowerAfter_append_gaps_before {gaps : List Char} (hgaps : AllGaps gaps)
    (before s : List Char) : lowerAfter (before ++ gaps) s = lowerAfter before s := by
  induction s generalizing before with
  | nil => rfl
  | cons c s ih =>
    have hrest : lowerAfter (c :: (before ++ gaps)) s = lowerAfter (c :: before) s :=
      ih (c :: before)
    rw [lowerAfter, lowerAfter, meetsCased_append hgaps, hrest]

theorem lowerAfter_append_gaps {gaps : List Char} (hgaps : AllGaps gaps) (before s : List Char) :
    lowerAfter before (s ++ gaps) = lowerAfter before s ++ gaps := by
  induction s generalizing before with
  | nil =>
    have hall := lowerAfter_gaps_append hgaps before []
    rw [List.append_nil] at hall
    rw [List.nil_append, hall]
    exact List.append_nil gaps
  | cons c s ih =>
    rw [List.cons_append, lowerAfter, lowerAfter, meetsCased_append hgaps, ih, List.append_assoc]

/-- A text with gaps around it in lower case is the text in lower case with the
same gaps around it. -/
theorem lowercase_padded {p q : String} (hp : AllGaps p.toList) (hq : AllGaps q.toList)
    (s : String) :
    lowercase (p ++ s ++ q) = p ++ lowercase s ++ q := by
  have hbefore : AllGaps p.toList.reverse := fun c hc => hp c (List.mem_reverse.mp hc)
  have halone := lowerAfter_append_gaps_before hbefore [] s.toList
  rw [List.nil_append] at halone
  apply String.toList_injective
  simp only [lowercase, String.toList_append, String.toList_ofList]
  rw [lowerAfter_append_gaps hq, lowerAfter_gaps_append hp, List.append_nil, halone]

end ScriptedMap
