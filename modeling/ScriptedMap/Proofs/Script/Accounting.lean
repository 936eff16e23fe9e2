import Mathlib.Data.List.Basic
import ScriptedMap.Proofs.Text.Lines
import ScriptedMap.Script.Basic

namespace ScriptedMap

namespace Command

theorem isIgnored_eq_false_iff (line : List Char) :
    isIgnored line = false ↔ trim line ≠ [] ∧ (trim line).head? ≠ some '#' := by
  unfold isIgnored
  split <;> simp [*]

theorem ofLine?_of_isIgnored {line : List Char} (h : isIgnored line = true) :
    ofLine? line = none := if_pos h

end Command

namespace Script

/-- The numbers of the lines for which `p` holds. -/
def numbersOf (p : List Char → Bool) (ls : List (List Char)) : List Nat :=
  (ls.zipIdx.filter fun l => p l.1).map (·.2)

theorem numbersOf_pairwise (p : List Char → Bool) (ls : List (List Char)) :
    (numbersOf p ls).Pairwise (· < ·) := by
  have hsub : (numbersOf p ls).Sublist (ls.zipIdx.map (·.2)) := List.filter_sublist.map _
  rw [List.zipIdx_map_snd] at hsub
  exact List.Pairwise.sublist hsub List.pairwise_lt_range'

theorem mem_numbersOf {p : List Char → Bool} {ls : List (List Char)} {i : Nat} :
    i ∈ numbersOf p ls ↔ ∃ l, ls[i]? = some l ∧ p l = true := by
  simp [numbersOf, List.mem_zipIdx_iff_getElem?]

theorem sourceLines_ofLines (ls : List (List Char)) :
    (ofLines ls.zipIdx).sourceLines = numbersOf (fun l => (Command.ofLine? l).isSome) ls := by
  simp only [sourceLines, ofLines, numbersOf]
  generalize ls.zipIdx = numbered
  induction numbered with
  | nil => rfl
  | cons l numbered ih =>
    cases hl : Command.ofLine? l.1 <;> simp [hl, ih]

theorem rejectedLines_ofLines (ls : List (List Char)) :
    (ofLines ls.zipIdx).rejectedLines =
      numbersOf (fun l => !Command.isIgnored l && (Command.ofLine? l).isNone) ls := rfl

theorem mem_sourceLines_ofLines {ls : List (List Char)} {i : Nat} :
    i ∈ (ofLines ls.zipIdx).sourceLines ↔
      ∃ l, ls[i]? = some l ∧ ∃ c, Command.ofLine? l = some c := by
  simp [sourceLines_ofLines, mem_numbersOf, Option.isSome_iff_exists]

theorem mem_rejectedLines_ofLines {ls : List (List Char)} {i : Nat} :
    i ∈ (ofLines ls.zipIdx).rejectedLines ↔
      ∃ l, ls[i]? = some l ∧ Command.isIgnored l = false ∧ Command.ofLine? l = none := by
  simp [rejectedLines_ofLines, mem_numbersOf]

theorem disjoint_ofLines (ls : List (List Char)) :
    (ofLines ls.zipIdx).sourceLines.Disjoint (ofLines ls.zipIdx).rejectedLines := by
  intro i hsource hrejected
  obtain ⟨l, hl, c, hc⟩ := mem_sourceLines_ofLines.mp hsource
  obtain ⟨l', hl', -, hnone⟩ := mem_rejectedLines_ofLines.mp hrejected
  rw [hl] at hl'
  cases hl'
  rw [hc] at hnone
  cases hnone

/-- A line that is not ignored gives a command or is rejected. -/
theorem mem_source_or_rejected_iff {ls : List (List Char)} {i : Nat} :
    i ∈ (ofLines ls.zipIdx).sourceLines ∨ i ∈ (ofLines ls.zipIdx).rejectedLines ↔
      ∃ l, ls[i]? = some l ∧ Command.isIgnored l = false := by
  rw [mem_sourceLines_ofLines, mem_rejectedLines_ofLines]
  constructor
  · rintro (⟨l, hl, c, hc⟩ | ⟨l, hl, hnot, -⟩)
    · refine ⟨l, hl, ?_⟩
      by_contra hignored
      rw [Command.ofLine?_of_isIgnored (eq_true_of_ne_false hignored)] at hc
      cases hc
    · exact ⟨l, hl, hnot⟩
  · rintro ⟨l, hl, hnot⟩
    cases hc : Command.ofLine? l with
    | none => exact .inr ⟨l, hl, hnot, hc⟩
    | some c => exact .inl ⟨l, hl, c, hc⟩

theorem ofLine?_source {ls : List (List Char)} {j i : Nat} {c : Command}
    (hi : (ofLines ls.zipIdx).sourceLines[j]? = some i)
    (hc : (ofLines ls.zipIdx).commands[j]? = some c) :
    ∃ l, ls[i]? = some l ∧ Command.ofLine? l = some c := by
  rw [sourceLines, List.getElem?_map] at hi
  rw [commands, List.getElem?_map] at hc
  obtain ⟨e, he, rfl⟩ := Option.map_eq_some_iff.mp hi
  rw [he] at hc
  cases hc
  obtain ⟨⟨l, i⟩, hmem, hl⟩ := List.mem_filterMap.mp (List.mem_of_getElem? he)
  obtain ⟨c, hc, rfl⟩ := Option.map_eq_some_iff.mp hl
  exact ⟨l, List.mem_zipIdx_iff_getElem?.mp hmem, hc⟩

/-- Each line of a text that is neither blank nor a comment gives one command or is rejected, and
the numbers of the lines are kept in order. -/
theorem lines_accounted (text : String) :
    let ls := lines text.toList
    let script := ofText text
    (∀ ls', MadeOfLines text.toList ls' ↔ ls' = ls) ∧
    script.sourceLines.Pairwise (· < ·) ∧ script.rejectedLines.Pairwise (· < ·) ∧
    script.sourceLines.Disjoint script.rejectedLines ∧
    (∀ i, i ∈ script.sourceLines ∨ i ∈ script.rejectedLines ↔
      ∃ l, ls[i]? = some l ∧ trim l ≠ [] ∧ (trim l).head? ≠ some '#') ∧
    script.commands.length = script.sourceLines.length ∧
    (∀ (j i : Nat) (c : Command), script.sourceLines[j]? = some i → script.commands[j]? = some c →
      ∃ l, ls[i]? = some l ∧ Command.ofLine? l = some c) ∧
    ∀ i ∈ script.rejectedLines, ∃ l, ls[i]? = some l ∧ Command.ofLine? l = none := by
  intro ls script
  refine ⟨fun _ => madeOfLines_iff, ?_, ?_, disjoint_ofLines ls, ?_, ?_, ?_, ?_⟩
  · change (ofLines ls.zipIdx).sourceLines.Pairwise (· < ·)
    rw [sourceLines_ofLines]
    exact numbersOf_pairwise _ _
  · change (ofLines ls.zipIdx).rejectedLines.Pairwise (· < ·)
    rw [rejectedLines_ofLines]
    exact numbersOf_pairwise _ _
  · intro i
    simp only [← Command.isIgnored_eq_false_iff]
    exact mem_source_or_rejected_iff
  · rw [commands, sourceLines, List.length_map, List.length_map]
  · intro j i c hi hc
    exact ofLine?_source hi hc
  · intro i hi
    obtain ⟨l, hl, -, hnone⟩ := mem_rejectedLines_ofLines.mp hi
    exact ⟨l, hl, hnone⟩

end Script

end ScriptedMap
