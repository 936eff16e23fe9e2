import ScriptedMap.Proofs.Text.Alphanumeric
import ScriptedMap.Proofs.Text.Blank

namespace ScriptedMap

theorem isBlank_toLower (c : Char) : isBlank c.toLower = isBlank c := by
  rcases toLower_eq_or_isAlphanumeric c with hsame | ⟨hc, hlower⟩
  · rw [hsame]
  · rw [not_blank_of_isAlphanumeric hc, not_blank_of_isAlphanumeric hlower]

theorem mem_asciiLower_iff {c : Char} (hc : separatorRanges.holds c = true) {s : List Char} :
    c ∈ asciiLower s ↔ c ∈ s := by
  have hnot := not_alphanumeric_of_separator hc
  have hsame (d : Char) : d.toLower = c ↔ d = c := by
    rcases toLower_eq_or_isAlphanumeric d with hsame | ⟨hd, hlower⟩
    · rw [hsame]
    · constructor
      · rintro rfl
        rw [hlower] at hnot
        cases hnot
      · rintro rfl
        rw [hd] at hnot
        cases hnot
  simp [asciiLower, hsame]

theorem trimStart_asciiLower (s : List Char) :
    trimStart (asciiLower s) = asciiLower (trimStart s) := by
  have hblank : isBlank ∘ Char.toLower = isBlank := funext isBlank_toLower
  rw [asciiLower, trimStart, List.dropWhile_map, hblank, asciiLower, trimStart]

theorem trim_asciiLower (s : List Char) : trim (asciiLower s) = asciiLower (trim s) := by
  have hreverse (t : List Char) : (asciiLower t).reverse = asciiLower t.reverse :=
    List.map_reverse.symm
  rw [trim, trimEnd, trimStart_asciiLower, hreverse, trimStart_asciiLower, hreverse, trim, trimEnd]

end ScriptedMap
