namespace ScriptedMap

/-- Closed ranges of code points, ascending and apart. The tables follow version 17 of Unicode. -/
abbrev CodeRanges := List (Nat × Nat)

/-- Some range holds the character. -/
def CodeRanges.holds (ranges : CodeRanges) (c : Char) : Bool :=
  ranges.any fun r => r.1 ≤ c.toNat && c.toNat ≤ r.2

end ScriptedMap
