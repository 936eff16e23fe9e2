import ScriptedMap.Proofs.Script.Accounting
import ScriptedMap.Proofs.Text.Blank

namespace ScriptedMap

/-- The lines of a text that a line feed closes, up to blanks and to an empty line at the end. -/
def ClosedLines (ls closed : List (List Char)) : Prop :=
  closed.map trim = ls.map trim ∨ closed.map trim = ls.map trim ++ [[]]

theorem ClosedLines.cons {ls closed : List (List Char)} (h : ClosedLines ls closed)
    (l : List Char) : ClosedLines (l :: ls) (l :: closed) := by
  rcases h with h | h
  · exact .inl (congrArg (trim l :: ·) h)
  · exact .inr (congrArg (trim l :: ·) h)

theorem trim_concat_return (l : List Char) : trim (l ++ ['\r']) = trim l := by
  have hreturn : AllBlank ['\r'] := by decide
  exact trim_append allBlank_nil l hreturn

/-- A line feed closes the last line of a text and nothing that comes after it reaches back. -/
theorem MadeOfLines.append_feed {a : List Char} {ls : List (List Char)} (h : MadeOfLines a ls)
    (b : List Char) :
    ∃ closed, lines (a ++ '\n' :: b) = closed ++ lines b ∧
      closed.length = a.count '\n' + 1 ∧ ClosedLines ls closed := by
  have hfeed : lines ('\n' :: b) = [] :: lines b := by rw [lines]
  induction h with
  | none => exact ⟨[[]], hfeed, rfl, .inr rfl⟩
  | @unended l hne hl =>
    have hcount : l.count '\n' = 0 := List.count_eq_zero.mpr hl
    by_cases hlast : l.getLast? = some '\r'
    · -- the carriage return now belongs to the end of the line
      obtain ⟨l', rfl⟩ := List.getLast?_eq_some_iff.mp hlast
      have hl' : '\n' ∉ l' := fun hmem => hl (List.mem_append_left _ hmem)
      have hreturn : lines ('\r' :: '\n' :: b) = [] :: lines b := by rw [lines]
      have hhead : l'.getLast? = some '\r' → ('\r' :: '\n' :: b).head? ≠ some '\n' := by
        intro _ hfirst
        cases hfirst
      refine ⟨[l'], ?_, by rw [hcount]; rfl, ?_⟩
      · rw [List.append_assoc]
        exact lines_append hl' hhead hreturn
      · exact .inl (congrArg (fun t => [t]) (trim_concat_return l').symm)
    · have hlines := lines_append hl (fun h => absurd h hlast) hfeed
      exact ⟨[l], hlines, by rw [hcount]; rfl, .inl rfl⟩
  | @feed l s ls hl hlast hs ih =>
    obtain ⟨closed, hlines, hlength, hclosed⟩ := ih
    have hwhole := (MadeOfLines.feed hl hlast (madeOfLines_lines (s ++ '\n' :: b))).eq_lines
    refine ⟨l :: closed, ?_, ?_, hclosed.cons l⟩
    · rw [List.append_assoc, List.cons_append, ← hwhole, hlines, List.cons_append]
    · simp [hlength, List.count_eq_zero.mpr hl]
  | @returnFeed l s ls hl hs ih =>
    obtain ⟨closed, hlines, hlength, hclosed⟩ := ih
    have hwhole := (MadeOfLines.returnFeed hl (madeOfLines_lines (s ++ '\n' :: b))).eq_lines
    refine ⟨l :: closed, ?_, ?_, hclosed.cons l⟩
    · rw [List.append_assoc, List.cons_append, List.cons_append, ← hwhole, hlines,
        List.cons_append]
    · simp [hlength, List.count_eq_zero.mpr hl]

namespace Command

theorem isIgnored_trim (line : List Char) : isIgnored (trim line) = isIgnored line := by
  rw [isIgnored, trim_trim, isIgnored]

theorem ofLine?_trim (line : List Char) : ofLine? (trim line) = ofLine? line := by
  rw [ofLine?, isIgnored_trim, trim_trim, ofLine?]

end Command

namespace Script

/-- One script after the other, whose lines are counted on from `n`. -/
def followedBy (first : Script) (n : Nat) (second : Script) : Script where
  entries := first.entries ++ second.entries.map fun e => ⟨e.line + n, e.command⟩
  rejectedLines := first.rejectedLines ++ second.rejectedLines.map (· + n)

section FollowedBy

variable (first : Script) (n : Nat) (second : Script)

@[simp] theorem commands_followedBy :
    (first.followedBy n second).commands = first.commands ++ second.commands := by
  simp [commands, followedBy]

@[simp] theorem sourceLines_followedBy :
    (first.followedBy n second).sourceLines =
      first.sourceLines ++ second.sourceLines.map (· + n) := by
  simp [sourceLines, followedBy]

@[simp] theorem rejectedLines_followedBy :
    (first.followedBy n second).rejectedLines =
      first.rejectedLines ++ second.rejectedLines.map (· + n) := rfl

theorem followedBy_empty : first.followedBy n empty = first := by
  simp [followedBy, empty]

end FollowedBy

theorem ofLines_append (ls ms : List (List Char)) :
    ofLines (ls ++ ms).zipIdx = (ofLines ls.zipIdx).followedBy ls.length (ofLines ms.zipIdx) := by
  have hnumbers : ms.zipIdx (0 + ls.length) =
      ms.zipIdx.map fun l => (l.1, l.2 + ls.length) := by
    rw [List.zipIdx_eq_map_add]
    simp [Nat.add_comm]
  rw [List.zipIdx_append, hnumbers]
  simp [ofLines, followedBy, List.filterMap_map, List.map_filterMap, List.filter_map,
    Function.comp_def]

theorem ofLines_map_trim (ls : List (List Char)) :
    ofLines (ls.map trim).zipIdx = ofLines ls.zipIdx := by
  simp [ofLines, List.zipIdx_map, List.filterMap_map, List.filter_map, Function.comp_def,
    Command.isIgnored_trim, Command.ofLine?_trim]

theorem ofLines_closed {ls closed : List (List Char)} (h : ClosedLines ls closed) :
    ofLines closed.zipIdx = ofLines ls.zipIdx := by
  rw [← ofLines_map_trim closed]
  rcases h with h | h
  · rw [h, ofLines_map_trim]
  · have hempty : ofLines [([] : List Char)].zipIdx = empty := rfl
    rw [h, ofLines_append, hempty, followedBy_empty, ofLines_map_trim]

theorem ofText_feed (a b : String) :
    ofText (a ++ "\n" ++ b) = (ofText a).followedBy (a.toList.count '\n' + 1) (ofText b) := by
  have htext : (a ++ "\n" ++ b).toList = a.toList ++ '\n' :: b.toList := by
    simp [String.toList_append]
  obtain ⟨closed, hlines, hlength, hclosed⟩ :=
    (madeOfLines_lines a.toList).append_feed b.toList
  rw [ofText, htext, hlines, ofLines_append, hlength, ofLines_closed hclosed]
  rfl

/-- The commands and the rejected lines of a text that follows another on a new line are those of
both, the second ones as many lines further down as the first text has. -/
theorem ofText_append_line (a b : String) :
    (ofText (a ++ "\n" ++ b)).commands = (ofText a).commands ++ (ofText b).commands ∧
    (ofText (a ++ "\n" ++ b)).sourceLines =
      (ofText a).sourceLines ++ (ofText b).sourceLines.map (· + (a.toList.count '\n' + 1)) ∧
    (ofText (a ++ "\n" ++ b)).rejectedLines =
      (ofText a).rejectedLines ++ (ofText b).rejectedLines.map (· + (a.toList.count '\n' + 1)) := by
  rw [ofText_feed]
  exact ⟨commands_followedBy _ _ _, sourceLines_followedBy _ _ _, rejectedLines_followedBy _ _ _⟩

end Script

end ScriptedMap
