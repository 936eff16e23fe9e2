import ScriptedMap.Text.Lines

namespace ScriptedMap

/-- The text is made of the lines. A carriage return right before a line feed belongs to the end of
the line. -/
inductive MadeOfLines : List Char → List (List Char) → Prop
  | none : MadeOfLines [] []
  | unended {l : List Char} (hne : l ≠ []) (hl : '\n' ∉ l) : MadeOfLines l [l]
  | feed {l s : List Char} {ls : List (List Char)} (hl : '\n' ∉ l) (hlast : l.getLast? ≠ some '\r')
      (hs : MadeOfLines s ls) : MadeOfLines (l ++ '\n' :: s) (l :: ls)
  | returnFeed {l s : List Char} {ls : List (List Char)} (hl : '\n' ∉ l) (hs : MadeOfLines s ls) :
      MadeOfLines (l ++ '\r' :: '\n' :: s) (l :: ls)

theorem lines_cons {c : Char} {s l : List Char} {ls : List (List Char)} (hc : c ≠ '\n')
    (hr : c = '\r' → s.head? ≠ some '\n') (hs : lines s = l :: ls) :
    lines (c :: s) = (c :: l) :: ls := by
  rw [lines, hs]
  · exact hc
  · rintro t rfl rfl
    exact hr rfl rfl

theorem lines_singleton {c : Char} (hc : c ≠ '\n') : lines [c] = [[c]] := by
  rw [lines]
  · rfl
  · exact hc
  · intro t hr ht
    cases ht

/-- A text is read on from a place where a line ends. -/
theorem lines_append {l s : List Char} {ls : List (List Char)} (hl : '\n' ∉ l)
    (hlast : l.getLast? = some '\r' → s.head? ≠ some '\n') (hs : lines s = [] :: ls) :
    lines (l ++ s) = l :: ls := by
  induction l with
  | nil => exact hs
  | cons c l ih =>
    have hc : c ≠ '\n' := fun h => hl (h ▸ List.mem_cons_self)
    have hl' : '\n' ∉ l := fun h => hl (List.mem_cons_of_mem c h)
    have hlast' : l.getLast? = some '\r' → s.head? ≠ some '\n' := by
      intro h
      apply hlast
      rw [List.getLast?_cons, h]
      rfl
    apply lines_cons hc _ (ih hl' hlast')
    -- a carriage return ends a line only if the line feed comes right after it
    intro hr
    cases l with
    | nil => exact hlast (congrArg some hr)
    | cons d l =>
      intro h
      exact hl' (Option.some.inj h ▸ List.mem_cons_self)

theorem lines_unended {l : List Char} (hne : l ≠ []) (hl : '\n' ∉ l) : lines l = [l] := by
  induction l with
  | nil => exact absurd rfl hne
  | cons c l ih =>
    have hc : c ≠ '\n' := fun h => hl (h ▸ List.mem_cons_self)
    have hl' : '\n' ∉ l := fun h => hl (List.mem_cons_of_mem c h)
    cases l with
    | nil => exact lines_singleton hc
    | cons d l =>
      apply lines_cons hc _ (ih (List.cons_ne_nil d l) hl')
      intro hr h
      exact hl' (Option.some.inj h ▸ List.mem_cons_self)

theorem MadeOfLines.eq_lines {s : List Char} {ls : List (List Char)} (h : MadeOfLines s ls) :
    ls = lines s := by
  induction h with
  | none => rfl
  | unended hne hl => exact (lines_unended hne hl).symm
  | @feed l s ls hl hlast hs ih =>
    have hfeed : lines ('\n' :: s) = [] :: ls := by rw [lines, ih]
    exact (lines_append hl (fun h => absurd h hlast) hfeed).symm
  | @returnFeed l s ls hl hs ih =>
    have hfeed : lines ('\r' :: '\n' :: s) = [] :: ls := by rw [lines, ih]
    have hhead : l.getLast? = some '\r' → ('\r' :: '\n' :: s).head? ≠ some '\n' := by
      intro _ h
      cases h
    exact (lines_append hl hhead hfeed).symm

theorem MadeOfLines.cons {c : Char} {s l : List Char} {ls : List (List Char)} (hc : c ≠ '\n')
    (hr : ∀ t, c = '\r' → s ≠ '\n' :: t) (h : MadeOfLines s (l :: ls)) :
    MadeOfLines (c :: s) ((c :: l) :: ls) := by
  have hnot (hl : '\n' ∉ l) : '\n' ∉ c :: l := by
    simp [hl, Ne.symm hc]
  cases h with
  | unended hne hl => exact .unended (List.cons_ne_nil _ _) (hnot hl)
  | @feed _ s _ hl hlast hs =>
    refine .feed (hnot hl) ?_ hs
    cases l with
    | nil =>
      intro h
      exact hr s (Option.some.inj h) rfl
    | cons d l => exact hlast
  | returnFeed hl hs => exact .returnFeed (hnot hl) hs

theorem madeOfLines_lines (s : List Char) : MadeOfLines s (lines s) := by
  fun_induction lines s with
  | case1 => exact .none
  | case2 s ih => exact .feed List.not_mem_nil (fun h => by cases h) ih
  | case3 s ih => exact .returnFeed List.not_mem_nil ih
  | case4 c s hc hr hs ih =>
    rw [hs] at ih
    cases ih
    have hnot : '\n' ∉ [c] := by
      simp [Ne.symm hc]
    exact .unended (List.cons_ne_nil _ _) hnot
  | case5 c s hc hr l ls hs ih =>
    rw [hs] at ih
    exact ih.cons hc fun t h => hr t h

theorem madeOfLines_iff {s : List Char} {ls : List (List Char)} :
    MadeOfLines s ls ↔ ls = lines s := by
  constructor
  · exact MadeOfLines.eq_lines
  · rintro rfl
    exact madeOfLines_lines s

end ScriptedMap
