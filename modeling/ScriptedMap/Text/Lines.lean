namespace ScriptedMap

/-- The lines of a text without their ends. A line ends at a line feed, together with one carriage
return right before it; the end of the last line may be left out. -/
def lines : List Char → List (List Char)
  | [] => []
  | '\n' :: s => [] :: lines s
  | '\r' :: '\n' :: s => [] :: lines s
  | c :: s =>
    match lines s with
    | [] => [[c]]
    | l :: ls => (c :: l) :: ls

end ScriptedMap
