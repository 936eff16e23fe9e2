namespace ScriptedMap

/-- Lower-cases `A` to `Z` and nothing else. Keywords and option words are compared so. -/
def asciiLower (s : List Char) : List Char := s.map Char.toLower

/-- The two texts are the same but for the case of `A` to `Z`. -/
def sameIgnoringCase (s t : String) : Bool := asciiLower s.toList == asciiLower t.toList

end ScriptedMap
