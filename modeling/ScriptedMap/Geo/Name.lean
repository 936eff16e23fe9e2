import ScriptedMap.Text.Blank
import ScriptedMap.Text.Lowercase

namespace ScriptedMap

/-- Hyphens and underscores count as spaces. -/
def spaced (c : Char) : Char := if c = '-' || c = '_' then ' ' else c

/-- Leaves out `the` where the text begins with it and a blank follows. -/
def dropArticle : List Char → List Char
  | 't' :: 'h' :: 'e' :: c :: s => if isBlank c then c :: s else 't' :: 'h' :: 'e' :: c :: s
  | s => s

/-- The name under which a territory is looked up: in lower case, with blanks for hyphens and
underscores, without a leading article, and trimmed. -/
def normalize (name : String) : String :=
  String.ofList (trim (dropArticle ((lowercase name).toList.map spaced)))

/-- The first text is a beginning of the second. -/
def begins (part whole : String) : Bool := part.toList.isPrefixOf whole.toList

/-- The characters stand somewhere in the text, one after the other. -/
def occurs (part : List Char) : List Char → Bool
  | [] => part.isEmpty
  | c :: s => part.isPrefixOf (c :: s) || occurs part s

/-- The first text stands somewhere in the second. -/
def isWithin (part whole : String) : Bool := occurs part.toList whole.toList

end ScriptedMap
