import ScriptedMap.Text.Blank
import ScriptedMap.Text.Quoted

namespace ScriptedMap

/-- What stands between two commas of a line. It is bare unless it begins with a double quote after
its blanks. -/
inductive Field where
  | bare (text : List Char)
  | quoted (text : List Char)
deriving DecidableEq, Repr

/-- Why a list of fields cannot be read on. -/
inductive FieldError where
  | unclosedQuote
  /-- Something other than a comma follows a quoted field. -/
  | strayCharacter (c : Char)
deriving DecidableEq, Repr

def FieldError.message : FieldError → String
  | unclosedQuote => "no closing \" found"
  | strayCharacter c => s!"unexpected character {quoteChar c} after field"

namespace Field

/-- The text of a bare field. -/
def bare? : Field → Option (List Char)
  | bare text => some text
  | quoted _ => none

/-- The text of a quoted field. -/
def quoted? : Field → Option (List Char)
  | quoted text => some text
  | bare _ => none

/-- Where the reading of fields stands: before a field, in a bare or a quoted field read so far
(last character first), or after the closing quote of a field. -/
inductive Place where
  | before
  | inBare (read : List Char)
  | inQuoted (read : List Char)
  | closed (text : List Char)

/-- The bare field that has been read. -/
def ofRead (read : List Char) : Field := bare (read.dropWhile isBlank).reverse

/-- The fields of a text that is read on from a place in it, up to the first error. -/
def scan : Place → List Char → List (Except FieldError Field)
  | .before, [] => [.ok (bare [])]
  | .before, c :: s =>
    if isBlank c then scan .before s
    else if c = '"' then scan (.inQuoted []) s
    else if c = ',' then .ok (bare []) :: scan .before s
    else scan (.inBare [c]) s
  | .inBare read, [] => [.ok (ofRead read)]
  | .inBare read, c :: s =>
    if c = ',' then .ok (ofRead read) :: scan .before s else scan (.inBare (c :: read)) s
  | .inQuoted _, [] => [.error .unclosedQuote]
  | .inQuoted read, c :: s =>
    if c = '"' then scan (.closed read.reverse) s else scan (.inQuoted (c :: read)) s
  | .closed text, [] => [.ok (quoted text)]
  | .closed text, c :: s =>
    if isBlank c then scan (.closed text) s
    else if c = ',' then .ok (quoted text) :: scan .before s
    else [.error (.strayCharacter c)]

/-- The fields of a text in order, and last the error that ends them, if there is one. -/
def items (s : List Char) : List (Except FieldError Field) := scan .before s

/-- All fields of a text. -/
def list (s : List Char) : Except FieldError (List Field) := (items s).mapM id

end Field

end ScriptedMap
