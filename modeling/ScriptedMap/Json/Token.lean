import ScriptedMap.Json.Basic

namespace ScriptedMap.Json

/-- A word is a run of characters up to a blank, a punctuation mark or a quote. A quoted text whose
escapes name half of a surrogate pair has no characters. -/
inductive Token where
  | openArray
  | closeArray
  | openObject
  | closeObject
  | colon
  | comma
  | text (s : Option String)
  | word (w : List Char)
deriving DecidableEq, Repr

namespace Token

def isSpace (c : Char) : Bool := c = ' ' || c = '\t' || c = '\n' || c = '\r'

def punctuation? : Char → Option Token
  | '[' => some openArray
  | ']' => some closeArray
  | '{' => some openObject
  | '}' => some closeObject
  | ':' => some colon
  | ',' => some comma
  | _ => none

/-- A word ends before this character. -/
def delimits (c : Char) : Bool := isSpace c || (punctuation? c).isSome || c = '"'

/-- The characters that code units stand for: each by itself, and a pair of surrogates together. -/
def decode? : List Nat → Option (List Char)
  | [] => some []
  | [a] => if 0xD800 ≤ a ∧ a < 0xE000 then none else some [Char.ofNat a]
  | a :: b :: s =>
    if 0xD800 ≤ a ∧ a < 0xDC00 then
      if 0xDC00 ≤ b ∧ b < 0xE000 then
        (decode? s).map (Char.ofNat (0x10000 + (a - 0xD800) * 0x400 + (b - 0xDC00)) :: ·)
      else none
    else if 0xDC00 ≤ a ∧ a < 0xE000 then none
    else (decode? (b :: s)).map (Char.ofNat a :: ·)

def ofCodes (codes : List Nat) : Token := text ((decode? codes).map String.ofList)

/-- The code unit of an escape of one letter. -/
def unescape? : Char → Option Nat
  | '"' => some 0x22
  | '\\' => some 0x5C
  | '/' => some 0x2F
  | 'b' => some 0x08
  | 'f' => some 0x0C
  | 'n' => some 0x0A
  | 'r' => some 0x0D
  | 't' => some 0x09
  | _ => none

def hexDigit? (c : Char) : Option Nat :=
  if c.isDigit then some (c.toNat - '0'.toNat)
  else if 'a' ≤ c ∧ c ≤ 'f' then some (c.toNat - 'a'.toNat + 10)
  else if 'A' ≤ c ∧ c ≤ 'F' then some (c.toNat - 'A'.toNat + 10)
  else none

/-- Where the reading of a text stands: between tokens, in a word or a quoted text read so far (last
character first), after a backslash, or in the digits of a numeric escape. -/
inductive Place where
  | between
  | word (read : List Char)
  | text (codes : List Nat)
  | escape (codes : List Nat)
  | digits (codes : List Nat) (missing value : Nat)

/-- The token that a character outside of words and texts is, and where it leads. -/
def start (c : Char) : List Token × Place :=
  if isSpace c then ([], .between)
  else match punctuation? c with
    | some t => ([t], .between)
    | none => if c = '"' then ([], .text []) else ([], .word [c])

/-- The tokens of a text that is read on from a place in it. -/
def scan? : Place → List Char → Option (List Token)
  | .between, [] => some []
  | .between, c :: s => (scan? (start c).2 s).map ((start c).1 ++ ·)
  | .word read, [] => some [.word read.reverse]
  | .word read, c :: s =>
    if delimits c then (scan? (start c).2 s).map (.word read.reverse :: (start c).1 ++ ·)
    else scan? (.word (c :: read)) s
  | .text _, [] => none
  | .text codes, c :: s =>
    if c = '"' then (scan? .between s).map (ofCodes codes.reverse :: ·)
    else if c = '\\' then scan? (.escape codes) s
    else if c < ' ' then none
    else scan? (.text (c.toNat :: codes)) s
  | .escape _, [] => none
  | .escape codes, c :: s =>
    if c = 'u' then scan? (.digits codes 4 0) s
    else match unescape? c with
      | some n => scan? (.text (n :: codes)) s
      | none => none
  | .digits .., [] => none
  | .digits codes missing value, c :: s =>
    match hexDigit? c with
    | none => none
    | some d =>
      if missing ≤ 1 then scan? (.text ((16 * value + d) :: codes)) s
      else scan? (.digits codes (missing - 1) (16 * value + d)) s

/-- The tokens of a whole text. -/
def ofText? (s : List Char) : Option (List Token) := scan? .between s

end Token

end ScriptedMap.Json
