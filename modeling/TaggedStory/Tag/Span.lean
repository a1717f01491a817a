import TaggedStory.Text.Scanner
import TaggedStory.Text.Digit
/-!
The four families of tags: an opening sign, at least one character other than the closing sign, and
the closing sign. `clean` removes every tag of every family.
-/
set_option autoImplicit false

namespace TaggedStory.Tag

open Text

def colon : Scanner Unit := do
  let _ ← Scanner.one fun c => c == ':' || c == '：'

def char (expected : Char) : Scanner Unit := do
  let _ ← Scanner.one (· == expected)

/-- The text up to the closing sign, which is consumed too. -/
def upTo (closing : Char) : Scanner (List Char) := do
  let body ← Scanner.many1 (· ≠ closing)
  char closing
  return body

def span (opening closing : Char) : Scanner (List Char) := do
  char opening
  upTo closing

def bracket : Scanner (List Char) := span '[' ']'
def guillemet : Scanner (List Char) := span '《' '》'
def angle : Scanner (List Char) := span '<' '>'
def brace : Scanner (List Char) := span '\x7b' '\x7d'

/-- A tag of a bracket with a name, a colon and a value. -/
def valued (name : String) : Scanner (List Char) := do
  Scanner.word name
  colon
  upTo ']'

def digits : Scanner (List Char) := Scanner.many1 isDigit

/-- Digits, with a fraction at most. -/
def decimal : Scanner (List Char) := do
  let whole ← digits
  let part ← Scanner.optional do
    char '.'
    digits
  return match part with
    | some part => whole ++ '.' :: part
    | none => whole

/-- Every tag removed, one family after the other, and the blanks at both ends. -/
def clean (text : List Char) : List Char :=
  trim (brace.erase (angle.erase (guillemet.erase (bracket.erase text))))

def cleaned (text : String) : String :=
  String.ofList (clean text.toList)

/-- How many tags are left; braces do not count. -/
def count (text : List Char) : Nat :=
  (bracket.all text).length + (guillemet.all text).length + (angle.all text).length

end TaggedStory.Tag
