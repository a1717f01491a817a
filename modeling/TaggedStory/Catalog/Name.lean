import TaggedStory.Tag.Rule
import TaggedStory.Text.Word
/-!
Names of variables and the places of a text where they stand. A name loses the operator signs at its
ends; numbers and percentages are no names.
-/
set_option autoImplicit false

namespace TaggedStory.Catalog

open Text Tag

def normalize (name : List Char) : List Char :=
  let front := (trim name).dropWhile isBoundarySign
  trim (front.reverse.dropWhile isBoundarySign).reverse

/-- Digits with a fraction at most; a line feed at the very end does not count. -/
def isNumeric (name : List Char) : Bool :=
  match decimal.run (dropFinalFeed name) with
  | some (_, []) => true
  | _ => false

def isNumericOrPercentage (name : List Char) : Bool :=
  isNumeric name || name.contains '%'

def isAnyColon (c : Char) : Bool :=
  c == ':' || c == '：'

def startsWithColon (text : List Char) : Bool :=
  (text.head?.map isAnyColon).getD false

def isBarName (c : Char) : Bool :=
  c ≠ ':' && c ≠ '#' && c ≠ ']'

/-- The shortest name in front of blanks and a colon, with at least one character. -/
def nameToColon (before : List Char) : List Char → Option (List Char × List Char)
  | [] => none
  | c :: rest =>
    if !isBarName c then none
    else if startsWithColon (trimLeft rest) then
      some ((c :: before).reverse, (trimLeft rest).drop 1)
    else nameToColon (c :: before) rest

/-- Blanks alone are a name too, if a colon follows them and no other name fits. -/
def barBody : Scanner (List Char) := fun text =>
  let body := trimLeft text
  match nameToColon [] body with
  | some found => some found
  | none =>
    if body.length < text.length && startsWithColon body then some ([], body.drop 1) else none

def barName : Scanner (List Char) := do
  char '['
  Scanner.blanks
  Scanner.word "变量条"
  Scanner.blanks
  colon
  barBody

/-- A name and a value between a word and the end of the tag. -/
def limitOf (word : String) : Scanner (List Char × List Char) := do
  Scanner.word word
  colon
  let name ← Scanner.many1 fun c => !isAnyColon c
  colon
  let value ← upTo '>'
  return (name, value)

def maxLimit : Scanner (List Char × List Char) := limitOf "<最大默认值"
def minLimit : Scanner (List Char × List Char) := limitOf "<最小默认值"

def increment : Scanner (List Char) := do
  char '<'
  let name ← identifier
  Scanner.blanks
  let _ ← Scanner.one fun c => c == '+' || c == '-'
  Scanner.blanks
  let _ ← digits
  let _ ← Scanner.optional do
    char '/'
    Scanner.many1 isWord
  char '>'
  return name

def assignment : Scanner (List Char) := do
  char '<'
  let name ← identifier
  Scanner.blanks
  char '='
  let _ ← upTo '>'
  return name

def accumulated : Scanner (List Char) := do
  Scanner.word "<A"
  Scanner.blanks
  colon
  Scanner.blanks
  identifier

def identifiersOf (text : List Char) : List (List Char) :=
  (identifier.all text).map (·.value)

def isAdTag (token : List Char) : Bool :=
  match ad.run token with
  | some (_, []) => true
  | _ => false

/-- Names in guillemets; advertisement marks and titles hold none. -/
def guillemetNames (text : List Char) : List (List Char) :=
  (guillemet.all text).flatMap fun found =>
    if isAdTag found.token || !isLikelyCondition found.value then [] else identifiersOf found.value

def namesIn (scanner : Scanner (List Char)) (text : List Char) : List (List Char) :=
  (scanner.all text).flatMap fun found => identifiersOf found.value

def randomNames (text : List Char) : List (List Char) :=
  namesIn (valued "[随机") text

def braceNames (text : List Char) : List (List Char) :=
  namesIn brace text

end TaggedStory.Catalog
