import TaggedStory.Tag.Span
/-!
Advertisement marks. The number in a mark chooses the type of advertisement; a mark without a
number, or with one that is not known, asks for a rewarded one.
-/
set_option autoImplicit false

namespace TaggedStory.Tag

open Text

structure AdMark where
  isRequired : Bool := false
  adType : String := ""
deriving DecidableEq, Repr

def adTypes : List (String × String) :=
  [("15", "fullscreen"), ("30", "rewarded"), ("3", "splash")]

def adNumber : Scanner (List Char) := do
  let _ ← Scanner.optional colon
  let number ← digits
  if number.length ≤ 3 then return number else failure

/-- The value is the number in the mark, or nothing. -/
def ad : Scanner (List Char) := do
  Scanner.word "《AD"
  let number ← Scanner.optional adNumber
  char '》'
  return number.getD []

def adTypeFor (number : List Char) : String :=
  ((adTypes.find? fun entry => entry.1.toList = number).map (·.2)).getD "rewarded"

def adNumberFor? (adType : String) : Option String :=
  (adTypes.find? fun entry => entry.2 = adType).map (·.1)

/-- The text without its first mark, and what the mark says. -/
def takeAd (text : List Char) : List Char × AdMark :=
  match ad.first? text with
  | some mark => (trim (removeFirst mark.token text), ⟨true, adTypeFor mark.value⟩)
  | none => (text, {})

def adMarkText (isRequired : Bool) (adType : String) (isRewarded : Bool) : String :=
  if !isRequired then ""
  else
    match adNumberFor? adType with
    | some number => "《AD:" ++ number ++ "》"
    | none => if isRewarded then "《AD:30》" else "《AD》"

end TaggedStory.Tag
