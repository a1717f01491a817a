import TaggedStory.Text.Scanner
/-!
Splitting a text at an operator. The name before it is as short as possible, has at least one
character and no line feed; the value after it reaches to the end of the text and stays on one line,
where a line feed at the very end does not count.
-/
set_option autoImplicit false

namespace TaggedStory.Tag

open Text

/-- The value that the rest of a text gives; it may be empty. -/
def valueOrNone? (text : List Char) : Option (List Char) :=
  let line := trimLeft (dropFinalFeed text)
  if line.contains '\n' then none else some (trimRight line)

/-- Like `valueOrNone?`, but at least a blank other than a line feed has to stand there. -/
def value? (text : List Char) : Option (List Char) :=
  let body := dropFinalFeed text
  if (trimLeft body).isEmpty then
    match body.getLast? with
    | some c => if c = '\n' then none else some []
    | none => none
  else valueOrNone? text

def nothing? (text : List Char) : Option (List Char) :=
  if text.isEmpty then some [] else none

structure Parts (α : Type) where
  name : List Char
  operator : α
  value : List Char

/-- The operator after blanks, and the value after the operator. -/
def operation? {α : Type} (operator : Scanner α) (value? : List Char → Option (List Char))
    (text : List Char) : Option (α × List Char) :=
  match StateT.run operator (trimLeft text) with
  | some (found, rest) => (value? rest).map fun value => (found, value)
  | none => none

/-- `before` holds the name so far, backwards. -/
def splitFrom {α : Type} (operator : Scanner α) (value? : List Char → Option (List Char))
    (before : List Char) : List Char → Option (Parts α)
  | [] => none
  | c :: rest =>
    if c = '\n' then none
    else
      match operation? operator value? rest with
      | some (found, value) => some ⟨trim (c :: before).reverse, found, value⟩
      | none => splitFrom operator value? (c :: before) rest

def split? {α : Type} (operator : Scanner α) (value? : List Char → Option (List Char))
    (text : List Char) : Option (Parts α) :=
  splitFrom operator value? [] text

end TaggedStory.Tag
