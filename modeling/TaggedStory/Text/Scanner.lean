import TaggedStory.Text.Blank
/-!
Recognisers of text and the three ways to use one: at the start of a text, at the first place where
it succeeds, and at every place from left to right without overlap. A found token is the text that
the recogniser consumed.
-/
set_option autoImplicit false

namespace TaggedStory.Text

/-- Consumes the front of a text and gives a value, or refuses. -/
abbrev Scanner (α : Type) := StateT (List Char) Option α

structure Found (α : Type) where
  token : List Char
  value : α
deriving DecidableEq

def dropWord? : List Char → List Char → Option (List Char)
  | [], text => some text
  | _ :: _, [] => none
  | w :: word, c :: text => if w = c then dropWord? word text else none

/-- Removes the first occurrence of a word, if there is one. -/
def removeFirst (word : List Char) : List Char → List Char
  | [] => []
  | c :: text =>
    match dropWord? word (c :: text) with
    | some rest => rest
    | none => c :: removeFirst word text

def occurs (word : List Char) : List Char → Bool
  | [] => word.isEmpty
  | c :: text => (dropWord? word (c :: text)).isSome || occurs word text

def splitOn (separator : Char) : List Char → List (List Char)
  | [] => [[]]
  | c :: text =>
    if c = separator then [] :: splitOn separator text
    else
      match splitOn separator text with
      | [] => [[c]]
      | part :: parts => (c :: part) :: parts

namespace Scanner

variable {α : Type}

def word (expected : String) : Scanner Unit := fun text =>
  (dropWord? expected.toList text).map fun rest => ((), rest)

def one (accepts : Char → Bool) : Scanner Char
  | [] => none
  | c :: rest => if accepts c then some (c, rest) else none

def many (accepts : Char → Bool) : Scanner (List Char) := fun text =>
  some (text.takeWhile accepts, text.dropWhile accepts)

def many1 (accepts : Char → Bool) : Scanner (List Char)
  | [] => none
  | c :: rest =>
    if accepts c then some (c :: rest.takeWhile accepts, rest.dropWhile accepts) else none

def blanks : Scanner Unit := fun text => some ((), text.dropWhile isBlank)

/-- Tries the recogniser and goes on without it where it refuses. -/
def optional (s : Scanner α) : Scanner (Option α) := fun text =>
  match StateT.run s text with
  | some (value, rest) => some (some value, rest)
  | none => some (none, text)

def here? (s : Scanner α) (text : List Char) : Option (Found α) :=
  match StateT.run s text with
  | some (value, rest) => some ⟨text.take (text.length - rest.length), value⟩
  | none => none

def first? (s : Scanner α) : List Char → Option (Found α)
  | [] => none
  | c :: text =>
    match here? s (c :: text) with
    | some found => some found
    | none => first? s text

/-- `skip` counts the characters of the last token that are still ahead. -/
def allFrom (s : Scanner α) : Nat → List Char → List (Found α)
  | _, [] => []
  | skip + 1, _ :: text => allFrom s skip text
  | 0, c :: text =>
    match here? s (c :: text) with
    | some found => found :: allFrom s (found.token.length - 1) text
    | none => allFrom s 0 text

def all (s : Scanner α) (text : List Char) : List (Found α) :=
  allFrom s 0 text

def eraseFrom (s : Scanner α) : Nat → List Char → List Char
  | _, [] => []
  | skip + 1, _ :: text => eraseFrom s skip text
  | 0, c :: text =>
    match here? s (c :: text) with
    | some found => eraseFrom s (found.token.length - 1) text
    | none => c :: eraseFrom s 0 text

/-- Removes every token from left to right; what moves together is not looked at again. -/
def erase (s : Scanner α) (text : List Char) : List Char :=
  eraseFrom s 0 text

end Scanner

end TaggedStory.Text
