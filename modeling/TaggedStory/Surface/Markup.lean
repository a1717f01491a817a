import TaggedStory.Fault
import TaggedStory.Text.Lower
import TaggedStory.Text.Scanner
/-!
Markup of printed lines. A bracket that begins with a small letter or one of `#`, `/` and `@` opens
or closes a style and is not shown. A backslash in front of a bracket makes it plain text, and two
of them stand for one.
-/
set_option autoImplicit false

namespace TaggedStory.Markup

open Text

/-- A bracket and the number of backslashes in front of it. -/
structure Mark where
  slashes : Nat
  body : List Char

def beginsMark (c : Char) : Bool :=
  c.isLower || c == '#' || c == '/' || c == '@'

def mark : Scanner Mark := do
  let slashes ← Scanner.many (· == '\\')
  let _ ← Scanner.one (· == '[')
  let first ← Scanner.one beginsMark
  let rest ← Scanner.many fun c => c ≠ '[' && c ≠ ']'
  let _ ← Scanner.one (· == ']')
  return ⟨slashes.length, first :: rest⟩

def shortNames : List (String × String) := [
  ("d", "dim"), ("b", "bold"), ("i", "italic"), ("u", "underline"), ("r", "reverse"),
  ("c", "conceal"), ("s", "strike"), ("uu", "underline2"), ("o", "overline")]

/-- Styles are told apart by their full names in small letters. -/
def styleName (name : List Char) : String :=
  let word := lower (String.ofList (trim name))
  ((shortNames.find? fun entry => entry.1 = word).map (·.2)).getD word

/-- What is shown so far, backwards, and the open styles, the innermost first. -/
structure State where
  shown : List Char := []
  styles : List String := []

def State.put (state : State) (text : List Char) : State :=
  { state with shown := text.reverse ++ state.shown }

/-- Closes the innermost style, or the innermost one of a name. -/
def State.close (state : State) (name : List Char) : Attempt State :=
  if (trim name).isEmpty then
    match state.styles with
    | _ :: outer => .ok { state with styles := outer }
    | [] => .error .unmatchedMark
  else if state.styles.contains (styleName name) then
    .ok { state with styles := state.styles.erase (styleName name) }
  else .error .unmatchedMark

/-- The name of a style ends at an equals sign. -/
def State.turn (state : State) (body : List Char) : Attempt State :=
  match body.takeWhile (· ≠ '=') with
  | '/' :: name => state.close name
  | name => .ok { state with styles := styleName name :: state.styles }

def State.enter (state : State) (mark : Mark) : Attempt State :=
  let state := state.put (List.replicate (mark.slashes / 2) '\\')
  if mark.slashes % 2 = 1 then .ok (state.put ('[' :: mark.body ++ [']']))
  else state.turn mark.body

/-- A backslash in front of a bracket that is no mark is dropped. -/
def State.plain (state : State) (c : Char) (rest : List Char) : State :=
  if c = '\\' ∧ rest.head? = some '[' then state else state.put [c]

/-- `skip` counts the characters of the last mark that are still ahead. -/
def readFrom (skip : Nat) (state : State) : List Char → Attempt State
  | [] => .ok state
  | c :: rest =>
    match skip with
    | skip + 1 => readFrom skip state rest
    | 0 =>
      match mark.here? (c :: rest) with
      | some found => do
        let state ← state.enter found.value
        readFrom (found.token.length - 1) state rest
      | none => readFrom 0 (state.plain c rest) rest

/-- Controls that move the print head are not shown. -/
def isSilent (c : Char) : Bool :=
  let n := c.toNat
  n == 7 || n == 8 || n == 11 || n == 12 || n == 13

/-- The text as it is shown, without its marks. -/
def shown (text : String) : Attempt String :=
  (readFrom 0 {} text.toList).map fun state =>
    String.ofList (state.shown.reverse.filter fun c => !isSilent c)

end TaggedStory.Markup
