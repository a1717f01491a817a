import TaggedStory.Surface.Arguments
/-!
The arguments of the command that converts a document: the file to read, the file to write and the
form to write, the last two under a name.
-/
set_option autoImplicit false

namespace TaggedStory.Arguments

structure Conversion where
  input : String
  output : String
  target : String
deriving DecidableEq, Repr

/-- What the arguments so far have given. -/
structure Given where
  input : Option String := none
  output : Option String := none
  target : Option String := none

def Given.complete (given : Given) : Except Stop Conversion :=
  match given.input, given.output, given.target with
  | some input, some output, some target => .ok ⟨input, output, target⟩
  | _, _, _ => .error .rejected

def isOption (argument : String) : Bool :=
  1 < argument.length && beginsWith ['-'] argument.toList

def readConversion (given : Given) : List String → Except Stop Conversion
  | [] => given.complete
  | [argument] =>
    if argument = "-h" ∨ argument = "--help" then .error .helpShown
    else if isOption argument || given.input.isSome then .error .rejected
    else ({ given with input := some argument } : Given).complete
  | argument :: value :: rest =>
    if argument = "-h" ∨ argument = "--help" then .error .helpShown
    else if argument = "-o" ∨ argument = "--output" then
      readConversion { given with output := some value } rest
    else if argument = "--to" then readConversion { given with target := some value } rest
    else if isOption argument || given.input.isSome then .error .rejected
    else readConversion { given with input := some argument } (value :: rest)

def conversion (arguments : List String) : Except Stop Conversion :=
  readConversion {} arguments

end TaggedStory.Arguments
