import TaggedStory.Story.Node
import TaggedStory.Text.Scanner
import TaggedStory.Text.Digit
/-!
The arguments of the command that parses a text: one text, a kind, a request for all fields. Names
of options may be cut short as long as they stay unambiguous; after two dashes everything is an
operand.
-/
set_option autoImplicit false

namespace TaggedStory.Arguments

inductive Switch where
  | help
  | kind
  | full
deriving DecidableEq, Repr

def switches : List (String × Switch) :=
  [("-h", .help), ("--help", .help), ("--kind", .kind), ("--full", .full)]

def switch? (name : String) : Option Switch :=
  (switches.find? fun entry => entry.1 = name).map (·.2)

/-- Why the arguments do not lead to a run. -/
inductive Stop where
  | helpShown
  | rejected
deriving DecidableEq, Repr

/-- The part that an argument plays. A value is what follows the name in the same argument; a joined
one follows a short name without an equals sign. -/
inductive Role where
  | operand
  | switch (found : Switch) (isJoined : Bool) (value : Option String)
  | unknown
  | ambiguous
deriving DecidableEq, Repr

/-- A name and what follows its first equals sign. -/
def splitEquals (text : List Char) : List Char × Option String :=
  match text.dropWhile (· ≠ '=') with
  | _ :: value => (text.takeWhile (· ≠ '='), some (String.ofList value))
  | [] => (text, none)

def beginsWith (lead text : List Char) : Bool :=
  (Text.dropWord? lead text).isSome

/-- The switches whose name a long argument cuts short. -/
def longMatches (text : List Char) : List Role :=
  let (name, value) := splitEquals text
  (switches.filter fun entry => beginsWith name entry.1.toList).map fun entry =>
    .switch entry.2 false value

/-- A short switch may have something attached to it. -/
def shortMatches (text : List Char) : List Role :=
  switches.filterMap fun entry =>
    if entry.1.toList = text.take 2 then
      some (.switch entry.2 true (some (String.ofList (text.drop 2))))
    else if beginsWith text entry.1.toList then some (.switch entry.2 false none)
    else none

/-- A minus and a number; a line feed at the very end does not count. -/
def isNegativeNumber (text : List Char) : Bool :=
  match Text.dropFinalFeed text with
  | '-' :: rest =>
    let whole := rest.takeWhile Text.isDigit
    match rest.dropWhile Text.isDigit with
    | [] => !whole.isEmpty
    | '.' :: part => !part.isEmpty && part.all Text.isDigit
    | _ => false
  | _ => false

def roleOf (argument : String) : Role :=
  match argument.toList with
  | '-' :: c :: rest =>
    let text := '-' :: c :: rest
    match switch? argument, splitEquals text with
    | some found, _ => .switch found false none
    | none, (name, value) =>
      match value.bind fun _ => switch? (String.ofList name) with
      | some found => .switch found false value
      | none =>
        match if c = '-' then longMatches text else shortMatches text with
        | [found] => found
        | _ :: _ :: _ => .ambiguous
        | [] => if isNegativeNumber text || text.contains ' ' then .operand else .unknown
  | _ => .operand

/-- What is known after some of the arguments. `extra` says that one of them has no place. -/
structure State where
  text : Option String := none
  kind : Option Kind := none
  isFull : Bool := false
  hasExtra : Bool := false

def setKind (state : State) (value : String) : Except Stop State :=
  match Kind.ofWord? value with
  | some kind => .ok { state with kind := some kind }
  | none => .error .rejected

/-- What is joined to a short request for help may be further letters, but no value. -/
def isHelpTail (value : String) : Bool :=
  match value.toList.dropWhile (· == 'h') with
  | c :: _ => c ≠ '-' && c ≠ '='
  | [] => value ≠ ""

/-- A switch together with a value in the same argument. -/
def attached (state : State) (found : Switch) (isJoined : Bool) (value : String) :
    Except Stop State :=
  match found with
  | .kind => setKind state value
  | .help => .error (if isJoined && isHelpTail value then .helpShown else .rejected)
  | .full => .error .rejected

def addOperand (state : State) (text : String) : State :=
  if state.text.isSome then { state with hasExtra := true } else { state with text := some text }

/-- After two dashes: the first argument may be the text, and no other has a place. -/
def operands (state : State) (arguments : List String) : State :=
  if state.text.isSome then { state with hasExtra := true }
  else arguments.foldl addOperand state

/-- Two dashes at the end belong to a text directly in front of them. -/
def read (state : State) : List String → Except Stop State
  | [] => .ok state
  | argument :: rest =>
    if argument = "--" then .ok (operands state rest)
    else
      match roleOf argument with
      | .operand =>
        if state.text.isNone && rest.head? == some "--" then
          .ok (rest.tail.foldl addOperand (addOperand state argument))
        else read (addOperand state argument) rest
      | .unknown => read { state with hasExtra := true } rest
      | .ambiguous => .error .rejected
      | .switch found isJoined (some value) => do
        read (← attached state found isJoined value) rest
      | .switch .help _ none => .error .helpShown
      | .switch .full _ none => read { state with isFull := true } rest
      | .switch .kind _ none =>
        match rest with
        | [] => .error .rejected
        | value :: others =>
          if value ≠ "--" ∧ roleOf value = .operand then do
            read (← setKind state value) others
          else .error .rejected

/-- The arguments that come before two dashes. -/
def named (arguments : List String) : List String :=
  arguments.takeWhile (· ≠ "--")

structure ParseText where
  text : String
  kind : Option Kind
  isFull : Bool

def parseText (arguments : List String) : Except Stop ParseText := do
  if (named arguments).any fun argument => roleOf argument = .ambiguous then throw .rejected
  let state ← read {} arguments
  match state.text with
  | some text => if state.hasExtra then throw .rejected else return ⟨text, state.kind, state.isFull⟩
  | none => throw .rejected

end TaggedStory.Arguments
