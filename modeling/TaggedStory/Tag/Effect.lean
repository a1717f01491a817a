import TaggedStory.Story.Effect
import TaggedStory.Tag.Line
import TaggedStory.Tag.Span
/-!
The text of effects. The forms are tried in a fixed order, and a form whose name has nothing but
operator signs gives way to the next one. Effects are looked for in a copy of the text without the
guillemet tags and the marks of rich text.
-/
set_option autoImplicit false

namespace TaggedStory.Tag

open Text

def isInnerLetter (c : Char) : Bool :=
  c.isAlpha || c == '_' || (0x4e00 ≤ c.toNat && c.toNat ≤ 0x9fa5)

def isInnerPart (c : Char) : Bool :=
  isInnerLetter c || c.isDigit

/-- A name: a letter or a low line, then letters, low lines and digits. -/
def identifier : Scanner (List Char) := do
  let head ← Scanner.one isInnerLetter
  let tail ← Scanner.many isInnerPart
  return head :: tail

def isIdentifier (text : List Char) : Bool :=
  match text with
  | [] => false
  | c :: rest => isInnerLetter c && rest.all isInnerPart

/-- Also the letters that lose their case to the expected one, such as the long s. -/
def isLetter (expected c : Char) : Bool :=
  c == expected || c == expected.toUpper || (expected == 's' && c.toNat == 0x17f) ||
    (expected == 'i' && (c.toNat == 0x130 || c.toNat == 0x131))

def letters : List Char → Scanner Unit
  | [] => pure ()
  | c :: rest => do
    let _ ← Scanner.one (isLetter c)
    letters rest

def markStart : Scanner Unit := do
  char '<'
  let _ ← Scanner.optional (char '/')

/-- A rich text mark with anything after its name. -/
def openMark (name : String) : Scanner Unit := do
  markStart
  letters name.toList
  let _ ← Scanner.many (· ≠ '>')
  char '>'

def plainMark : Scanner Unit := do
  markStart
  let _ ← Scanner.one fun c => isLetter 'b' c || isLetter 'i' c
  char '>'

def guillemets : Scanner Unit := do
  char '《'
  let _ ← Scanner.many (· ≠ '》')
  char '》'

/-- The copy of a text in which effects are looked for. -/
def effectView (text : List Char) : List Char :=
  (openMark "size").erase (plainMark.erase ((openMark "color").erase (guillemets.erase text)))

def globalLimit : Scanner Unit := do
  Scanner.blanks
  Scanner.word "全局"
  Scanner.blanks
  Scanner.word "最大值" <|> Scanner.word "最小值"
  Scanner.blanks
  colon

def defaultLimit : Scanner Unit := do
  Scanner.blanks
  Scanner.word "最大默认值" <|> Scanner.word "最小默认值"
  Scanner.blanks
  colon

def soundSetting : Scanner Unit := do
  Scanner.blanks
  char 'S'
  Scanner.blanks
  colon

def endsPerSecond (text : List Char) : Bool :=
  match (trimRight text).reverse with
  | 's' :: rest => (rest.dropWhile isBlank).head? == some '/'
  | _ => false

/-- Settings of limits and sound and changes by the second look like effects and are none. -/
def isNoEffect (text : List Char) : Bool :=
  (globalLimit.run text).isSome || (defaultLimit.run text).isSome ||
    (soundSetting.run text).isSome || endsPerSecond text

def accumulativeMark : Scanner Unit := do
  char 'A'
  Scanner.blanks
  colon

def takeStyle (text : List Char) : Style × List Char :=
  match accumulativeMark.run text with
  | some (_, rest) => (.accumulative, trim rest)
  | none => (.normal, text)

def isBoundarySign (c : Char) : Bool :=
  c == '+' || c == '-' || c == '*' || c == '/' || c == '=' || c == '<' || c == '>' || c == '!'

def isName (name : List Char) : Bool :=
  !name.isEmpty && !name.all isBoundarySign

def effectOf? (style : Style) (name : List Char) (operation : Operation) (value : List Char) :
    Option Effect :=
  if isName name then some ⟨String.ofList name, operation, String.ofList value, style⟩ else none

def partsEffect? (style : Style) (parts : Option (Parts Operation)) : Option Effect :=
  parts.bind fun parts => effectOf? style parts.name parts.operator parts.value

def operationSign (accepts : Operation → Bool) : Scanner Operation
  | [] => none
  | c :: rest =>
    match Operation.ofSign? c with
    | some operation => if accepts operation then some (operation, rest) else none
    | none => none

def compoundSign : Scanner Operation := do
  let operation ← operationSign (· ≠ .set)
  char '='
  return operation

/-- An equals sign in front of a name sets the name to nothing. -/
def inverted? (text : List Char) : Option (List Char) :=
  match text with
  | '=' :: rest => value? rest
  | _ => none

def singleForms? (style : Style) (text : List Char) : Option Effect :=
  Operation.all.findSome? fun operation =>
    partsEffect? style (split? (operationSign (· = operation)) value? text)

def trailingOrBare? (style : Style) (text : List Char) : Option Effect :=
  match split? (operationSign fun _ => true) nothing? text with
  | some parts => effectOf? style parts.name parts.operator []
  | none => if isIdentifier text then effectOf? style text .set [] else none

def unstyled? (style : Style) (text : List Char) : Option Effect :=
  match inverted? text with
  | some name => effectOf? style name .set []
  | none =>
    match partsEffect? style (split? compoundSign valueOrNone? text) with
    | some effect => some effect
    | none =>
      match singleForms? style text with
      | some effect => some effect
      | none => trailingOrBare? style text

def effect? (text : List Char) : Option Effect :=
  let body := trim text
  if isNoEffect body then none
  else
    let (style, body) := takeStyle body
    unstyled? style body

def effectTag (effect : Effect) : String :=
  let mark := if effect.isAccumulative then "A:" else ""
  let head := "<" ++ mark ++ effect.name ++ " " ++ effect.operation.symbol
  if effect.value = "" then head ++ ">" else head ++ " " ++ effect.value ++ ">"

end TaggedStory.Tag
