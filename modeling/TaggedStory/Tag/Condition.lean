import TaggedStory.Story.Condition
import TaggedStory.Tag.Line
import TaggedStory.Tag.Span
/-!
The text of conditions. Operators of two signs are tried before those of one; percentages and
advertisement marks are no conditions.
-/
set_option autoImplicit false

namespace TaggedStory.Tag

open Text

/-- After the percent sign only a count may follow. -/
def isCountTail (text : List Char) : Bool :=
  match trimLeft text with
  | [] => true
  | c :: rest =>
    if c = ':' ∨ c = '：' then
      let body := trimLeft rest
      !(body.takeWhile isDigit).isEmpty && (trimLeft (body.dropWhile isDigit)).isEmpty
    else false

def isPercentage (text : List Char) : Bool :=
  match text.dropWhile (· ≠ '%') with
  | _ :: rest => !(text.takeWhile (· ≠ '%')).isEmpty && isCountTail rest
  | [] => false

def isNoCondition (text : List Char) : Bool :=
  isPercentage text || (dropWord? "AD".toList text).isSome

def comparisonOrder : List Comparison :=
  [.equal, .unequal, .atLeast, .atMost, .greater, .less]

def compare? (text : List Char) (comparison : Comparison) : Option Condition :=
  (split? (Scanner.word comparison.symbol) value? text).map fun parts =>
    ⟨String.ofList parts.name, comparison, String.ofList parts.value⟩

def condition? (text : List Char) : Option Condition :=
  if isNoCondition text then none else comparisonOrder.findSome? (compare? text)

def isCondition (text : List Char) : Bool :=
  (condition? text).isSome

def isOperatorSign (c : Char) : Bool :=
  c == '>' || c == '<' || c == '=' || c == '%' || c == '+' || c == '-' || c == '*' || c == '/'

/-- A text without any operator sign is a title or the like. -/
def isLikelyCondition (text : List Char) : Bool :=
  text.any isOperatorSign

def isExpressionSign (c : Char) : Bool :=
  c == '+' || c == '-' || c == '*' || c == '/' || c == '>' || c == '<' || c == '='

/-- A name that is an expression already stands alone. -/
def conditionText (condition : Condition) : String :=
  if condition.name.toList.any isExpressionSign then condition.name
  else condition.name ++ condition.comparison.symbol ++ condition.value

def conditionTag (condition : Condition) : String :=
  "《" ++ conditionText condition ++ "》"

/-- A random expression, in the form from which it can be read again. -/
def randomTag (expression : String) : String :=
  let text := expression.toList
  if text.contains '%' || isCondition text || !isLikelyCondition text then
    "[随机:" ++ expression ++ "]"
  else "《" ++ expression ++ "》"

end TaggedStory.Tag
