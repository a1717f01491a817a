import TaggedStory.Json.Token
/-!
Reading a document from its tokens. The open lists and objects stand on a stack, and each token is
one step; of a key that is written twice the last value counts, at the first place.
-/
set_option autoImplicit false

namespace TaggedStory.Json

/-- A list or an object that is still open. Items are kept newest first. -/
inductive Frame where
  | list (items : List Json)
  | object (fields : Fields) (key : String)

inductive Awaits where
  | value
  | firstItem
  | firstKey
  | key
  | colon (name : String)
  | separator
  | nothing
deriving DecidableEq, Repr

structure Progress where
  stack : List Frame
  awaits : Awaits
  result : Json

/-- A complete value goes into the innermost open list or object. -/
def Progress.place (state : Progress) (value : Json) : Progress :=
  match state.stack with
  | [] => { state with awaits := .nothing, result := value }
  | .list items :: outer =>
    { state with stack := .list (value :: items) :: outer, awaits := .separator }
  | .object fields key :: outer =>
    { state with stack := .object (put key value fields) "" :: outer, awaits := .separator }

def Progress.closeList (state : Progress) : Except TextFault Progress :=
  match state.stack with
  | .list items :: outer => .ok ({ state with stack := outer }.place (.arr items.reverse))
  | _ => .error .unreadable

def Progress.closeObject (state : Progress) : Except TextFault Progress :=
  match state.stack with
  | .object fields _ :: outer => .ok ({ state with stack := outer }.place (.obj fields))
  | _ => .error .unreadable

def Progress.startsValue (state : Progress) : Bool :=
  state.awaits == .value || state.awaits == .firstItem

def Progress.separate (state : Progress) : Except TextFault Progress :=
  match state.awaits, state.stack with
  | .separator, .list _ :: _ => .ok { state with awaits := .value }
  | .separator, .object _ _ :: _ => .ok { state with awaits := .key }
  | _, _ => .error .unreadable

def Progress.name (state : Progress) : Except TextFault Progress :=
  match state.awaits, state.stack with
  | .colon key, .object fields _ :: outer =>
    .ok { state with stack := .object fields key :: outer, awaits := .value }
  | _, _ => .error .unreadable

def Progress.step (state : Progress) : Token → Except TextFault Progress
  | .fault cause => .error cause
  | .scalar value => if state.startsValue then .ok (state.place value) else .error .unreadable
  | .text value =>
    if state.startsValue then .ok (state.place (.str value))
    else if state.awaits == .key || state.awaits == .firstKey then
      .ok { state with awaits := .colon value }
    else .error .unreadable
  | .openList =>
    if state.startsValue then
      .ok { state with stack := .list [] :: state.stack, awaits := .firstItem }
    else .error .unreadable
  | .openObject =>
    if state.startsValue then
      .ok { state with stack := .object [] "" :: state.stack, awaits := .firstKey }
    else .error .unreadable
  | .closeList =>
    if state.awaits == .separator || state.awaits == .firstItem then state.closeList
    else .error .unreadable
  | .closeObject =>
    if state.awaits == .separator || state.awaits == .firstKey then state.closeObject
    else .error .unreadable
  | .comma => state.separate
  | .colon => state.name

def ofTokens (tokens : List Token) : Except TextFault Json := do
  let state ← tokens.foldlM Progress.step ⟨[], .value, .null⟩
  if state.awaits = .nothing then .ok state.result else .error .unreadable

def read (text : String) : Except TextFault Json :=
  ofTokens (tokens text.toList)

end TaggedStory.Json
