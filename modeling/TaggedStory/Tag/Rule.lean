import TaggedStory.Fault
import TaggedStory.Tag.Ad
import TaggedStory.Tag.Condition
import TaggedStory.Tag.Effect
/-!
Rules that move tags from a text into a record. A rule finds its tags in the text as it stands,
hands each to the record, and removes the first occurrence of each tag that the record accepts.
Rules run in order, so that a later rule sees only what the earlier ones left.
-/
set_option autoImplicit false

namespace TaggedStory.Tag

open Text

/-- A found tag and what it does to a record; nothing if the record declines it. -/
structure Move (R : Type) where
  token : List Char
  act : R → Attempt (Option R)

structure Rule (R : Type) where
  name : String
  moves : List Char → List (Move R)
  consumes : Bool

namespace Rule

variable {R α : Type}

def move (act : R → α → Attempt (Option R)) (found : Found α) : Move R :=
  ⟨found.token, fun record => act record found.value⟩

/-- The first tag only. -/
def first (name : String) (scanner : Scanner α) (act : R → α → Attempt (Option R)) : Rule R where
  name := name
  moves text := ((scanner.first? text).map (move act)).toList
  consumes := true

/-- Every tag, found before any of them is removed. -/
def every (name : String) (scanner : Scanner α) (act : R → α → Attempt (Option R)) : Rule R where
  name := name
  moves text := (scanner.all text).map (move act)
  consumes := true

def set (name : String) (scanner : Scanner α) (change : α → R → R) : Rule R :=
  first name scanner fun record value => .ok (some (change value record))

def setEvery (name : String) (scanner : Scanner α) (change : α → R → R) : Rule R :=
  every name scanner fun record value => .ok (some (change value record))

def literal (name : String) (word : String) (change : R → R) : Rule R :=
  set name (Scanner.word word) fun _ => change

def drop (name : String) (scanner : Scanner α) : Rule R :=
  set name scanner fun _ record => record

/-- The tag stays in the text. -/
def keeping (rule : Rule R) : Rule R :=
  { rule with consumes := false }

def take (token text : List Char) : List Char :=
  trim (removeFirst token text)

def step (consumes : Bool) (state : List Char × R) (move : Move R) : Attempt (List Char × R) :=
  (move.act state.2).map fun outcome =>
    match outcome with
    | some record => (if consumes then take move.token state.1 else state.1, record)
    | none => state

def apply (rule : Rule R) (state : List Char × R) : Attempt (List Char × R) :=
  (rule.moves state.1).foldlM (step rule.consumes) state

def applyAll (rules : List (Rule R)) (state : List Char × R) : Attempt (List Char × R) :=
  rules.foldlM (fun state rule => rule.apply state) state

end Rule

/-- A rule for every condition of a text. -/
def conditionRule {R : Type} (add : Condition → R → R) : Rule R :=
  .every "conditions" guillemet fun record body =>
    .ok ((condition? body).map fun condition => add condition record)

/-- A rule for every effect of a text; effects are looked for in the effect view. -/
def effectRule {R : Type} (add : Effect → R → R) : Rule R where
  name := "effects"
  moves text := (angle.all (effectView text)).map <| Rule.move fun record body =>
    .ok ((effect? body).map fun effect => add effect record)
  consumes := true

/-- A whole text through one rule that cannot stop: the text that is left, and what was
collected. -/
def collect {α : Type} (rule : Rule (List α)) (text : List Char) : List Char × List α :=
  match rule.apply (text, []) with
  | .ok state => state
  | .error _ => (text, [])

def takeConditions (text : List Char) : List Char × List Condition :=
  collect (conditionRule fun condition found => found ++ [condition]) text

def takeEffects (text : List Char) : List Char × List Effect :=
  collect (effectRule fun effect found => found ++ [effect]) text

end TaggedStory.Tag
