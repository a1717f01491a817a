import TaggedStory.Catalog.Name
import TaggedStory.Story.Graph
/-!
Variables found in texts and nodes, in the order of their discovery. A name is entered once; later
finds only add to its entry.
-/
set_option autoImplicit false

namespace TaggedStory

open Text Catalog

def shopVariables : List String := ["coin", "BPEXP", "VIPLevel"]

structure Entry where
  name : String
  isAccumulative : Bool := false
  isOnBar : Bool := false
  minValue : Option String := none
  maxValue : Option String := none
deriving DecidableEq, Repr

namespace Entry

def isShop (entry : Entry) : Bool :=
  shopVariables.contains entry.name

def persistence (entry : Entry) : Persistence :=
  if entry.isShop then .shop
  else if entry.isAccumulative then .accumulative
  else .chapterConstant

/-- A hint that is missing or empty gives way to the factory value. -/
def hinted (hint : Option String) (factory : String) : String :=
  match hint with
  | some value => if value = "" then factory else value
  | none => factory

def toVariable (entry : Entry) (order : Nat) : Variable :=
  { name := entry.name
    persistence := entry.persistence
    minValue := hinted entry.minValue factoryMin
    maxValue := hinted entry.maxValue factoryMax
    order := order
    showAsProgress := entry.isOnBar }

end Entry

/-- Entries in the order of their discovery, each name once. -/
structure Collector where
  entries : List Entry := []
deriving DecidableEq, Repr

namespace Collector

def names (collector : Collector) : List String :=
  collector.entries.map (·.name)

def find? (collector : Collector) (name : String) : Option Entry :=
  collector.entries.find? fun entry => entry.name = name

def has (collector : Collector) (name : String) : Bool :=
  (collector.find? name).isSome

/-- The name under which a raw name is entered, if it is a name at all. -/
def nameOf? (raw : List Char) : Option String :=
  let name := normalize raw
  if name.isEmpty || isNumericOrPercentage name then none else some (String.ofList name)

def enter (collector : Collector) (name : String) : Collector :=
  if collector.has name then collector else ⟨collector.entries ++ [{ name := name }]⟩

def update (collector : Collector) (name : String) (change : Entry → Entry) : Collector :=
  ⟨collector.entries.map fun entry => if entry.name = name then change entry else entry⟩

/-- Enters a name and changes its entry; what is no name changes nothing. -/
def note (collector : Collector) (raw : List Char) (change : Entry → Entry) : Collector :=
  match nameOf? raw with
  | some name => (collector.enter name).update name change
  | none => collector

def register (collector : Collector) (raw : List Char) : Collector :=
  match nameOf? raw with
  | some name => collector.enter name
  | none => collector

/-- The entry that a registered name stands for. -/
def entryFor? (collector : Collector) (raw : List Char) : Option Entry :=
  (nameOf? raw).bind collector.find?

def accumulate (entry : Entry) : Entry :=
  { entry with isAccumulative := true }

def addConditions (collector : Collector) (conditions : List Condition) : Collector :=
  conditions.foldl (fun c condition => c.register condition.name.toList) collector

def addEffect (collector : Collector) (effect : Effect) : Collector :=
  if effect.isAccumulative then collector.note effect.name.toList accumulate
  else collector.register effect.name.toList

def addEffects (collector : Collector) (effects : List Effect) : Collector :=
  effects.foldl addEffect collector

/-- An unmodelled field in the place of a list of records can only be empty. -/
def checkExtra (name : String) (extras : Json.Fields) : Attempt Unit :=
  match Json.get name extras with
  | .int value => if value = 0 then .ok () else .error .wrongShape
  | .bool value => if value then .error .wrongShape else .ok ()
  | .float value => if value.isZero then .ok () else .error .wrongShape
  | value => if value.isTrue then .error .missingPart else .ok ()

def addNode (collector : Collector) (node : Node) : Attempt Collector :=
  match node.body with
  | .video body => .ok ((collector.addConditions body.conditions).addEffects body.effects)
  | .choice body =>
    .ok ((collector.addConditions body.offer.conditions).addEffects body.offer.effects)
  | .card body =>
    .ok ((collector.addConditions body.offer.conditions).addEffects body.offer.effects)
  | _ => do
    checkExtra "conditions" node.header.extras
    checkExtra "effects" node.header.extras
    return collector

def noteFirst (collector : Collector) (scanner : Scanner (List Char)) (text : List Char)
    (change : Entry → Entry) : Collector :=
  match scanner.first? text with
  | some found => collector.note found.value change
  | none => collector

def noteLimit (collector : Collector) (scanner : Scanner (List Char × List Char))
    (text : List Char) (change : String → Entry → Entry) : Collector :=
  match scanner.first? text with
  | some found => collector.note found.value.1 (change (String.ofList (trim found.value.2)))
  | none => collector

def registerAll (collector : Collector) (names : List (List Char)) : Collector :=
  names.foldl register collector

def accumulateAll (collector : Collector) (names : List (List Char)) : Collector :=
  names.foldl (fun c name => c.note name accumulate) collector

def addText (collector : Collector) (text : List Char) : Collector :=
  let limits :=
    ((collector.noteFirst barName text fun entry => { entry with isOnBar := true }).noteLimit
      maxLimit text fun value entry => { entry with maxValue := some value }).noteLimit
      minLimit text fun value entry => { entry with minValue := some value }
  let changes :=
    (limits.registerAll ((increment.all text).map (·.value))).registerAll
      ((assignment.all text).map (·.value))
  let styled := changes.accumulateAll ((accumulated.all text).map (·.value))
  ((styled.registerAll (guillemetNames text)).registerAll (randomNames text)).registerAll
    (braceNames text)

/-- The node first, if there is one, then the text that it was read from. -/
def add (collector : Collector) (text : List Char) (node : Option Node) : Attempt Collector :=
  match node with
  | some node => (collector.addNode node).map fun c => c.addText text
  | none => .ok (collector.addText text)

def variablesFrom (order : Nat) : List Entry → List Variable
  | [] => []
  | entry :: rest => entry.toVariable order :: variablesFrom (order + 1) rest

/-- The entries as a variable table, numbered from one. -/
def toVariables (collector : Collector) : List Variable :=
  variablesFrom 1 collector.entries

/-- All texts, then all nodes. -/
def infer (texts : List String) (nodes : List Node) : Attempt (List Variable) :=
  let read := texts.foldl (fun c text => c.addText text.toList) ({} : Collector)
  (nodes.foldlM addNode read).map toVariables

end Collector

end TaggedStory
