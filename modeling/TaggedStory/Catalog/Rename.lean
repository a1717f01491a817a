import TaggedStory.Story.Graph
/-!
Renaming a variable in every place of a graph that names it. The nodes are changed in order; an
unmodelled field that stands where a node of another kind has records stops the renaming, and what
was changed before it stays changed.
-/
set_option autoImplicit false

namespace TaggedStory.Catalog

/-- A changed value and the number of references that changed. -/
structure Renamed (α : Type) where
  value : α
  count : Nat

namespace Renamed

variable {α β : Type}

def keep (value : α) : Renamed α := ⟨value, 0⟩

def map (change : α → β) (renamed : Renamed α) : Renamed β :=
  ⟨change renamed.value, renamed.count⟩

end Renamed

def renameText (old new text : String) : Renamed String :=
  if text = old then ⟨new, 1⟩ else .keep text

def renameEach {α : Type} (rename : α → Renamed α) (items : List α) : Renamed (List α) :=
  let renamed := items.map rename
  ⟨renamed.map (·.value), renamed.foldr (fun item count => item.count + count) 0⟩

section Records

variable (old new : String)

def renameCondition (condition : Condition) : Renamed Condition :=
  (renameText old new condition.name).map fun name => { condition with name := name }

def renameEffect (effect : Effect) : Renamed Effect :=
  (renameText old new effect.name).map fun name => { effect with name := name }

def renameRate (rate : Rate) : Renamed Rate :=
  (renameText old new rate.name).map fun name => { rate with name := name }

def renameOverride (override : Override) : Renamed Override :=
  (renameText old new override.name).map fun name => { override with name := name }

def renameVariable (entry : Variable) : Renamed Variable :=
  (renameText old new entry.name).map fun name => { entry with name := name }

def renameVideo (video : Video) : Renamed Video :=
  let conditions := renameEach (renameCondition old new) video.conditions
  let effects := renameEach (renameEffect old new) video.effects
  let rates := renameEach (renameRate old new) video.rates
  let most := renameEach (renameOverride old new) video.maxOverrides
  let least := renameEach (renameOverride old new) video.minOverrides
  let bar := renameText old new video.variableBarName
  { value := { video with
      conditions := conditions.value
      effects := effects.value
      rates := rates.value
      maxOverrides := most.value
      minOverrides := least.value
      variableBarName := bar.value }
    count := conditions.count + effects.count + rates.count + most.count + least.count + bar.count }

def renameOffer (offer : Offer) : Renamed Offer :=
  let conditions := renameEach (renameCondition old new) offer.conditions
  let effects := renameEach (renameEffect old new) offer.effects
  { value := { offer with conditions := conditions.value, effects := effects.value }
    count := conditions.count + effects.count }

def renameBody : Body → Renamed Body
  | .video video => (renameVideo old new video).map .video
  | .choice choice =>
    (renameOffer old new choice.offer).map fun offer => .choice { choice with offer := offer }
  | .card card =>
    (renameOffer old new card.offer).map fun offer => .card { card with offer := offer }
  | body => .keep body

/-- The unmodelled field for the variable bar of a node that has none. -/
def renameBarExtra (extras : Json.Fields) : Renamed Json.Fields :=
  match Json.lookup? "variable_bar_name" extras with
  | some (.str name) =>
    if name = old then ⟨Json.put "variable_bar_name" (.str new) extras, 1⟩ else .keep extras
  | _ => .keep extras

end Records

/-- The fields with records that a kind of node does not model. -/
def unmodelled : Kind → List String
  | .video => []
  | .choice | .card =>
    ["rate_effects", "max_default_value_overrides", "min_default_value_overrides"]
  | _ =>
    ["conditions", "effects", "rate_effects", "max_default_value_overrides",
      "min_default_value_overrides"]

def isNoList : Json → Bool
  | .int _ | .bool _ | .float _ => true
  | _ => false

/-- The values that stand where records are expected. -/
def strayRecords (node : Node) : List Json :=
  ((unmodelled node.kind).map fun name => Json.get name node.header.extras).filter Json.isTrue

/-- How far the renaming of a node came. -/
inductive Progress (α : Type) where
  | done (result : α)
  | stopped (partly : α) (fault : Fault)

def renameNode (old new : String) (node : Node) : Progress (Renamed Node) :=
  let strays := strayRecords node
  if strays.any isNoList then .stopped (.keep node) .wrongShape
  else
    let body := renameBody old new node.body
    let changed := body.map fun body => { node with body := body }
    if strays.isEmpty then
      let extras :=
        if node.kind = .video then .keep node.header.extras
        else renameBarExtra old new node.header.extras
      .done
        { value := changed.value.mapHeader fun header => { header with extras := extras.value }
          count := changed.count + extras.count }
    else .stopped changed .missingPart

def renameNodes (old new : String) : List Node → List Node × Attempt Nat
  | [] => ([], .ok 0)
  | node :: rest =>
    match renameNode old new node with
    | .stopped partly fault => (partly.value :: rest, .error fault)
    | .done renamed =>
      let (others, outcome) := renameNodes old new rest
      (renamed.value :: others, outcome.map (renamed.count + ·))

/-- The graph afterwards, and the number of changed references or the reason for stopping. -/
def rename (old new : String) (graph : Graph) : Graph × Attempt Nat :=
  if old = "" ∨ new = "" ∨ old = new then (graph, .ok 0)
  else
    let (nodes, outcome) := renameNodes old new graph.nodes
    match outcome with
    | .error fault => ({ graph with nodes := nodes }, .error fault)
    | .ok count =>
      let table := renameEach (renameVariable old new) graph.table
      let supplemental := renameEach (renameVariable old new) graph.supplemental
      ({ graph with
          nodes := nodes
          table := table.value
          supplemental := supplemental.value },
        .ok (count + table.count + supplemental.count))

end TaggedStory.Catalog
