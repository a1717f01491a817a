import TaggedStory.Proofs.Document.GraphRecord
/-!
The places of a graph that name a variable: conditions, effects, rates and overrides of its nodes, the variable bars of
its videos, and both of its tables. A change of the names there reaches each of them and leaves everything else.
-/
set_option autoImplicit false

namespace TaggedStory

-- Records that hold one name.
class Named (α : Type) where
  name : α → String
  withName : String → α → α
  name_with : ∀ given item, name (withName given item) = given
  with_own : ∀ item, withName (name item) item = item
  with_again : ∀ first second item, withName second (withName first item) = withName second item

instance : Named Condition :=
  ⟨Condition.name, fun name condition => { condition with name := name }, fun _ _ => rfl, fun _ => rfl, fun _ _ _ => rfl⟩

instance : Named Effect :=
  ⟨Effect.name, fun name effect => { effect with name := name }, fun _ _ => rfl, fun _ => rfl, fun _ _ _ => rfl⟩

instance : Named Rate :=
  ⟨Rate.name, fun name rate => { rate with name := name }, fun _ _ => rfl, fun _ => rfl, fun _ _ _ => rfl⟩

instance : Named Override :=
  ⟨Override.name, fun name override => { override with name := name }, fun _ _ => rfl, fun _ => rfl, fun _ _ _ => rfl⟩

instance : Named Variable :=
  ⟨Variable.name, fun name entry => { entry with name := name }, fun _ _ => rfl, fun _ => rfl, fun _ _ _ => rfl⟩

namespace Named

variable {α : Type} [Named α]

def names (items : List α) : List String :=
  items.map name

def mapName (change : String → String) (item : α) : α :=
  withName (change (name item)) item

def mapNames (change : String → String) (items : List α) : List α :=
  items.map (mapName change)

variable (change again : String → String) (items : List α)

theorem names_mapped : names (mapNames change items) = (names items).map change := by
  rw [names, mapNames, names, List.map_map, List.map_map]
  exact List.map_congr_left fun item _ => name_with _ item

theorem mapped_again : mapNames again (mapNames change items) = mapNames (again ∘ change) items := by
  rw [mapNames, mapNames, mapNames, List.map_map]
  refine List.map_congr_left fun item _ => ?_
  rw [Function.comp_apply, mapName, mapName, name_with, with_again]
  rfl

theorem mapped_fixed (fixed : ∀ name ∈ names items, change name = name) : mapNames change items = items := by
  refine (map_fixed _ _).mpr fun item member => ?_
  rw [mapName, fixed (name item) (List.mem_map_of_mem member), with_own]

end Named

open Named

def Offer.references (offer : Offer) : List String :=
  names offer.conditions ++ names offer.effects

def Video.references (video : Video) : List String :=
  names video.conditions ++ names video.effects ++ names video.rates ++ names video.maxOverrides ++
    names video.minOverrides ++ [video.variableBarName]

def Body.references : Body → List String
  | .video body => body.references
  | .choice body => body.offer.references
  | .card body => body.offer.references
  | _ => []

def Offer.mapNames (change : String → String) (offer : Offer) : Offer :=
  { offer with
    conditions := Named.mapNames change offer.conditions
    effects := Named.mapNames change offer.effects }

def Video.mapNames (change : String → String) (video : Video) : Video :=
  { video with
    conditions := Named.mapNames change video.conditions
    effects := Named.mapNames change video.effects
    rates := Named.mapNames change video.rates
    maxOverrides := Named.mapNames change video.maxOverrides
    minOverrides := Named.mapNames change video.minOverrides
    variableBarName := change video.variableBarName }

def Body.mapNames (change : String → String) : Body → Body
  | .video body => .video (body.mapNames change)
  | .choice body => .choice { body with offer := body.offer.mapNames change }
  | .card body => .card { body with offer := body.offer.mapNames change }
  | body => body

section Parts

variable (change again : String → String)

theorem Offer.references_mapped (offer : Offer) : (offer.mapNames change).references = offer.references.map change := by
  simp only [Offer.references, Offer.mapNames, names_mapped, List.map_append]

theorem Offer.mapped_again (offer : Offer) : (offer.mapNames change).mapNames again = offer.mapNames (again ∘ change) := by
  simp only [Offer.mapNames, Named.mapped_again]

theorem Offer.mapped_fixed (offer : Offer) (fixed : ∀ name ∈ offer.references, change name = name) :
    offer.mapNames change = offer := by
  simp only [Offer.references, List.forall_mem_append] at fixed
  rw [Offer.mapNames, Named.mapped_fixed change _ fixed.1, Named.mapped_fixed change _ fixed.2]

theorem Video.references_mapped (video : Video) : (video.mapNames change).references = video.references.map change := by
  simp only [Video.references, Video.mapNames, names_mapped, List.map_append, List.map_cons, List.map_nil]

theorem Video.mapped_again (video : Video) : (video.mapNames change).mapNames again = video.mapNames (again ∘ change) := by
  simp only [Video.mapNames, Named.mapped_again, Function.comp_apply]

theorem Video.mapped_fixed (video : Video) (fixed : ∀ name ∈ video.references, change name = name) :
    video.mapNames change = video := by
  simp only [Video.references, List.forall_mem_append, List.forall_mem_singleton] at fixed
  obtain ⟨⟨⟨⟨⟨conditions, effects⟩, rates⟩, most⟩, least⟩, bar⟩ := fixed
  rw [Video.mapNames, Named.mapped_fixed change _ conditions, Named.mapped_fixed change _ effects,
    Named.mapped_fixed change _ rates, Named.mapped_fixed change _ most, Named.mapped_fixed change _ least, bar]

theorem Body.references_mapped (body : Body) : (body.mapNames change).references = body.references.map change := by
  cases body with
  | video video => exact video.references_mapped change
  | choice choice => exact choice.offer.references_mapped change
  | card card => exact card.offer.references_mapped change
  | _ => rfl

theorem Body.mapped_again (body : Body) : (body.mapNames change).mapNames again = body.mapNames (again ∘ change) := by
  cases body with
  | video video => exact congrArg Body.video (video.mapped_again change again)
  | choice choice => exact congrArg (fun offer => Body.choice { choice with offer := offer }) (choice.offer.mapped_again change again)
  | card card => exact congrArg (fun offer => Body.card { card with offer := offer }) (card.offer.mapped_again change again)
  | _ => rfl

theorem Body.mapped_fixed (body : Body) (fixed : ∀ name ∈ body.references, change name = name) : body.mapNames change = body := by
  cases body with
  | video video => exact congrArg Body.video (video.mapped_fixed change fixed)
  | choice choice => exact congrArg (fun offer => Body.choice { choice with offer := offer }) (choice.offer.mapped_fixed change fixed)
  | card card => exact congrArg (fun offer => Body.card { card with offer := offer }) (card.offer.mapped_fixed change fixed)
  | _ => rfl

end Parts

def Node.references (node : Node) : List String :=
  node.body.references

def Node.mapNames (change : String → String) : Node → Node :=
  NodeOf.updateBody (Body.mapNames change)

theorem Node.mapped_again (change again : String → String) (node : Node) :
    (node.mapNames change).mapNames again = node.mapNames (again ∘ change) :=
  congrArg (NodeOf.mk node.header) (node.body.mapped_again change again)

theorem Node.mapped_fixed (change : String → String) (node : Node) (fixed : ∀ name ∈ node.references, change name = name) :
    node.mapNames change = node :=
  congrArg (NodeOf.mk node.header) (node.body.mapped_fixed change fixed)

namespace Graph

def references (graph : Graph) : List String :=
  graph.nodes.flatMap Node.references ++ names graph.table ++ names graph.supplemental

def mapNames (change : String → String) (graph : Graph) : Graph :=
  { graph with
    nodes := graph.nodes.map (Node.mapNames change)
    table := Named.mapNames change graph.table
    supplemental := Named.mapNames change graph.supplemental }

-- Everything but the names: two graphs that differ only in references are the same without them.
def nameless (graph : Graph) : Graph :=
  graph.mapNames fun _ => ""

variable (change again : String → String) (graph : Graph)

theorem nodes_references_mapped (nodes : List Node) :
    (nodes.map (Node.mapNames change)).flatMap Node.references = (nodes.flatMap Node.references).map change := by
  rw [List.flatMap_map, List.map_flatMap]
  exact List.flatMap_congr fun node _ => node.body.references_mapped change

theorem references_mapped : (graph.mapNames change).references = graph.references.map change := by
  simp only [references, mapNames, nodes_references_mapped, names_mapped, List.map_append]

theorem mapped_again : (graph.mapNames change).mapNames again = graph.mapNames (again ∘ change) := by
  have nodes : (graph.nodes.map (Node.mapNames change)).map (Node.mapNames again) =
      graph.nodes.map (Node.mapNames (again ∘ change)) := by
    rw [List.map_map]
    exact List.map_congr_left fun node _ => node.mapped_again change again
  simp only [mapNames, nodes, Named.mapped_again]

theorem mapped_fixed (fixed : ∀ name ∈ graph.references, change name = name) : graph.mapNames change = graph := by
  simp only [references, List.forall_mem_append, List.mem_flatMap] at fixed
  obtain ⟨⟨bodies, table⟩, supplemental⟩ := fixed
  have nodes : graph.nodes.map (Node.mapNames change) = graph.nodes := by
    refine (map_fixed _ _).mpr fun node member => ?_
    exact node.mapped_fixed change fun name listed => bodies name ⟨node, member, listed⟩
  rw [mapNames, nodes, Named.mapped_fixed change _ table, Named.mapped_fixed change _ supplemental]

theorem nameless_mapped : (graph.mapNames change).nameless = graph.nameless :=
  graph.mapped_again change fun _ => ""

end Graph

end TaggedStory
