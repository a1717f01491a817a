import TaggedStory.Proofs.Document.Export
import TaggedStory.Proofs.Document.VariableTable
import TaggedStory.Proofs.Node.Legible
/-!
An exported document can be read again, unless a text holds a number with too many digits.
-/
set_option autoImplicit false

namespace TaggedStory

open Decimal

-- A node without extras gives its conditions and effects to the collector.
theorem Collector.add_returns (collector : Collector) (text : List Char) (node : Node) (plain : node.header.extras = []) :
    ∃ added, collector.add text (some node) = .ok added := by
  have entered : ∃ entered, collector.addNode node = .ok entered := by
    rw [Collector.addNode]
    cases node.body with
    | video | choice | card => exact ⟨_, rfl⟩
    | bgm | jump | task | tip =>
        rw [plain]
        exact ⟨_, rfl⟩
  obtain ⟨entered, same⟩ := entered
  exact ⟨_, by rw [Collector.add, same]; rfl⟩

namespace Interchange

variable (graph : Graph)

-- Short enough numbers in every text that an export writes.
def LegibleTexts : Prop :=
  ∀ node ∈ graph.nodes, imageOf? node = none → ∀ text, node.text (graph.isStart node) = .ok text →
    Legible (Text.narrow text.toList)

theorem points_return (entities : List Entity) (known : ∀ entity ∈ entities, ∃ node, entity = exported graph node) :
    ∃ points, pointsOf entities = .ok points := by
  induction entities with
  | nil => exact ⟨[], rfl⟩
  | cons entity rest ih =>
      obtain ⟨others, later⟩ := ih fun other member => known other (List.mem_cons_of_mem _ member)
      obtain ⟨node, rfl⟩ := known entity List.mem_cons_self
      have point : ∃ point, (exported graph node).point? = .ok point := by
        rw [exported]
        cases imageOf? node <;> exact ⟨_, rfl⟩
      obtain ⟨point, here⟩ := point
      exact ⟨_, by rw [pointsOf, here, later]; rfl⟩

-- An entity that has a place becomes a node.
theorem placed_added (placement : Placement) (successors : List (String × List String)) (state : Import) (entity : Entity)
    (legible : entity.isImage = false → Legible (Text.narrow entity.text.toList)) (position : Position)
    (placed : placement.apply (.arr entity.location) = .ok position) :
    ∃ next, addNode placement successors state entity = .ok next := by
  refine attempt_bind_returns _ _ position placed ?_
  cases image : entity.isImage with
  | true => exact ⟨_, rfl⟩
  | false =>
      have short : Legible (Text.narrowed entity.text).toList := by
        rw [Text.narrowed, String.toList_ofList]
        exact legible image
      obtain ⟨parsed, read⟩ := Node.parse_legible (Kind.classify (Text.narrowed entity.text) entity.type)
        (Text.narrowed entity.text) (headerOf entity position) short
      have bare := Node.parse_as_keeps _ _ _ _ read
      have plain : parsed.node.header.extras = [] := congrArg Header.extras bare
      obtain ⟨collector, added⟩ := Collector.add_returns state.collector (Text.narrowed entity.text).toList parsed.node plain
      exact attempt_bind_returns _ _ parsed read (attempt_bind_returns _ _ collector added ⟨_, rfl⟩)

theorem exported_added (node : Node)
    (legible : imageOf? node = none → Legible (Text.narrow (spoken graph node).toList)) (placement : Placement)
    (successors : List (String × List String)) (state : Import) :
    ∃ next, addNode placement successors state (exported graph node) = .ok next := by
  have placed : ∃ position, placement.apply (.arr (exported graph node).location) = .ok position := by
    rw [exported]
    cases imageOf? node <;> exact ⟨_, rfl⟩
  obtain ⟨position, placed⟩ := placed
  refine placed_added placement successors state _ (fun shown => ?_) position placed
  cases image : imageOf? node with
  | some path =>
      rw [exported, image] at shown
      cases shown
  | none =>
      have text : (exported graph node).text = spoken graph node := by rw [exported, image]; rfl
      rw [text]
      exact legible image

theorem table_returns (entries : Json.Fields)
    (table : Json.get "variables" entries = .null ∨ Json.get "variables" entries = VariableTable.write graph.table) :
    ∃ read, VariableTable.read (tableIn entries) = .ok read := by
  rcases table with none | some
  · exact ⟨[], by rw [tableIn, none]; rfl⟩
  · rw [tableIn, some]
    cases graph.table with
    | nil => exact ⟨[], rfl⟩
    | cons entry rest => exact ⟨_, VariableTable.written_read (entry :: rest)⟩

theorem legible_export_loads (named : "" ∉ graph.ids) (distinct : graph.ids.Nodup) (legible : LegibleTexts graph)
    (document : Json) (written : write graph = .ok document) : ∃ again, load document (.ok (.arr [])) = .ok again := by
  obtain ⟨entries, content, parts⟩ := written_read graph named distinct document written
  have known : ∀ entity ∈ retained content.entities, ∃ node ∈ graph.nodes, entity = exported graph node := by
    intro entity kept
    have present := List.mem_of_mem_filter kept
    rw [parts.entities] at present
    obtain ⟨node, member, rfl⟩ := List.mem_map.mp present
    exact ⟨node, member, rfl⟩
  obtain ⟨points, read⟩ := points_return graph (retained content.entities) fun entity kept =>
    (known entity kept).imp fun _ both => both.2
  obtain ⟨placement, placed⟩ : ∃ placement, Interchange.placement content.entities = .ok placement :=
    ⟨_, by rw [Interchange.placement, read]; rfl⟩
  obtain ⟨imported, nodes⟩ := attempt_fold_returns (addNode placement ((network content).resolveAll {}).1)
    (retained content.entities) (fun state entity kept => by
      obtain ⟨node, member, rfl⟩ := known entity kept
      exact exported_added graph node (fun image => legible node member image _ (parts.speaks node member)) _ _ state)
    ⟨[], {}, 0⟩
  obtain ⟨explicit, table⟩ := table_returns graph entries parts.table
  have template : ∃ given, templateTable explicit (.ok (.arr [])) = .ok given := by
    rw [templateTable]
    split <;> exact ⟨_, rfl⟩
  obtain ⟨given, template⟩ := template
  refine attempt_bind_returns _ _ content parts.read (attempt_bind_returns _ _ placement placed ?_)
  refine attempt_bind_returns _ _ imported nodes ?_
  rw [parts.shape]
  exact attempt_bind_returns _ _ explicit table (attempt_bind_returns _ _ given template ⟨_, rfl⟩)

end Interchange

end TaggedStory
