import TaggedStory.Proofs.Document.Entries
import TaggedStory.Proofs.Document.StoryData
import TaggedStory.Proofs.Document.Topology
/-!
A validated graph comes back from a document of nodes and edges: each node from its outer fields and its data, its
successors from the edges alone.
-/
set_option autoImplicit false

namespace TaggedStory

-- The graph as a document of nodes and edges carries it.
def Graph.redrawn (graph : Graph) : Graph where
  nodes := graph.nodes
  table := (graph.table.filter fun entry => entry.name ≠ "").map Variable.settled
  start := if graph.startName = "" then none else some graph.startName
  version := graph.writtenVersion

namespace VisualGraph

open Interchange

section Edges

-- An edge to a target in its place among the edges of a source.
def edgeItem (source : String) (index : Nat) (target : String) : Json :=
  .obj [
    ("id", .str (edgeId source index)),
    ("source", .str source),
    ("target", .str target),
    ("type", .str "smooth"),
    ("animated", .bool false)]

theorem edges_in_place (source : String) (index : Nat) (targets : List String) :
    writeEdges source index targets = (targets.zipIdx index).map fun place => edgeItem source place.2 place.1 := by
  induction targets generalizing index with
  | nil => rfl
  | cons target rest ih =>
      rw [writeEdges, ih, List.zipIdx_cons]
      rfl

theorem edge_item_read (source : String) (named : source ≠ "") (index : Nat) (target : String) :
    edge? (edgeItem source index target) = told source target :=
  told_of_named source target named

theorem written_edges_read (nodes : List Node) (named : "" ∉ nodes.map Node.id) :
    (nodes.flatMap fun node => writeEdges node.id 0 node.next).filterMap edge? = nodes.flatMap linksOf := by
  rw [List.filterMap_flatMap]
  refine List.flatMap_congr fun node member => ?_
  have filled : node.id ≠ "" := fun empty => named (empty ▸ List.mem_map_of_mem member)
  have read := ends_of_items (edgeItem node.id) edge? id node.id (fun index target => by
    rw [Option.map_id_fun, id, edge_item_read node.id filled]) 0 node.next
  rwa [List.map_id, ← edges_in_place] at read

theorem successors_written (nodes : List Node) (distinct : (nodes.map Node.id).Nodup) (node : Node) (member : node ∈ nodes)
    (unique : node.next.Nodup) (filled : "" ∉ node.next) : successors (nodes.flatMap linksOf) node.id = node.next := by
  have all : node.next.filter (· ≠ "") = node.next :=
    List.filter_eq_self.mpr fun target linked => decide_eq_true fun empty => filled (empty ▸ linked)
  rw [successors, own_links nodes distinct node member, linksOf, all, List.map_map]
  change (node.next.map id).eraseDups = node.next
  rw [List.map_id, erase_dups_of_nodup node.next unique]

end Edges

-- The fields of a written node around its data.
def outerFields (node : Node) (data : Json.Fields) : Json.Fields := [
  ("id", .str node.id),
  ("type", .str (typeOf node.kind)),
  ("position", .obj [("x", .float node.header.position.x), ("y", .float node.header.position.y)]),
  ("data", .obj data)]

theorem node_written (node : Node) (entries : Json.Fields) (written : node.write = .obj entries) :
    writeNode node = .obj (outerFields node (Json.without "position" (Json.without "kind" entries))) := by
  simp only [writeNode, written]
  rfl

theorem kind_written (node : Node) (data : Json.Fields) : kindIn? (outerFields node data) = .ok (some node.kind) := by
  change Except.ok (kindOf? (typeOf node.kind)) = _
  cases node.kind <;> rfl

-- The record that is put together again has the four outer fields in the place of its own.
theorem record_put_together (kind : Kind) (edges : List (String × String)) (node : Node) (entries : Json.Fields)
    (named : node.id ≠ "") (linked : successors edges node.id = node.next) :
    recordFields kind edges (outerFields node (Json.without "position" (Json.without "kind" entries))) =
      Json.put "nextNodeIds" (Json.ofTexts node.next)
        (Json.put "position"
          (.obj [("x", .float node.header.position.x), ("y", .float node.header.position.y)])
          (Json.without "position" (Json.put "kind" (.str kind.word)
            (Json.without "kind" (Json.put "nodeId" (.str node.id) entries))))) := by
  have present : (Json.str node.id).isTrue = true := decide_eq_true named
  have id : ∀ data, idOf (outerFields node data) data = node.id := by
    intro data
    change ((Json.str node.id).orElse _).text = node.id
    rw [Json.orElse, if_pos present]
    rfl
  rw [← Json.put_without "nodeId" "kind" _ _ (by decide), ← Json.put_without "kind" "position" _ _ (by decide),
    ← Json.put_without "nodeId" "position" _ _ (by decide), ← linked]
  rw [← id (Json.without "position" (Json.without "kind" entries))]
  rfl

end VisualGraph

namespace NodeOf

variable {B : Type} {kind : Kind} {initial : B} {shared own : List (Field B)} {node : NodeOf B}

-- A field of the header, found in the record under its key.
theorem header_alike (returns : Returns kind initial shared own node) (field : Field Header) (member : field ∈ Header.fields)
    (value : Json) (alike : field.read value = field.read (field.write node.header)) :
    ∀ other ∈ (schemaOf kind initial shared own).fields, other.key = field.key →
      other.read value = other.read (other.write node) := by
  have present : field.lift (·.header) mapHeader ∈ (schemaOf kind initial shared own).fields :=
    List.mem_append_left _ (List.mem_append_left _ (List.mem_map_of_mem member))
  exact (schemaOf kind initial shared own).alike_of_member node returns.distinct _ present value (lifted_alike alike)

theorem redrawn_record_read (returns : Returns kind initial shared own node) :
    (schemaOf kind initial shared own).readFields
      (Json.put "nextNodeIds" (Json.ofTexts node.header.next)
        (Json.put "position"
          (.obj [("x", .float node.header.position.x), ("y", .float node.header.position.y)])
          (Json.without "position" (Json.put "kind" (.str kind.word) (Json.without "kind"
            (Json.put "nodeId" (.str node.header.id) ((schemaOf kind initial shared own).entriesOf node))))))) = .ok node := by
  have taken : ∀ field ∈ Header.fields, field.key ∈ (schemaOf kind initial shared own).fields.map Field.key := by
    intro field member
    exact List.mem_map_of_mem (List.mem_append_left _ (List.mem_append_left _ (List.mem_map_of_mem member)))
  have kindTaken : "kind" ∈ (schemaOf kind initial shared own).fields.map Field.key := List.mem_map_of_mem kind_member
  have idAlike := header_alike returns _ (List.mem_of_getElem? (i := 0) rfl) (.str node.header.id) rfl
  have nextAlike := header_alike returns _ (List.mem_of_getElem? (i := 3) rfl) (Json.ofTexts node.header.next) rfl
  have placeAlike := header_alike returns _ (List.mem_of_getElem? (i := 5) rfl)
    (.obj [("x", .float node.header.position.x), ("y", .float node.header.position.y)]) rfl
  have idTaken : "nodeId" ∈ (schemaOf kind initial shared own).fields.map Field.key :=
    taken _ (List.mem_of_getElem? (i := 0) rfl)
  have nextTaken : "nextNodeIds" ∈ (schemaOf kind initial shared own).fields.map Field.key :=
    taken _ (List.mem_of_getElem? (i := 3) rfl)
  have placeTaken : "position" ∈ (schemaOf kind initial shared own).fields.map Field.key :=
    taken _ (List.mem_of_getElem? (i := 5) rfl)
  refine entries_read returns _ ?_ ?_
  · refine Restores.carries_put (Restores.carries_moved ?_ "position" _ placeAlike) "nextNodeIds" _ nextAlike
    refine Restores.carries_moved ?_ "kind" _ (kind_alike returns)
    exact Restores.carries_put ((schemaOf kind initial shared own).written_carries node returns.distinct) "nodeId" _ idAlike
  · rw [Schema.foreign_put _ _ _ _ nextTaken, Schema.foreign_put _ _ _ _ placeTaken, Schema.foreign_without _ _ _ placeTaken,
      Schema.foreign_put _ _ _ _ kindTaken, Schema.foreign_without _ _ _ kindTaken, Schema.foreign_put _ _ _ _ idTaken]

end NodeOf

namespace VisualGraph

-- A node with a name is read back where the edges give its successors.
theorem node_read (kind : Kind) (node : Node) (recorded : Node.Recorded kind node) (same : node.kind = kind)
    (edges : List (String × String)) (named : node.id ≠ "") (linked : successors edges node.id = node.next)
    (index : Nat) (state : StoryData.Loaded) :
    addNode edges index state (writeNode node) = .ok { state with nodes := state.nodes ++ [node] } := by
  cases recorded with
  | intro initial shared own inner wrap returns writes reads =>
      have read : Node.readAs kind (.obj (recordFields kind edges (outerFields (inner.mapBody wrap)
          (Json.without "position" (Json.without "kind"
            ((NodeOf.schemaOf kind initial shared own).entriesOf inner)))))) = .ok (inner.mapBody wrap) := by
        rw [record_put_together kind edges _ _ named linked, reads]
        exact congrArg (fun outcome => outcome.map fun read => read.mapBody wrap) (NodeOf.redrawn_record_read returns)
      rw [node_written _ _ writes, add_node_entry, entry, kind_written, same]
      change (StoryData.settle (Node.readAs kind _)).map _ = _
      rw [read]
      rfl

theorem nodes_read (nodes : List Node) (edges : List (String × String))
    (each : ∀ node ∈ nodes, ∀ index state,
      addNode edges index state (writeNode node) = .ok { state with nodes := state.nodes ++ [node] })
    (index : Nat) (state : StoryData.Loaded) :
    addNodes edges index state (nodes.map writeNode) = .ok { state with nodes := state.nodes ++ nodes } := by
  induction nodes generalizing index state with
  | nil => rw [List.append_nil]; rfl
  | cons node rest ih =>
      rw [List.map_cons, addNodes, each node List.mem_cons_self]
      change addNodes edges (index + 1) { state with nodes := state.nodes ++ [node] } (rest.map writeNode) = _
      rw [ih fun other member => each other (List.mem_cons_of_mem _ member), List.append_assoc, List.singleton_append]

-- The fields of a written document.
def partsOf (graph : Graph) : Json.Fields := [
  ("nodes", .arr (graph.nodes.map writeNode)),
  ("edges", .arr (graph.nodes.flatMap fun node => writeEdges node.id 0 node.next)),
  ("variables", VariableTable.write graph.table),
  ("startNodeId", graph.start.elim .null .str),
  ("version", .str graph.writtenVersion)]

variable (graph : Graph)

theorem detected : Format.detect? (write graph) = some .visualGraph :=
  rfl

theorem nothing_missing : (["nodes", "edges"].filter fun name => !isList (Json.lookup? name (partsOf graph))) = [] :=
  rfl

theorem table_found : StoryData.tableIn "variables" (partsOf graph) =
    .ok ((graph.table.filter fun entry => entry.name ≠ "").map Variable.settled) := by
  have found : Json.get "variables" (partsOf graph) = VariableTable.write graph.table := rfl
  rw [StoryData.tableIn, found]
  cases graph.table with
  | nil => rfl
  | cons entry rest => exact VariableTable.written_read (entry :: rest)

theorem start_found : StoryData.startOf (partsOf graph) =
    .ok (if graph.startName = "" then none else some graph.startName) := by
  have found : Json.get "startNodeId" (partsOf graph) = graph.start.elim .null .str := rfl
  rw [StoryData.startOf, found, Graph.startName]
  cases graph.start with
  | none => rfl
  | some start =>
      by_cases unset : start = ""
      · rw [unset]
        rfl
      · have named : (Json.str start).isTrue = true := decide_eq_true unset
        simp only [Option.elim_some, Option.getD_some, named, if_true, if_neg unset]
        rfl

theorem version_found : StoryData.versionOf (partsOf graph) = graph.writtenVersion := by
  have found : Json.get "version" (partsOf graph) = .str graph.writtenVersion := rfl
  rw [StoryData.versionOf, found]
  by_cases unset : graph.writtenVersion = ""
  · exact absurd unset (Graph.written_version_filled graph)
  · have named : (Json.str graph.writtenVersion).isTrue = true := decide_eq_true unset
    rw [Json.orElse, if_pos named]
    rfl

end VisualGraph

theorem visual_graph_returns (document : Json) (graph : Graph) (read : Graph.schema.read document = .ok graph)
    (finite : ∀ node ∈ graph.nodes, node.FiniteParts) (named : "" ∉ graph.ids) (distinct : graph.ids.Nodup)
    (linked : ∀ node ∈ graph.nodes, node.next.Nodup ∧ "" ∉ node.next) (template : Attempt Json) :
    Graph.load (VisualGraph.write graph) none template = .ok graph.redrawn := by
  have edges : (VisualGraph.itemsOf (Json.get "edges" (VisualGraph.partsOf graph))).filterMap VisualGraph.edge? =
      graph.nodes.flatMap Interchange.linksOf := VisualGraph.written_edges_read graph.nodes named
  have each : ∀ node ∈ graph.nodes, ∀ index state,
      VisualGraph.addNode (graph.nodes.flatMap Interchange.linksOf) index state (VisualGraph.writeNode node) =
        .ok { state with nodes := state.nodes ++ [node] } := by
    intro node member
    obtain ⟨kind, raw, same⟩ := Graph.nodes_read document graph read node member
    obtain ⟨own, recorded⟩ := Node.recorded kind raw node same (finite node member)
    have filled : node.id ≠ "" := fun empty => named (empty ▸ List.mem_map_of_mem member)
    exact VisualGraph.node_read kind node recorded own _ filled
      (VisualGraph.successors_written graph.nodes distinct node member (linked node member).1 (linked node member).2)
  rw [Graph.load, Option.none_or, VisualGraph.detected]
  change VisualGraph.load (.obj (VisualGraph.partsOf graph)) = _
  simp only [VisualGraph.load, VisualGraph.nothing_missing, edges]
  refine (attempt_bind_ok _ _ _).mpr ⟨_, VisualGraph.nodes_read graph.nodes _ each 0 {}, ?_⟩
  refine (attempt_bind_ok _ _ _).mpr ⟨_, VisualGraph.table_found graph, ?_⟩
  refine (attempt_bind_ok _ _ _).mpr ⟨_, VisualGraph.start_found graph, ?_⟩
  rw [VisualGraph.version_found]
  rfl

namespace VisualGraph

-- A choice that comes after the tip it leads to, with a field that no kind models and a link to no node.
def sketchDocument : Json :=
  .obj [
    ("nodes", .arr [
      .obj [("kind", .str "tip"), ("nodeId", .str "t"), ("position", .obj [("x", .int 3)]), ("note", .int 7)],
      .obj [("kind", .str "choice"), ("nodeId", .str "c"), ("choiceText", .str "去"),
        ("nextNodeIds", .arr [.str "t", .str "lost"])]]),
    ("variables", .arr [.obj [("name", .str "coin")], .obj [("name", .str "")]]),
    ("startNodeId", .str "c")]

def sketch : Graph where
  nodes := [
    ⟨{ id := "t", position := { x := Decimal.Double.ofInt 3 }, extras := [("note", .int 7)] }, .tip {}⟩,
    ⟨{ id := "c", next := ["t", "lost"] }, .choice { text := "去" }⟩]
  table := [{ name := "coin" }, { name := "" }]
  start := some "c"

theorem sketch_redrawn : Graph.load (write sketch) none (.ok (.arr [])) = .ok sketch.redrawn := by
  have finite : ∀ node ∈ sketch.nodes, node.FiniteParts := by
    intro node member
    rcases List.mem_pair.mp member with rfl | rfl <;> exact Node.finite_extras_suffice _ rfl (by decide)
  have linked : ∀ node ∈ sketch.nodes, node.next.Nodup ∧ "" ∉ node.next := by
    intro node member
    rcases List.mem_pair.mp member with rfl | rfl <;> decide
  exact visual_graph_returns sketchDocument sketch rfl finite (by decide) (by decide) linked (.ok (.arr []))

def extrasAfter (graph : Graph) : Attempt (List Json.Fields) := do
  let again ← Graph.load (write graph) none (.ok (.arr []))
  return again.nodes.map fun node => node.header.extras

theorem boundless_extra_nulled : Graph.schema.read StoryData.boundlessDocument = .ok StoryData.boundless ∧
    extrasAfter StoryData.boundless = .ok [[("is_deadpoint", .null)]] :=
  ⟨rfl, rfl⟩

end VisualGraph

end TaggedStory
