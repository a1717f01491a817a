import Mathlib.Data.List.Nodup
import TaggedStory.Proofs.Decimal.Whole
import TaggedStory.Proofs.Document.Exporting
import TaggedStory.Proofs.Document.VisualGraph
/-!
The ids of written links. An id ends in the place of the link among those of its node, behind a low line, and no digit is a
low line: whatever signs the id of a node has, its links can be told from those of all other nodes.
-/
set_option autoImplicit false

namespace TaggedStory

open Text Decimal

theorem edge_id_injective (source other : String) (place otherPlace : Nat)
    (same : Interchange.edgeId source place = Interchange.edgeId other otherPlace) : source = other ∧ place = otherPlace := by
  have letters := congrArg String.toList same
  simp only [Interchange.edgeId, String.toList_append, String.toList_ofList, List.append_assoc] at letters
  have turned := congrArg List.reverse (List.append_cancel_left letters)
  simp only [List.reverse_append, List.append_assoc] at turned
  have digits (n : Nat) : ∀ c ∈ (natText n).reverse, c.isDigit = true :=
    fun c member => nat_text_digits n c (List.mem_reverse.mp member)
  have line (name : List Char) : ∀ c ∈ ("_".toList.reverse ++ name).head?, c.isDigit = false := by
    rintro c ⟨⟩
    rfl
  obtain ⟨places, sources⟩ :=
    front_unique Char.isDigit _ _ _ _ (digits place) (digits otherPlace) (line _) (line _) turned
  refine ⟨?_, nat_text_injective _ _ (List.reverse_injective places)⟩
  exact String.toList_injective (List.reverse_injective (List.append_cancel_left sources))

-- The ids of all links of a graph, node by node.
def Graph.edgeIds (graph : Graph) : List String :=
  graph.nodes.flatMap fun node => (List.range node.next.length).map (Interchange.edgeId node.id)

theorem Graph.edge_ids_nodup (graph : Graph) (distinct : graph.ids.Nodup) : graph.edgeIds.Nodup := by
  rw [edgeIds, List.nodup_flatMap]
  refine ⟨fun node _ => ?_, ?_⟩
  · exact List.nodup_range.map fun place other same => (edge_id_injective _ _ _ _ same).2
  · refine (List.pairwise_map.mp distinct).imp fun {node other} apart => ?_
    intro id first second
    obtain ⟨place, _, rfl⟩ := List.mem_map.mp first
    obtain ⟨otherPlace, _, same⟩ := List.mem_map.mp second
    exact apart (edge_id_injective _ _ _ _ same).1.symm

section Documents

-- What the items of a list in a document have under a key.
def fieldsOf (list key : String) (document : Json) : List Json :=
  (VisualGraph.itemsOf ((document.field? list).getD .null)).map fun item => (item.field? key).getD .null

-- Items that have under a key the ids of their places give these ids in turn.
theorem ids_of_items (item : Nat → String → Json) (key source : String)
    (each : ∀ place target, (item place target).field? key = some (.str (Interchange.edgeId source place))) (targets : List String) :
    ((targets.zipIdx 0).map fun place => item place.2 place.1).map (fun item => (item.field? key).getD .null) =
      ((List.range targets.length).map (Interchange.edgeId source)).map .str := by
  rw [List.range_eq_range', ← List.zipIdx_map_snd 0 targets, List.map_map, List.map_map, List.map_map]
  exact List.map_congr_left fun place _ => by rw [Function.comp_apply, each]; rfl

variable (graph : Graph)

theorem visual_edges_named : fieldsOf "edges" "id" (VisualGraph.write graph) = graph.edgeIds.map .str := by
  change (graph.nodes.flatMap fun node => VisualGraph.writeEdges node.id 0 node.next).map _ = _
  rw [List.map_flatMap, Graph.edgeIds, List.map_flatMap]
  refine List.flatMap_congr fun node _ => ?_
  rw [VisualGraph.edges_in_place, ids_of_items _ _ node.id fun _ _ => rfl]

theorem interchange_links_named (document : Json) (written : Interchange.write graph = .ok document) :
    fieldsOf "associations" "uuid" document = graph.edgeIds.map .str := by
  obtain ⟨entities, _, rfl⟩ := (attempt_map_ok _ _ _).mp written
  have links : (graph.nodes.flatMap fun node => Interchange.writeLinks node.id 0 node.next).map
      (fun item => (item.field? "uuid").getD .null) = graph.edgeIds.map .str := by
    rw [List.map_flatMap, Graph.edgeIds, List.map_flatMap]
    refine List.flatMap_congr fun node _ => ?_
    rw [Interchange.links_in_place, ids_of_items _ _ node.id fun _ _ => rfl]
  rw [← links]
  dsimp only
  split <;> rfl

end Documents

theorem written_edge_ids (graph : Graph) (distinct : graph.ids.Nodup) :
    (fieldsOf "edges" "id" (VisualGraph.write graph)).Nodup ∧
    fieldsOf "edges" "id" (VisualGraph.write graph) = graph.edgeIds.map .str ∧
    ((∃ document, Interchange.write graph = .ok document) ↔ ∀ node ∈ graph.nodes, node.IsTimed) ∧
    ∀ document, Interchange.write graph = .ok document →
      (fieldsOf "associations" "uuid" document).Nodup ∧
      fieldsOf "associations" "uuid" document = fieldsOf "edges" "id" (VisualGraph.write graph) := by
  have apart : (graph.edgeIds.map Json.str).Nodup :=
    (graph.edge_ids_nodup distinct).map fun id other same => Json.str.inj same
  have edges := visual_edges_named graph
  refine ⟨edges ▸ apart, edges, Interchange.write_returns graph, fun document written => ?_⟩
  have links := interchange_links_named graph document written
  exact ⟨links ▸ apart, links.trans edges.symm⟩

-- Ids that look like those of links of another node, one of them empty, and a target that is named twice.
def lookalikes : Graph where
  nodes := [
    ⟨{ id := "a", next := ["b", "b", "a_1"] }, .tip {}⟩,
    ⟨{ id := "a_1", next := ["b"] }, .tip {}⟩,
    ⟨{ id := "a_1_", next := ["a"] }, .tip {}⟩,
    ⟨{ next := ["a"] }, .tip {}⟩]

theorem lookalikes_apart : lookalikes.ids.Nodup ∧
    ∃ document, Interchange.write lookalikes = .ok document ∧ (fieldsOf "associations" "uuid" document).Nodup ∧
      fieldsOf "associations" "uuid" document = [.str "edge_a_0", .str "edge_a_1", .str "edge_a_2", .str "edge_a_1_0",
        .str "edge_a_1__0", .str "edge__0"] := by
  have distinct : lookalikes.ids.Nodup := by decide
  obtain ⟨_, listed, returns, links⟩ := written_edge_ids lookalikes distinct
  have timed : ∀ node ∈ lookalikes.nodes, node.IsTimed := by
    intro node member video same _
    simp only [lookalikes, List.mem_cons, List.not_mem_nil, or_false] at member
    rcases member with rfl | rfl | rfl | rfl <;> cases same
  obtain ⟨document, written⟩ := returns.mpr timed
  obtain ⟨apart, same⟩ := links document written
  exact ⟨distinct, document, written, apart, same.trans listed⟩

end TaggedStory
