import TaggedStory.Document.Interchange.Export
import TaggedStory.Proofs.Document.Import
/-!
What an exported document holds when it is read again: an entity for each node, in the same order, and
the successors of each as links.
-/
set_option autoImplicit false

namespace TaggedStory.Interchange

open Text Decimal

section Entities

variable (graph : Graph)

-- The text under which a node is exported.
def spoken (node : Node) : String :=
  ((node.text (graph.isStart node)).toOption).getD ""

def entityOf (node : Node) (type text path : String) : Entity :=
  { uuid := node.id, text := text, location := [.float node.header.position.y, .float node.header.position.x]
    type := type, size := [.int 200, .int 76], color := Entity.listOf (entityColor node), path := path
    extras := [("sizeAdjust", .str "auto")] }

-- The entity as which a node comes back.
def exported (node : Node) : Entity :=
  match imageOf? node with
  | some path => entityOf node imageEntity "" path
  | none => entityOf node textEntity (spoken graph node) ""

theorem exported_uuid (node : Node) : (exported graph node).uuid = node.id := by
  rw [exported]
  cases imageOf? node <;> rfl

theorem exported_ids (nodes : List Node) : (nodes.map (exported graph)).map (·.uuid) = nodes.map Node.id := by
  rw [List.map_map]
  exact List.map_congr_left fun node _ => exported_uuid graph node

theorem written_entity_read (node : Node) (item : Json) (written : writeEntity (graph.isStart node) node = .ok item) :
    node.text (graph.isStart node) = .ok (spoken graph node) ∧
      ∀ entities : List Entity, node.id ≠ "" → node.id ∉ entities.map (·.uuid) →
        addEntity entities item = entities ++ [exported graph node] := by
  obtain ⟨text, speaks, rfl⟩ := (attempt_map_ok _ _ _).mp written
  have same : text = spoken graph node := by rw [spoken, speaks]; rfl
  refine ⟨same ▸ speaks, fun entities named fresh => ?_⟩
  have others : entities.filter (fun other => other.uuid ≠ node.id) = entities := by
    refine List.filter_eq_self.mpr fun other member => decide_eq_true fun clash => ?_
    exact fresh (clash ▸ List.mem_map_of_mem member)
  have present : (Json.str node.id).isTrue = true := decide_eq_true named
  rw [same, exported]
  cases imageOf? node with
  | some path =>
      change (if (Json.str node.id).isTrue = true then
        entities.filter (fun other => other.uuid ≠ node.id) ++ [entityOf node imageEntity "" path] else entities) = _
      rw [if_pos present, others]
  | none =>
      change (if (Json.str node.id).isTrue = true then
        entities.filter (fun other => other.uuid ≠ node.id) ++ [entityOf node textEntity (spoken graph node) ""]
        else entities) = _
      rw [if_pos present, others]

theorem written_entities_read (nodes : List Node) (items : List Json) (written : writeEntities graph nodes = .ok items)
    (named : "" ∉ nodes.map Node.id) (distinct : (nodes.map Node.id).Nodup) :
    (∀ node ∈ nodes, node.text (graph.isStart node) = .ok (spoken graph node)) ∧
      ∀ entities : List Entity, (∀ id ∈ nodes.map Node.id, id ∉ entities.map (·.uuid)) →
        items.foldl addEntity entities = entities ++ nodes.map (exported graph) := by
  induction nodes generalizing items with
  | nil =>
      rw [writeEntities, Except.ok.injEq] at written
      rw [← written]
      exact ⟨by simp, fun entities _ => (List.append_nil entities).symm⟩
  | cons node rest ih =>
      rw [writeEntities, attempt_bind_ok] at written
      obtain ⟨item, first, written⟩ := written
      rw [attempt_bind_ok] at written
      obtain ⟨others, later, written⟩ := written
      rw [← (attempt_pure_ok _ _).mp written]
      rw [List.map_cons, List.mem_cons, not_or] at named
      rw [List.map_cons, List.nodup_cons] at distinct
      obtain ⟨speaks, added⟩ := written_entity_read graph node item first
      obtain ⟨restSpeaks, restAdded⟩ := ih others later named.2 distinct.2
      refine ⟨List.forall_mem_cons.mpr ⟨speaks, restSpeaks⟩, fun entities fresh => ?_⟩
      have further : ∀ id ∈ rest.map Node.id, id ∉ (entities ++ [exported graph node]).map (·.uuid) := by
        intro id member
        rw [List.map_append, List.mem_append, not_or, List.map_singleton, List.mem_singleton, exported_uuid]
        exact ⟨fresh id (List.mem_cons_of_mem _ member), fun same => distinct.1 (same ▸ member)⟩
      rw [List.foldl_cons, added entities (Ne.symm named.1) (fresh _ List.mem_cons_self), restAdded _ further,
        List.append_assoc, List.map_cons, List.singleton_append]

end Entities

section Links

def ends (link : Association) : String × String :=
  (link.source, link.target)

-- The links of a node to the ids that name anything.
def linksOf (node : Node) : List (String × String) :=
  (node.next.filter (· ≠ "")).map fun target => (node.id, target)

-- A link to a target in its place among the links of a source.
def linkItem (source : String) (index : Nat) (target : String) : Json :=
  .obj [
    ("source", .str source),
    ("target", .str target),
    ("text", .str ""),
    ("uuid", .str (edgeId source index)),
    ("type", .str lineEdge),
    ("color", noColor),
    ("sourceRectRate", middle),
    ("targetRectRate", middle)]

theorem links_in_place (source : String) (index : Nat) (targets : List String) :
    writeLinks source index targets = (targets.zipIdx index).map fun place => linkItem source place.2 place.1 := by
  induction targets generalizing index with
  | nil => rfl
  | cons target rest ih =>
      rw [writeLinks, ih, List.zipIdx_cons]
      rfl

-- The ends of a link that can be told: a target without a name is none.
def told (source target : String) : Option (String × String) :=
  if target = "" then none else some (source, target)

-- What is read of items that stand for the targets in turn, each item for its target or for nothing.
theorem ends_of_items {α : Type} (item : Nat → String → Json) (read : Json → Option α) (ends : α → String × String)
    (source : String) (each : ∀ index target, (read (item index target)).map ends = told source target)
    (index : Nat) (targets : List String) :
    (((targets.zipIdx index).map fun place => item place.2 place.1).filterMap read).map ends =
      (targets.filter (· ≠ "")).map fun target => (source, target) := by
  have alone : (fun place : String × Nat => (read (item place.2 place.1)).map ends) = told source ∘ Prod.fst :=
    funext fun place => each place.2 place.1
  rw [List.filterMap_map, List.map_filterMap, ← List.filterMap_eq_map, List.filterMap_filter]
  change (targets.zipIdx index).filterMap (fun place => (read (item place.2 place.1)).map ends) = _
  rw [alone, ← List.filterMap_map, List.zipIdx_map_fst]
  refine List.filterMap_congr fun target _ => ?_
  by_cases empty : target = "" <;> simp [told, empty]

theorem told_of_named (source target : String) (named : source ≠ "") :
    (if (Json.str source).isTrue && (Json.str target).isTrue then some (source, target) else none) = told source target := by
  have present : (Json.str source).isTrue = true := decide_eq_true named
  rw [present, Bool.true_and, told]
  by_cases empty : target = ""
  · subst empty
    rfl
  · have linked : (Json.str target).isTrue = true := decide_eq_true empty
    rw [linked, if_neg empty, if_pos rfl]

theorem link_item_read (source : String) (named : source ≠ "") (index : Nat) (target : String) :
    (readLink? (linkItem source index target)).map ends = told source target := by
  have read : readLink? (linkItem source index target) =
      if (Json.str source).isTrue && (Json.str target).isTrue then
        some { source := source, target := target, uuid := edgeId source index, extras :=
          [("color", noColor), ("sourceRectRate", middle), ("targetRectRate", middle)] }
      else none := rfl
  rw [read, ← told_of_named source target named]
  exact apply_ite (Option.map ends) _ _ _

theorem written_links_read (nodes : List Node) (named : "" ∉ nodes.map Node.id) :
    ((nodes.flatMap fun node => writeLinks node.id 0 node.next).filterMap readLink?).map ends = nodes.flatMap linksOf := by
  rw [List.filterMap_flatMap, List.map_flatMap]
  refine List.flatMap_congr fun node member => ?_
  have filled : node.id ≠ "" := fun empty => named (empty ▸ List.mem_map_of_mem member)
  rw [links_in_place, ends_of_items _ _ _ node.id (link_item_read node.id filled), linksOf]

end Links

-- The parts of an exported document.
structure Written (graph : Graph) (document : Json) (entries : Json.Fields) (content : Content) : Prop where
  shape : document = .obj entries
  read : readContent document = .ok content
  speaks : ∀ node ∈ graph.nodes, node.text (graph.isStart node) = .ok (spoken graph node)
  entities : content.entities = graph.nodes.map (exported graph)
  links : content.links.map ends = graph.nodes.flatMap linksOf
  table : Json.get "variables" entries = .null ∨ Json.get "variables" entries = VariableTable.write graph.table

theorem written_read (graph : Graph) (named : "" ∉ graph.ids) (distinct : graph.ids.Nodup) (document : Json)
    (written : write graph = .ok document) : ∃ entries content, Written graph document entries content := by
  obtain ⟨items, entities, rfl⟩ := (attempt_map_ok _ _ _).mp written
  obtain ⟨speaks, added⟩ := written_entities_read graph graph.nodes items entities named distinct
  have entitiesRead : items.foldl addEntity [] = graph.nodes.map (exported graph) := added [] (by simp)
  have linksRead := written_links_read graph.nodes named
  by_cases bare : graph.table.isEmpty = true
  · rw [if_pos bare]
    exact ⟨_, _, rfl, rfl, speaks, entitiesRead, linksRead, .inl rfl⟩
  · rw [if_neg bare]
    exact ⟨_, _, rfl, rfl, speaks, entitiesRead, linksRead, .inr rfl⟩

end TaggedStory.Interchange
