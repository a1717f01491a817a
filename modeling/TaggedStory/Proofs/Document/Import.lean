import TaggedStory.Proofs.Document.WellFormed
/-!
Importing an interchange document: what each pass keeps, and that the graph is well formed.
-/
set_option autoImplicit false

namespace TaggedStory

namespace Network

theorem resolve_each_answers (net : Network) (ids : List String) (memory : Memory) (exact : memory.Exact net)
    (id : String) (asked : id ∈ ids) :
    (Interchange.successorsOf (net.resolveEach memory ids).1 id).Nodup ∧
      ∀ target, target ∈ Interchange.successorsOf (net.resolveEach memory ids).1 id ↔ net.Reaches id target := by
  induction ids generalizing memory with
  | nil => simp at asked
  | cons head rest ih =>
      obtain ⟨unique, complete, onward⟩ := resolve_exact net head memory exact
      by_cases own : head = id
      · subst own
        simpa [Interchange.successorsOf, resolveEach] using ⟨unique, complete⟩
      · have later := ih (net.resolve head memory).2 onward ((List.mem_cons.mp asked).resolve_left (Ne.symm own))
        simpa [Interchange.successorsOf, resolveEach, own] using later

theorem reaches_kept (net : Network) (id target : String) (path : net.Reaches id target) :
    net.isEntity target = true ∧ net.isBypassed target = false := by
  induction path with
  | link _ present kept => exact ⟨present, kept⟩
  | through _ _ _ _ ih => exact ih

end Network

namespace Interchange

open Decimal

variable (placement : Placement) (successors : List (String × List String))

-- What an import fixes about a node before its text is read.
def outline (node : Node) : String × List String := (node.id, node.next)

-- One entity adds one node, under its own id and without extras.
theorem add_node_shape (state next : Import) (entity : Entity) (done : addNode placement successors state entity = .ok next) :
    ∃ (node : Node) (position : Position), node.header.bare = (headerOf entity position).bare ∧
      next.nodes = state.nodes ++ [node.withNext (successorsOf successors entity.uuid)] := by
  rw [addNode, attempt_bind_ok] at done
  obtain ⟨position, _, done⟩ := done
  split at done
  · refine ⟨_, position, Node.of_image_keeps entity.imagePath (headerOf entity position), ?_⟩
    rw [← (attempt_pure_ok _ _).mp done]
  · rw [attempt_bind_ok] at done
    obtain ⟨parsed, read, done⟩ := done
    rw [attempt_bind_ok] at done
    obtain ⟨collector, _, done⟩ := done
    refine ⟨parsed.node, position, Node.parse_as_keeps _ _ _ parsed read, ?_⟩
    rw [← (attempt_pure_ok _ _).mp done]

theorem add_node_outline (state next : Import) (entity : Entity)
    (done : addNode placement successors state entity = .ok next) :
    next.nodes.map outline = state.nodes.map outline ++ [(entity.uuid, successorsOf successors entity.uuid)] := by
  obtain ⟨node, position, same, shape⟩ := add_node_shape placement successors state next entity done
  have id : node.header.id = entity.uuid := congrArg Header.id same
  have own : outline (node.withNext (successorsOf successors entity.uuid)) =
      (entity.uuid, successorsOf successors entity.uuid) := by
    simp [outline, Node.withNext, NodeOf.mapHeader, Node.id, Node.next, id]
  rw [shape, List.map_append, List.map_singleton, own]

theorem add_nodes_outline (entities : List Entity) (state result : Import)
    (done : entities.foldlM (addNode placement successors) state = .ok result) :
    result.nodes.map outline =
      state.nodes.map outline ++ entities.map fun entity => (entity.uuid, successorsOf successors entity.uuid) := by
  induction entities generalizing state with
  | nil =>
      rw [List.foldlM_nil, attempt_pure_ok] at done
      simp [done]
  | cons entity rest ih =>
      rw [List.foldlM_cons, attempt_bind_ok] at done
      obtain ⟨next, added, done⟩ := done
      rw [ih next done, add_node_outline placement successors state next entity added, List.map_cons,
        List.append_assoc, List.singleton_append]

theorem higher_start (entities : List Entity) (best : Number × Option String) (id : String)
    (highest : (entities.foldl higher best).2 = some id) : best.2 = some id ∨ ∃ entity ∈ entities, entity.uuid = id := by
  induction entities generalizing best with
  | nil => exact .inl highest
  | cons entity rest ih =>
      rcases ih (higher best entity) highest with now | ⟨other, member, same⟩
      · unfold higher at now
        split at now
        · split at now
          · exact .inr ⟨entity, List.mem_cons_self, Option.some.inj now⟩
          · exact .inl now
        · exact .inl now
      · exact .inr ⟨other, List.mem_cons_of_mem _ member, same⟩

theorem start_retained (entities : List Entity) (id : String) (begins : start? entities = some id) :
    id ∈ (retained entities).map (·.uuid) := by
  simp only [start?] at begins
  split at begins
  · rename_i entity found
    rw [← Option.some.inj begins]
    exact List.mem_map_of_mem (List.mem_of_find?_eq_some found)
  · rcases higher_start _ _ id begins with unset | ⟨entity, member, same⟩
    · cases unset
    · exact same ▸ List.mem_map_of_mem member

theorem retained_ids (entities : List Entity) :
    (retained entities).map (·.uuid) = (entities.map (·.uuid)).filter fun id => !(skipped entities).contains id := by
  rw [retained, List.filter_map]
  rfl

-- The parts that a finished import is put together from.
structure Steps (document : Json) (template : Attempt Json) (graph : Graph) (content : Content) (imported : Import) : Prop where
  read : readContent document = .ok content
  placed : ∃ placement, (retained content.entities).foldlM
    (addNode placement ((network content).resolveAll {}).1) ⟨[], {}, 0⟩ = .ok imported
  nodes : graph.nodes = imported.nodes.map (Graph.settleVideo imported.nodes)
  start : graph.start = start? content.entities
  skipped : graph.diagnostics.skipped = (content.entities.map (·.uuid)).filter (skipped content.entities).contains
  cuts : graph.diagnostics.cyclicBypassCount = ((network content).resolveAll {}).2.cyclicBypassCount
  table : ∃ explicit given, VariableTable.read (tableIn (match document with | .obj entries => entries | _ => [])) = .ok explicit ∧
    templateTable explicit template = .ok given ∧ graph.table = (Catalog.merge explicit imported.collector.toVariables given).1

theorem load_steps (document : Json) (template : Attempt Json) (graph : Graph)
    (loaded : load document template = .ok graph) : ∃ content imported, Steps document template graph content imported := by
  unfold load at loaded
  rw [attempt_bind_ok] at loaded
  obtain ⟨content, read, loaded⟩ := loaded
  rw [attempt_bind_ok] at loaded
  obtain ⟨placement, _, loaded⟩ := loaded
  dsimp only at loaded
  rw [attempt_bind_ok] at loaded
  obtain ⟨imported, placed, loaded⟩ := loaded
  rw [attempt_bind_ok] at loaded
  obtain ⟨explicit, known, loaded⟩ := loaded
  rw [attempt_bind_ok] at loaded
  obtain ⟨given, supplied, loaded⟩ := loaded
  rw [attempt_pure_ok] at loaded
  refine ⟨content, imported, read, ⟨placement, placed⟩, ?_, ?_, ?_, ?_, explicit, given, known, supplied, ?_⟩ <;>
    rw [← loaded] <;> rfl

theorem steps_outline (document : Json) {template : Attempt Json} (graph : Graph) (content : Content) (imported : Import)
    (steps : Steps document template graph content imported) :
    graph.nodes.map outline = (retained content.entities).map fun entity =>
      (entity.uuid, successorsOf ((network content).resolveAll {}).1 entity.uuid) := by
  obtain ⟨placement, placed⟩ := steps.placed
  have settled : outline ∘ Graph.settleVideo imported.nodes = outline := by
    funext node
    simp only [Function.comp_apply, outline, Node.id, Node.next, Graph.settle_video_heading]
  rw [steps.nodes, List.map_map, settled, add_nodes_outline _ _ _ _ _ placed, List.map_nil, List.nil_append]

theorem steps_ids (document : Json) {template : Attempt Json} (graph : Graph) (content : Content) (imported : Import)
    (steps : Steps document template graph content imported) : graph.ids = (retained content.entities).map (·.uuid) := by
  have outlines := congrArg (List.map Prod.fst) (steps_outline document graph content imported steps)
  simpa [List.map_map, Function.comp_def, outline, Graph.ids] using outlines

theorem load_formed (document : Json) (template : Attempt Json) (graph : Graph)
    (loaded : load document template = .ok graph) :
    graph.WellFormed (readableIds (entityItems document)).dedup := by
  obtain ⟨content, imported, steps⟩ := load_steps document template graph loaded
  have entities := content_ids document content steps.read
  have ids := steps_ids document graph content imported steps
  have kept : graph.ids = (content.entities.map (·.uuid)).filter fun id => !graph.diagnostics.skipped.contains id := by
    rw [ids, retained_ids, steps.skipped]
    refine List.filter_congr fun id member => ?_
    simp [member]
  have distinct : (content.entities.map (·.uuid)).Nodup := entities ▸ List.nodup_dedup _
  have distinctIds : graph.ids.Nodup := kept ▸ distinct.filter _
  refine ⟨entities ▸ kept, ?_, ?_, distinctIds, ?_, ?_, ?_⟩
  · rw [← entities, ids, retained_ids, steps.skipped]
    exact List.filter_append_perm _ _
  · intro member
    rw [kept, entities] at member
    exact readable_ids_named _ (List.mem_dedup.mp (List.mem_of_mem_filter member))
  · intro node member
    have outlined : outline node ∈ graph.nodes.map outline := List.mem_map_of_mem member
    rw [steps_outline document graph content imported steps] at outlined
    obtain ⟨entity, present, same⟩ := List.mem_map.mp outlined
    have next : node.next = successorsOf ((network content).resolveAll {}).1 entity.uuid :=
      (congrArg Prod.snd same).symm
    have asked : entity.uuid ∈ (network content).entities :=
      List.mem_eraseDups.mpr (List.mem_map_of_mem (List.mem_of_mem_filter present))
    obtain ⟨unique, complete⟩ := Network.resolve_each_answers (network content) _ {}
      (Memory.exact_empty _) entity.uuid asked
    rw [next]
    refine ⟨unique, fun target linked => ?_⟩
    obtain ⟨isEntity, isKept⟩ := Network.reaches_kept _ _ _ ((complete target).mp linked)
    rw [ids, retained_ids]
    refine List.mem_filter.mpr ⟨(Network.is_entity_build _ _ _ _).mp isEntity, ?_⟩
    simpa [network, Network.isBypassed, Network.build] using isKept
  · intro id begins
    rw [steps.start] at begins
    exact ids ▸ start_retained content.entities id begins
  · intro node member video body
    have settledIds : (imported.nodes.map Node.id).Nodup := by
      have same : graph.ids = imported.nodes.map Node.id := by
        rw [Graph.ids, steps.nodes, List.map_map]
        exact List.map_congr_left fun node _ => by
          simp only [Function.comp_apply, Node.id, Graph.settle_video_heading]
      exact same ▸ distinctIds
    rw [steps.nodes] at member ⊢
    exact Graph.settled_auto_play imported.nodes settledIds node member video body

theorem load_well_formed (document : Json) (template : Attempt Json) (graph : Graph)
    (loaded : load document template = .ok graph) :
    graph.WellFormed (readableIds (entityItems document)).dedup ∧
      ∀ options, ∀ flaw ∈ graph.flaws options, ¬ flaw.IsLoose := by
  have formed := load_formed document template graph loaded
  exact ⟨formed, fun options flaw member => Graph.well_formed_not_loose _ graph formed options flaw member⟩

def entityItem (uuid : Json) (type text : String) : Json :=
  .obj [("uuid", uuid), ("type", .str type), ("text", .str text), ("location", .arr [.int 0, .int 0])]

-- A text written twice, a section with a numeric id between two nodes, and a link from that section to itself.
def bypassedDocument : Json :=
  .obj [
    ("entities", .arr [
      entityItem (.str "a") textEntity "old", entityItem (.int 7) sectionEntity "",
      entityItem (.str "b") textEntity "[选项]b", entityItem (.str "a") textEntity "new"]),
    ("associations", .arr [
      .obj [("source", .str "a"), ("target", .int 7)], .obj [("source", .int 7), ("target", .int 7)],
      .obj [("source", .int 7), ("target", .str "b")]])]

theorem bypassed_document_well_formed :
    ∃ graph, load bypassedDocument (.ok (.arr [])) = .ok graph ∧
      graph.WellFormed (readableIds (entityItems bypassedDocument)).dedup ∧
      ∀ options, ∀ flaw ∈ graph.flaws options, ¬ flaw.IsLoose := by
  have succeeds : (load bypassedDocument (.ok (.arr []))).isOk = true := by decide +kernel
  cases loaded : load bypassedDocument (.ok (.arr [])) with
  | error fault =>
    rw [loaded] at succeeds
    cases succeeds
  | ok graph => exact ⟨graph, rfl, load_well_formed bypassedDocument (.ok (.arr [])) graph loaded⟩

end Interchange

end TaggedStory
