import TaggedStory.Proofs.Document.Entities
import TaggedStory.Proofs.Document.Entries
import TaggedStory.Proofs.Record.Overwriting
import TaggedStory.Proofs.Record.Restoring
import TaggedStory.Proofs.Story.Validated
/-!
In a document of nodes and edges the edges alone say what follows: the successors of a node are the targets of the edges that
leave its id, whatever its data, the other edges and the other nodes are.
-/
set_option autoImplicit false

namespace TaggedStory

namespace NodeOf

variable {B : Type} (kind : Kind) (initial : B) (shared own : List (Field B))

theorem header_keeps {β : Type} (field : Field Header) (view : Header → β) (keeps : field.Keeps view) :
    (field.lift (R := Header) (S := NodeOf B) (·.header) mapHeader).Keeps fun node => view node.header :=
  fun seen => Field.lift_upholds (keeps seen) fun _ onward node held => onward node.header held

-- The fields behind the header leave it as it is.
theorem behind_keep {β : Type} (view : Header → β) :
    ∀ field ∈ bodyFields shared ++ Kind.field (NodeOf B) kind :: bodyFields own, field.Keeps fun node => view node.header := by
  intro field member
  have body (fields : List (Field B)) (inside : field ∈ bodyFields fields) : field.Keeps fun node : NodeOf B => view node.header := by
    obtain ⟨inner, _, rfl⟩ := List.mem_map.mp inside
    exact Field.lift_keeps inner _ fun _ _ => rfl
  rcases List.mem_append.mp member with front | rest
  · exact body shared front
  · rcases List.mem_cons.mp rest with rfl | back
    · exact fun _ => kind_upholds kind
    · exact body own back

theorem held_read {β : Type} (view : Header → β) (front back : List (Field Header)) (field : Field Header)
    (listed : Header.fields = front ++ field :: back) (kept : ∀ other ∈ back, other.Keeps view)
    (unmoved : ∀ extras header, view { header with extras := extras } = view header)
    (entries : Json.Fields) (value : Json) (found : Json.lookup? field.key entries = some value) (seen : β)
    (sets : ∀ change, field.read value = .ok change → ∀ header, view (change header) = seen)
    (node : NodeOf B) (read : (schemaOf kind initial shared own).readFields entries = .ok node) : view node.header = seen := by
  have split : (schemaOf kind initial shared own).fields = front.map (Field.lift (·.header) mapHeader) ++
      field.lift (·.header) mapHeader :: (back.map (Field.lift (·.header) mapHeader) ++
        (bodyFields shared ++ Kind.field (NodeOf B) kind :: bodyFields own)) := by
    simp only [schemaOf, headerFields, listed, List.map_append, List.map_cons, List.append_assoc, List.cons_append]
  refine (schemaOf kind initial shared own).read_holds (fun node => view node.header) _ _ _ split ?_
    (fun extras node => unmoved extras node.header) entries value found seen ?_ node read
  · refine List.forall_mem_append.mpr ⟨fun other member => ?_, behind_keep kind shared own view⟩
    obtain ⟨inner, present, rfl⟩ := List.mem_map.mp member
    exact header_keeps inner view (kept inner present)
  · intro change done whole
    obtain ⟨inner, read, rfl⟩ := (attempt_map_ok _ _ _).mp done
    exact sets inner read whole.header

theorem outer_read (entries : Json.Fields) (id : String) (next : List String)
    (named : Json.lookup? "nodeId" entries = some (.str id)) (linked : Json.lookup? "nextNodeIds" entries = some (Json.ofTexts next))
    (node : NodeOf B) (read : (schemaOf kind initial shared own).readFields entries = .ok node) :
    node.header.id = id ∧ node.header.next = next := by
  constructor
  · refine held_read kind initial shared own Header.id [] _ _ rfl ?_ (fun _ _ => rfl) entries _ named id ?_ node read
    · simp only [List.forall_mem_cons]
      exact ⟨Field.of_keeps fun _ _ => rfl, Field.of_keeps fun _ _ => rfl, Field.of_keeps fun _ _ => rfl,
        Field.of_keeps fun _ _ => rfl, Field.of_keeps fun _ _ => rfl, List.forall_mem_nil _⟩
    · rintro change ⟨⟩ header
      rfl
  · refine held_read kind initial shared own Header.next (Header.fields.take 3) _ _ rfl ?_ (fun _ _ => rfl) entries _ linked
      next ?_ node read
    · simp only [List.forall_mem_cons]
      exact ⟨Field.of_keeps fun _ _ => rfl, Field.of_keeps fun _ _ => rfl, List.forall_mem_nil _⟩
    · intro change done header
      obtain ⟨texts, read, rfl⟩ := (attempt_map_ok _ _ _).mp done
      exact Except.ok.inj (read.symm.trans (Codec.texts_restored next))

-- The successors are one of the fields that are read.
theorem next_taken : "nextNodeIds" ∈ (schemaOf kind initial shared own).fields.map Field.key := by
  have own_field : (Header.fields.map Field.key)[3]? = some "nextNodeIds" := rfl
  have listed : "nextNodeIds" ∈ (headerFields (B := B)).map Field.key := by
    rw [headerFields, List.map_map]
    exact List.mem_of_getElem? own_field
  simp only [schemaOf, List.map_append, List.mem_append]
  exact .inl (.inl listed)

end NodeOf

namespace Node

variable (kind : Kind) (entries : Json.Fields)

-- What a node is called and what follows it, read from a record that says both.
theorem outer_read (id : String) (next : List String) (named : Json.lookup? "nodeId" entries = some (.str id))
    (linked : Json.lookup? "nextNodeIds" entries = some (Json.ofTexts next)) (node : Node)
    (read : Node.readAs kind (.obj entries) = .ok node) : node.id = id ∧ node.next = next := by
  cases kind with
  | video | choice | card | bgm | jump | task | tip =>
      simp only [readAs, attempt_map_ok] at read
      obtain ⟨inner, read, rfl⟩ := read
      exact NodeOf.outer_read _ _ _ _ entries id next named linked inner read

theorem read_overwritten (value : Json) (others : Json.Fields)
    (alike : Json.without "nextNodeIds" entries = Json.without "nextNodeIds" others) :
    Node.readAs kind (.obj (Json.put "nextNodeIds" value entries)) = Node.readAs kind (.obj (Json.put "nextNodeIds" value others)) := by
  cases kind with
  | video | choice | card | bgm | jump | task | tip =>
      exact congrArg (Except.map _)
        (Schema.read_overwritten "nextNodeIds" value entries others alike _ (NodeOf.next_taken _ _ _ _))

end Node

namespace VisualGraph

open StoryData (Loaded takeAll)

section Targets

-- The items of a document that may be edges.
def edgeItems (document : Json) : List Json :=
  itemsOf ((document.field? "edges").getD .null)

-- Where an edge with both ends leads, if it leaves this id.
def targetFrom? (id : String) : Json → Option String
  | .obj fields =>
      let source := Json.get "source" fields
      let target := Json.get "target" fields
      if source.isTrue ∧ target.isTrue ∧ source.text = id then some target.text else none
  | _ => none

def targetsFrom (id : String) (items : List Json) : List String :=
  items.filterMap (targetFrom? id)

theorem target_of_edge (id : String) (item : Json) :
    targetFrom? id item = (edge? item).bind fun edge => if edge.1 = id then some edge.2 else none := by
  cases item with
  | obj fields =>
      rw [targetFrom?, edge?]
      by_cases both : ((Json.get "source" fields).isTrue && (Json.get "target" fields).isTrue) = true
      · obtain ⟨source, target⟩ := Bool.and_eq_true_iff.mp both
        simp only [source, target, true_and, Bool.and_self, if_true, Option.bind_some]
      · rw [if_neg both, Option.bind_none, if_neg]
        exact fun ends => both (Bool.and_eq_true_iff.mpr ⟨ends.1, ends.2.1⟩)
  | _ => rfl

theorem successors_targets (items : List Json) (id : String) :
    successors (items.filterMap edge?) id = (targetsFrom id items).eraseDups := by
  rw [successors, targetsFrom]
  refine congrArg List.eraseDups ?_
  induction items with
  | nil => rfl
  | cons item rest ih =>
      have step := target_of_edge id item
      cases found : edge? item with
      | none =>
          rw [found, Option.bind_none] at step
          rw [List.filterMap_cons_none found, List.filterMap_cons_none step, ih]
      | some edge =>
          rw [found, Option.bind_some] at step
          rw [List.filterMap_cons_some found]
          by_cases own : edge.1 = id
          · rw [if_pos own] at step
            rw [List.filter_cons_of_pos (by simpa using own), List.map_cons, List.filterMap_cons_some step, ih]
          · rw [if_neg own] at step
            rw [List.filter_cons_of_neg (by simpa using own), List.filterMap_cons_none step, ih]

-- No edge leaves the empty id, since no value that counts as present is the empty text.
theorem no_targets_from_empty (items : List Json) : targetsFrom "" items = [] := by
  refine List.filterMap_eq_nil_iff.mpr fun item _ => ?_
  cases item with
  | obj fields => exact if_neg fun ends => Json.text_ne_empty _ ends.1 ends.2.2
  | _ => rfl

-- Neighbours that leave different ids may change places.
theorem targets_swapped (id : String) (front back : List Json) (item next : Json)
    (apart : ∀ edge other, edge? item = some edge → edge? next = some other → edge.1 ≠ other.1) :
    targetsFrom id (front ++ item :: next :: back) = targetsFrom id (front ++ next :: item :: back) := by
  have alone : targetFrom? id item = none ∨ targetFrom? id next = none := by
    rw [target_of_edge, target_of_edge]
    cases first : edge? item with
    | none => exact .inl rfl
    | some edge =>
        cases second : edge? next with
        | none => exact .inr rfl
        | some other =>
            by_cases own : edge.1 = id
            · exact .inr (if_neg fun same => apart edge other first second (own.trans same.symm))
            · exact .inl (if_neg own)
  rw [targetsFrom, targetsFrom, List.filterMap_append, List.filterMap_append]
  rcases alone with none | none
  · simp only [List.filterMap_cons, none]
  · simp only [List.filterMap_cons, none]

end Targets

section Links

variable (edges : List (String × String))

theorem record_named (kind : Kind) (fields : Json.Fields) :
    Json.lookup? "nodeId" (recordFields kind edges fields) = some (.str (idOf fields (dataOf fields))) := by
  simp only [recordFields]
  rw [Json.lookup_put, if_neg (by decide), Json.lookup_put, if_neg (by decide), Json.lookup_put, if_neg (by decide),
    Json.lookup_put, if_pos rfl]

theorem record_linked (kind : Kind) (fields : Json.Fields) : Json.lookup? "nextNodeIds" (recordFields kind edges fields) =
    some (Json.ofTexts (successors edges (idOf fields (dataOf fields)))) := by
  simp only [recordFields]
  rw [Json.lookup_put, if_pos rfl]

theorem entry_linked (raw : Json) (node : Node) (given : entry edges raw = .ok (some node)) :
    node.next = successors edges node.id := by
  cases raw with
  | obj fields =>
      obtain ⟨found, _, given⟩ := (attempt_bind_ok _ _ _).mp given
      cases found with
      | none => cases given
      | some kind =>
          obtain ⟨named, linked⟩ := Node.outer_read kind _ _ _ (record_named edges kind fields) (record_linked edges kind fields)
            node (StoryData.settle_read _ node given)
          rw [linked, named]
  | _ => cases given

theorem edges_of_items (fields : Json.Fields) : edgesIn fields = (edgeItems (.obj fields)).filterMap edge? := rfl

theorem load_linked (document : Json) (graph : Graph) (loaded : load document = .ok graph) (node : Node)
    (member : node ∈ graph.nodes) : node.next = (targetsFrom node.id (edgeItems document)).eraseDups := by
  cases document with
  | obj fields =>
      obtain ⟨state, table, start, _, added, _, _, rfl⟩ := (load_ok _ _).mp loaded
      rw [add_nodes_entries] at added
      rw [← successors_targets, ← edges_of_items]
      exact StoryData.all_taken _ _ (fun node => node.next = successors (edgesIn fields) node.id) (entry_linked _) 0 {} state _
        (by simp) added node member
  | _ => cases loaded

end Links

section Rearranged

-- The data of a node with something else said about what follows it.
def restated (next : Json) : Json → Json
  | .obj data => .obj (Json.put "nextNodeIds" next data)
  | value => value

def restatedField (next : Json) (name : String) (value : Json) : Json :=
  if name = "data" then restated next value else value

def restatedNode (stale : Json → Json) (raw : Json) : Json :=
  match raw with
  | .obj fields => .obj (Json.mapFields (restatedField (stale raw)) fields)
  | value => value

def restatedNodes (stale : Json → Json) : Json → Json
  | .arr items => .arr (items.map (restatedNode stale))
  | value => value

def rearrangedField (edges : List Json) (stale : Json → Json) (name : String) (value : Json) : Json :=
  if name = "edges" then .arr edges else if name = "nodes" then restatedNodes stale value else value

-- The document with these edges, and with other successors in the data of its nodes.
def rearranged (edges : List Json) (stale : Json → Json) : Json → Json
  | .obj fields => .obj (Json.mapFields (rearrangedField edges stale) fields)
  | value => value

theorem get_restated (next : Json) (fields : Json.Fields) (name : String) (other : name ≠ "data") :
    Json.get name (Json.mapFields (restatedField next) fields) = Json.get name fields :=
  Json.get_map_fields _ name fields fun value => by rw [restatedField, if_neg other]

theorem data_restated (next : Json) (fields : Json.Fields) :
    dataOf (Json.mapFields (restatedField next) fields) = dataOf fields ∨
      dataOf (Json.mapFields (restatedField next) fields) = Json.put "nextNodeIds" next (dataOf fields) := by
  rw [dataOf, dataOf, Json.get, Json.get, Json.lookup_map_fields]
  cases Json.lookup? "data" fields with
  | none => exact .inl rfl
  | some value =>
      rw [Option.map_some, Option.getD_some, Option.getD_some, restatedField, if_pos rfl]
      cases value with
      | obj data => exact .inr rfl
      | _ => exact .inl rfl

theorem get_data_restated (next : Json) (fields : Json.Fields) (name : String) (other : "nextNodeIds" ≠ name) :
    Json.get name (dataOf (Json.mapFields (restatedField next) fields)) = Json.get name (dataOf fields) := by
  rcases data_restated next fields with same | put
  · rw [same]
  · rw [put, Json.get, Json.lookup_put, if_neg other, Json.get]

theorem id_restated (next : Json) (fields : Json.Fields) :
    idOf (Json.mapFields (restatedField next) fields) (dataOf (Json.mapFields (restatedField next) fields)) =
      idOf fields (dataOf fields) := by
  rw [idOf, get_restated next fields "id" (by decide), get_data_restated next fields "nodeId" (by decide), idOf]

-- The successors in the data are written over before the record is read.
theorem record_restated (kind : Kind) (next : Json) (edges others : List (String × String))
    (alike : ∀ id, successors others id = successors edges id) (fields : Json.Fields) :
    Node.readAs kind (.obj (recordFields kind others (Json.mapFields (restatedField next) fields))) =
      Node.readAs kind (.obj (recordFields kind edges fields)) := by
  simp only [recordFields]
  rw [id_restated, alike, get_restated next fields "position" (by decide), get_data_restated next fields "position" (by decide)]
  refine Node.read_overwritten kind _ _ _ ?_
  rcases data_restated next fields with same | put
  · rw [same]
  · rw [put]
    iterate 3 rw [← Json.put_without _ "nextNodeIds" _ _ (by decide)]
    rw [Json.without_put]
    iterate 3 rw [Json.put_without _ "nextNodeIds" _ _ (by decide)]

theorem entry_restated (stale : Json → Json) (edges others : List (String × String))
    (alike : ∀ id, successors others id = successors edges id) (raw : Json) :
    entry others (restatedNode stale raw) = entry edges raw := by
  cases raw with
  | obj fields =>
      have kinds : kindIn? (Json.mapFields (restatedField (stale (.obj fields))) fields) = kindIn? fields := by
        rw [kindIn?, get_restated _ fields "type" (by decide), kindIn?]
      simp only [restatedNode, entry, kinds, record_restated _ _ edges others alike]
  | _ => rfl

theorem label_restated (stale : Json → Json) (raw : Json) (index : Nat) :
    labelOf (restatedNode stale raw) index = labelOf raw index := by
  cases raw with
  | obj fields =>
      have same := get_restated (stale (.obj fields)) fields "id" (by decide)
      rw [Json.get, Json.get] at same
      simp only [labelOf, restatedNode, Json.field?, same]
  | _ => rfl

theorem run_changed (read given : Json → Attempt (Option Node)) (label : Nat → Json → Json) (change : Json → Json)
    (reads : ∀ raw, given (change raw) = read raw) (labels : ∀ index raw, label index (change raw) = label index raw)
    (index : Nat) (state : Loaded) (raws : List Json) :
    takeAll given label index state (raws.map change) = takeAll read label index state raws := by
  induction raws generalizing index state with
  | nil => rfl
  | cons raw rest ih =>
      rw [List.map_cons, takeAll, takeAll, reads, labels]
      cases read raw with
      | error fault => rfl
      | ok found => exact ih _ _

theorem run_restated (stale : Json → Json) (edges others : List (String × String))
    (alike : ∀ id, successors others id = successors edges id) (raws : List Json) :
    addNodes others 0 {} (raws.map (restatedNode stale)) = addNodes edges 0 {} raws := by
  rw [add_nodes_entries, add_nodes_entries]
  exact run_changed (entry edges) (entry others) _ (restatedNode stale) (entry_restated stale edges others alike)
    (fun index raw => label_restated stale raw index) 0 {} raws

variable (edges : List Json) (stale : Json → Json) (fields : Json.Fields)

theorem get_rearranged (name : String) (noNodes : name ≠ "nodes") (noEdges : name ≠ "edges") :
    Json.get name (Json.mapFields (rearrangedField edges stale) fields) = Json.get name fields :=
  Json.get_map_fields _ name fields fun value => by rw [rearrangedField, if_neg noEdges, if_neg noNodes]

theorem nodes_rearranged : itemsOf (Json.get "nodes" (Json.mapFields (rearrangedField edges stale) fields)) =
    (itemsOf (Json.get "nodes" fields)).map (restatedNode stale) := by
  rw [Json.get, Json.get, Json.lookup_map_fields]
  cases Json.lookup? "nodes" fields with
  | none => rfl
  | some value => cases value <;> rfl

theorem parts_present : missingIn fields = [] ↔
    isList (Json.lookup? "nodes" fields) = true ∧ isList (Json.lookup? "edges" fields) = true := by
  simp [missingIn, List.filter_eq_nil_iff]

theorem parts_rearranged (present : missingIn fields = []) : missingIn (Json.mapFields (rearrangedField edges stale) fields) = [] ∧
    itemsOf (Json.get "edges" (Json.mapFields (rearrangedField edges stale) fields)) = edges := by
  obtain ⟨nodes, links⟩ := (parts_present fields).mp present
  rw [parts_present, Json.get, Json.lookup_map_fields, Json.lookup_map_fields]
  cases found : Json.lookup? "edges" fields with
  | none => cases found ▸ links
  | some value =>
      refine ⟨⟨?_, rfl⟩, rfl⟩
      cases listed : Json.lookup? "nodes" fields with
      | none => cases listed ▸ nodes
      | some value =>
          rw [listed] at nodes
          cases value with
          | arr items => rfl
          | _ => cases nodes

theorem load_rearranged (document : Json) (graph : Graph) (loaded : load document = .ok graph)
    (alike : ∀ id, targetsFrom id edges = targetsFrom id (edgeItems document)) :
    load (rearranged edges stale document) = .ok graph := by
  cases document with
  | obj fields =>
      obtain ⟨state, table, start, whole, added, tabled, started, rfl⟩ := (load_ok _ _).mp loaded
      obtain ⟨present, items⟩ := parts_rearranged edges stale fields whole
      refine load_edited fields _ (get_rearranged edges stale fields) present state table start ?_ tabled started
      rw [edgesIn, items, nodes_rearranged, run_restated stale (edgesIn fields), added]
      intro id
      rw [successors_targets, alike, edges_of_items, successors_targets]
  | _ => cases loaded

end Rearranged

theorem edges_alone_link (document : Json) (graph : Graph) (loaded : load document = .ok graph) :
    (∀ node ∈ graph.nodes, node.next = (targetsFrom node.id (edgeItems document)).eraseDups ∧ (node.id = "" → node.next = [])) ∧
      (∀ other found, load other = .ok found → ∀ node ∈ graph.nodes, ∀ twin ∈ found.nodes, twin.id = node.id →
        targetsFrom node.id (edgeItems other) = targetsFrom node.id (edgeItems document) → twin.next = node.next) ∧
      ∀ edges stale, (∀ id, targetsFrom id edges = targetsFrom id (edgeItems document)) →
        load (rearranged edges stale document) = .ok graph := by
  have linked := load_linked document graph loaded
  refine ⟨fun node member => ⟨linked node member, fun unnamed => ?_⟩, ?_, fun edges stale alike =>
    load_rearranged edges stale document graph loaded alike⟩
  · rw [linked node member, unnamed, no_targets_from_empty, List.eraseDups_nil]
  · intro other found read node member twin present named alike
    rw [linked node member, load_linked other found read twin present, named, alike]

-- Two nodes of one id, of which the first has an older list of successors, a node of an unknown type and one without an id;
-- ends that are numbers, a repeated target and an edge without a source.
def crossed : Json.Fields := [
  ("nodes", .arr [
    .obj [("id", .int 1), ("type", .str "tipNode"), ("data", .obj [("nextNodeIds", .arr [.str "old"])])],
    .obj [("type", .str "choiceNode"), ("data", .obj [("nodeId", .str "1")])],
    .obj [("id", .str "x"), ("type", .str "noteNode")],
    .obj [("type", .str "tipNode"), ("data", .obj [("nextNodeIds", .arr [.str "b"])])]]),
  ("edges", .arr [
    .obj [("source", .int 1), ("target", .str "b")],
    .obj [("source", .str "x"), ("target", .int 7)],
    .obj [("source", .str "1"), ("target", .int 7)],
    .obj [("source", .str ""), ("target", .str "c")],
    .obj [("source", .int 1), ("target", .str "b")]])]

def crossedGraph : Graph where
  nodes := [⟨{ id := "1", next := ["b", "7"] }, .tip {}⟩, ⟨{ id := "1", next := ["b", "7"] }, .choice {}⟩, ⟨{}, .tip {}⟩]
  diagnostics := { invalid := [.str "x"] }

theorem crossed_edges_link :
    load (.obj crossed) = .ok crossedGraph ∧
    ["b", "7"] = (targetsFrom "1" (edgeItems (.obj crossed))).eraseDups ∧
    load (rearranged
      [.obj [("source", .str "x"), ("target", .int 7)],
        .obj [("source", .int 1), ("target", .str "b")],
        .obj [("source", .str "1"), ("target", .int 7)],
        .obj [("source", .str ""), ("target", .str "c")],
        .obj [("source", .int 1), ("target", .str "b")]] (fun _ => .int 0) (.obj crossed)) = .ok crossedGraph := by
  have ends : edgesIn crossed = [("1", "b"), ("x", "7"), ("1", "7"), ("1", "b")] := rfl
  have added : addNodes (edgesIn crossed) 0 {} (itemsOf (Json.get "nodes" crossed)) =
      .ok { nodes := crossedGraph.nodes, invalid := [.str "x"] } := by
    rw [ends]
    rfl
  have loaded : load (.obj crossed) = .ok crossedGraph := (load_ok _ _).mpr ⟨_, [], none, rfl, added, rfl, rfl, rfl⟩
  obtain ⟨links, _, stays⟩ := edges_alone_link (.obj crossed) crossedGraph loaded
  refine ⟨loaded, (links _ List.mem_cons_self).1, stays _ _ fun id => ?_⟩
  refine targets_swapped id [] _ _ _ fun edge other found others => ?_
  cases found
  cases others
  decide

end VisualGraph

end TaggedStory
