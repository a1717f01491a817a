import TaggedStory.Document.Format
import TaggedStory.Proofs.Document.NodeRecord
import TaggedStory.Proofs.Document.VariableTable
/-!
A validated graph comes back from a document of node lists, its nodes grouped by kind.
-/
set_option autoImplicit false

namespace TaggedStory

open TaggedStory.Field

-- The graph as a document of node lists carries it.
def Graph.regrouped (graph : Graph) : Graph where
  nodes := StoryData.kinds.flatMap fun kind => graph.nodesOf kind
  table := (graph.table.filter fun entry => entry.name ≠ "").map Variable.settled
  supplemental := (graph.supplemental.filter fun entry => entry.name ≠ "").map Variable.settled
  start := if graph.startName = "" then none else some graph.startName
  version := graph.writtenVersion

theorem Node.read_as (value : Json) (node : Node) (read : Node.codec.read value = .ok node) :
    ∃ kind raw, Node.readAs kind raw = .ok node := by
  change Node.read value = .ok node at read
  unfold Node.read at read
  split at read
  · split at read
    · cases read
    · split at read
      · exact ⟨_, _, within_ok _ _ _ read⟩
      · cases read
    · cases read
  · cases read

theorem Graph.nodes_read (document : Json) (graph : Graph) (read : Graph.schema.read document = .ok graph) :
    ∀ node ∈ graph.nodes, ∃ kind raw, Node.readAs kind raw = .ok node := by
  have upheld : ∀ field ∈ Graph.schema.fields,
      field.Upholds fun graph => ∀ node ∈ graph.nodes, ∃ kind raw, Node.readAs kind raw = .ok node := by
    simp only [Graph.schema, Schema.closed, List.forall_mem_cons]
    refine ⟨of_upholds fun raw nodes read _ _ node member => ?_, of_upholds fun _ _ _ _ held => held,
      of_upholds fun _ _ _ _ held => held, of_upholds fun _ _ _ _ held => held, of_upholds fun _ _ _ _ held => held,
      of_upholds fun _ _ _ _ held => held, List.forall_mem_nil _⟩
    obtain ⟨item, same⟩ := Codec.list_read Node.codec raw nodes read node member
    exact Node.read_as item node same
  obtain ⟨_, bare, held, rfl⟩ := Graph.schema.read_upholds _ (List.forall_mem_nil _) upheld document graph read
  exact held

theorem Graph.written_version_filled (graph : Graph) : graph.writtenVersion ≠ "" := by
  rw [Graph.writtenVersion]
  by_cases unset : graph.version = ""
  · rw [if_pos unset]
    decide
  · rwa [if_neg unset]

namespace StoryData

-- The record of a node that has one.
def recordOf (node : Node) : Json :=
  ((writeNode node).toOption).getD .null

variable {graph : Graph} (returns : ∀ node ∈ graph.nodes, ReturnsAs node.kind node)

theorem nodes_written (nodes : List Node) (each : ∀ node ∈ nodes, ReturnsAs node.kind node) :
    writeNodes nodes = .ok (nodes.map fun node => (node.kind, recordOf node)) := by
  induction nodes with
  | nil => rfl
  | cons node rest ih =>
      obtain ⟨entries, written, _⟩ := each node List.mem_cons_self
      rw [writeNodes, written, ih fun other member => each other (List.mem_cons_of_mem _ member), List.map_cons, recordOf, written]
      rfl

-- The records of one kind, in the order of the nodes.
def recordsOf (graph : Graph) (kind : Kind) : List Json :=
  (graph.nodesOf kind).map recordOf

def listsOf (graph : Graph) : Json.Fields :=
  kinds.map fun kind => (listName kind, .arr (recordsOf graph kind))

def restOf (graph : Graph) : Json.Fields :=
  [("variables", VariableTable.write graph.table)] ++
    (if graph.supplemental.isEmpty then [] else [("supplementalVariables", VariableTable.write graph.supplemental)]) ++
    [("startNodeId", .str graph.startName), ("version", .str graph.writtenVersion)]

include returns in
theorem graph_written : write graph = .ok (.obj (listsOf graph ++ restOf graph)) := by
  have chosen : ∀ kind, ((graph.nodes.map fun node => (node.kind, recordOf node)).filter
      fun record => record.1 = kind).map (·.2) = recordsOf graph kind := by
    intro kind
    rw [List.filter_map, List.map_map]
    rfl
  rw [write, nodes_written graph.nodes returns]
  simp only [Except.map, chosen]
  simp only [listsOf, restOf, List.append_assoc]

theorem lists_found : lists (listsOf graph ++ restOf graph) =
    .ok (kinds.map fun kind => (kind, listName kind, recordsOf graph kind)) := by
  rw [restOf]
  cases graph.supplemental.isEmpty <;> rfl

theorem table_found : tableIn "variables" (listsOf graph ++ restOf graph) =
    .ok ((graph.table.filter fun entry => entry.name ≠ "").map Variable.settled) := by
  have found : Json.get "variables" (listsOf graph ++ restOf graph) = VariableTable.write graph.table := by
    rw [restOf]
    cases graph.supplemental.isEmpty <;> rfl
  rw [tableIn, found]
  cases graph.table with
  | nil => rfl
  | cons entry rest => exact VariableTable.written_read (entry :: rest)

theorem supplemental_found : tableIn "supplementalVariables" (listsOf graph ++ restOf graph) =
    .ok ((graph.supplemental.filter fun entry => entry.name ≠ "").map Variable.settled) := by
  rw [tableIn, restOf]
  cases graph.supplemental with
  | nil => rfl
  | cons entry rest => exact VariableTable.written_read (entry :: rest)

theorem start_found : startOf (listsOf graph ++ restOf graph) =
    .ok (if graph.startName = "" then none else some graph.startName) := by
  have found : Json.get "startNodeId" (listsOf graph ++ restOf graph) = .str graph.startName := by
    rw [restOf]
    cases graph.supplemental.isEmpty <;> rfl
  rw [startOf, found]
  by_cases unset : graph.startName = ""
  · rw [if_pos unset, unset]
    rfl
  · have named : (Json.str graph.startName).isTrue = true := decide_eq_true unset
    simp only [named, if_true, if_neg unset]
    rfl

theorem version_found : versionOf (listsOf graph ++ restOf graph) = graph.writtenVersion := by
  have found : Json.get "version" (listsOf graph ++ restOf graph) = .str graph.writtenVersion := by
    rw [restOf]
    cases graph.supplemental.isEmpty <;> rfl
  have named : (Json.str graph.writtenVersion).isTrue = true := decide_eq_true (Graph.written_version_filled graph)
  rw [versionOf, found, Json.orElse, if_pos named]
  rfl

theorem detected : Format.detect? (.obj (listsOf graph ++ restOf graph)) = some .storyData := by
  rw [restOf]
  cases graph.supplemental.isEmpty <;> rfl

theorem records_added (kind : Kind) (list : String) (nodes : List Node)
    (each : ∀ node ∈ nodes, ReturnsAs kind node) (index : Nat) (state : Loaded) :
    addNodes kind list index state (nodes.map recordOf) = .ok { state with nodes := state.nodes ++ nodes } := by
  induction nodes generalizing index state with
  | nil => rw [List.append_nil]; rfl
  | cons node rest ih =>
      obtain ⟨entries, written, read⟩ := each node List.mem_cons_self
      have record : recordOf node = .obj entries := by rw [recordOf, written]; rfl
      have added : addNode kind list index state (recordOf node) = .ok { state with nodes := state.nodes ++ [node] } := by
        simp only [record, addNode, read]
      rw [List.map_cons, addNodes, added]
      change addNodes kind list (index + 1) { state with nodes := state.nodes ++ [node] } (rest.map recordOf) = _
      rw [ih fun other member => each other (List.mem_cons_of_mem _ member), List.append_assoc, List.singleton_append]

include returns in
theorem kinds_added (given : List Kind) (state : Loaded) :
    (given.map fun kind => (kind, listName kind, recordsOf graph kind)).foldlM
        (fun state list => addNodes list.1 list.2.1 0 state list.2.2) state =
      .ok { state with nodes := state.nodes ++ given.flatMap fun kind => graph.nodesOf kind } := by
  induction given generalizing state with
  | nil => rw [List.flatMap_nil, List.append_nil]; rfl
  | cons kind rest ih =>
      have own : ∀ node ∈ graph.nodesOf kind, ReturnsAs kind node := by
        intro node member
        obtain ⟨present, same⟩ := List.mem_filter.mp member
        exact of_decide_eq_true same ▸ returns node present
      rw [List.map_cons, List.foldlM_cons, recordsOf, records_added kind _ _ own]
      change List.foldlM _ { state with nodes := state.nodes ++ graph.nodesOf kind } _ = _
      rw [ih, List.flatMap_cons, List.append_assoc]

end StoryData

theorem story_data_returns (document : Json) (graph : Graph) (read : Graph.schema.read document = .ok graph)
    (finite : ∀ node ∈ graph.nodes, node.FiniteParts) (plain : ∀ node ∈ graph.nodes, node.WithoutEffects) :
    ∃ written, StoryData.write graph = .ok written ∧
      ∀ template, Graph.load written none template = .ok graph.regrouped := by
  have returns : ∀ node ∈ graph.nodes, StoryData.ReturnsAs node.kind node := by
    intro node member
    obtain ⟨kind, raw, same⟩ := Graph.nodes_read document graph read node member
    obtain ⟨own, back⟩ := Node.returns kind raw node same (finite node member) (plain node member)
    exact own ▸ back
  refine ⟨_, StoryData.graph_written returns, fun template => ?_⟩
  rw [Graph.load, Option.none_or, StoryData.detected]
  change StoryData.load (.obj (StoryData.listsOf graph ++ StoryData.restOf graph)) = _
  refine (attempt_bind_ok _ _ _).mpr ⟨_, StoryData.lists_found, ?_⟩
  refine (attempt_bind_ok _ _ _).mpr ⟨_, StoryData.kinds_added returns StoryData.kinds {}, ?_⟩
  refine (attempt_bind_ok _ _ _).mpr ⟨_, StoryData.table_found, ?_⟩
  refine (attempt_bind_ok _ _ _).mpr ⟨_, StoryData.supplemental_found, ?_⟩
  refine (attempt_bind_ok _ _ _).mpr ⟨_, StoryData.start_found, ?_⟩
  rw [StoryData.version_found]
  rfl

namespace StoryData

-- A tip with a field that no kind models before a choice with an effect.
def sketchDocument : Json :=
  .obj [
    ("nodes", .arr [
      .obj [("kind", .str "tip"), ("nodeId", .str "t"), ("tipText", .str "看"), ("note", .int 7)],
      .obj [("kind", .str "choice"), ("nodeId", .str "a"), ("choiceText", .str "去"), ("effects", .arr [
        .obj [("variableName", .str "coin"), ("operation", .str "+"), ("value", .str "1")]])]]),
    ("variables", .arr [.obj [("name", .str "coin")]]),
    ("startNodeId", .str "a")]

def sketch : Graph where
  nodes := [
    ⟨{ id := "t", extras := [("note", .int 7)] }, .tip { text := "看" }⟩,
    ⟨{ id := "a" }, .choice { text := "去", offer := { effects := [{ name := "coin", operation := .add, value := "1" }] } }⟩]
  table := [{ name := "coin" }]
  start := some "a"

theorem sketch_returns : ∃ written, write sketch = .ok written ∧
    ∀ template, Graph.load written none template = .ok sketch.regrouped := by
  have finite : ∀ node ∈ sketch.nodes, node.FiniteParts := by
    intro node member
    rcases List.mem_pair.mp member with rfl | rfl <;> exact Node.finite_extras_suffice _ rfl (by decide)
  have plain : ∀ node ∈ sketch.nodes, node.WithoutEffects := by
    intro node member
    rcases List.mem_pair.mp member with rfl | rfl
    · exact fun _ => by decide
    · exact fun _ => by decide
  exact story_data_returns sketchDocument sketch rfl finite plain

-- A death mark that no tip has a field for, set by an infinity.
def boundlessDocument : Json :=
  .obj [("nodes", .arr [
    .obj [("kind", .str "tip"), ("nodeId", .str "a"), ("is_deadpoint", .float (.infinite false))]])]

def boundless : Graph where
  nodes := [⟨{ id := "a", extras := [("is_deadpoint", .float (.infinite false))] }, .tip {}⟩]

def extrasAfter (graph : Graph) : Attempt (List Json.Fields) := do
  let written ← write graph
  let again ← Graph.load written none (.ok (.arr []))
  return again.nodes.map fun node => node.header.extras

theorem boundless_extra_lost : Graph.schema.read boundlessDocument = .ok boundless ∧
    extrasAfter boundless = .ok [[("is_deadpoint", .null)]] :=
  ⟨rfl, rfl⟩

end StoryData

end TaggedStory
