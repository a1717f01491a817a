import Mathlib.Data.List.Basic
import TaggedStory.Proofs.Document.Entries
/-!
Entries that are left out leave no trace: without them a document gives the same graph and nothing to report.
-/
set_option autoImplicit false

namespace TaggedStory

namespace Json

-- A list with some of its items; any other value as it is.
def filterItems (chosen : Json → Bool) : Json → Json
  | arr items => arr (items.filter chosen)
  | value => value

end Json

namespace StoryData

section Runs

-- A run over some entries beside the run over those of them that are not dropped: each entry is a node or a label,
-- and the second run gives the same nodes, wherever it starts, and no labels.
def Sieves (run pruned : Loaded → Attempt Loaded) (entries : List Json) : Prop :=
  ∀ state result, run state = .ok result → ∃ nodes labels,
    result = { nodes := state.nodes ++ nodes, invalid := state.invalid ++ labels } ∧
    nodes.length + labels.length = entries.length ∧
    ∀ other, pruned other = .ok { other with nodes := other.nodes ++ nodes }

theorem sieves_nothing : Sieves .ok .ok [] := by
  intro state result done
  cases done
  refine ⟨[], [], ?_, rfl, fun other => ?_⟩
  · rw [List.append_nil, List.append_nil]
  · rw [List.append_nil]

theorem sieves_append {run pruned later laterPruned : Loaded → Attempt Loaded} {entries others : List Json}
    (first : Sieves run pruned entries) (second : Sieves later laterPruned others) :
    Sieves (fun state => run state >>= later) (fun state => pruned state >>= laterPruned) (entries ++ others) := by
  intro state result done
  obtain ⟨middle, begun, ended⟩ := (attempt_bind_ok _ _ _).mp done
  obtain ⟨nodes, labels, rfl, count, same⟩ := first state middle begun
  obtain ⟨nodes', labels', rfl, count', same'⟩ := second _ result ended
  refine ⟨nodes ++ nodes', labels ++ labels', ?_, ?_, fun other => ?_⟩
  · rw [List.append_assoc, List.append_assoc]
  · simp only [List.length_append]
    omega
  · refine (attempt_bind_ok _ _ _).mpr ⟨_, same other, ?_⟩
    rw [same', List.append_assoc]

variable (read : Json → Attempt (Option Node)) (label : Nat → Json → Json)

-- The entry gives neither a node nor a fault.
def leaves (raw : Json) : Bool :=
  match read raw with
  | .ok none => true
  | _ => false

theorem sieves_entry (raw : Json) (mark : Json) (place : Json) (kept : leaves read raw = false) :
    Sieves (fun state => (read raw).map (state.take mark)) (fun state => (read raw).map (state.take place)) [raw] := by
  intro state result done
  obtain ⟨found, given, rfl⟩ := (attempt_map_ok _ _ _).mp done
  rw [leaves, given] at kept
  cases found with
  | none => cases kept
  | some node => exact ⟨[node], [], by rw [List.append_nil]; rfl, rfl, fun other => by rw [given]; rfl⟩

theorem sieves_dropped (raw : Json) (mark : Json) (gone : leaves read raw = true) :
    Sieves (fun state => (read raw).map (state.take mark)) .ok [raw] := by
  intro state result done
  obtain ⟨found, given, rfl⟩ := (attempt_map_ok _ _ _).mp done
  rw [leaves, given] at gone
  cases found with
  | none => exact ⟨[], [mark], by rw [List.append_nil]; rfl, rfl, fun other => by rw [List.append_nil]⟩
  | some node => cases gone

theorem sieves_entries (raws : List Json) (index place : Nat) :
    Sieves (fun state => takeAll read label index state raws)
      (fun state => takeAll read label place state (raws.filter fun raw => !leaves read raw)) raws := by
  have step : ∀ index state raw rest, takeAll read label index state (raw :: rest) =
      (read raw).map (state.take (label index raw)) >>= fun state => takeAll read label (index + 1) state rest := by
    intro index state raw rest
    rw [takeAll]
    cases read raw <;> rfl
  induction raws generalizing index place with
  | nil => exact sieves_nothing
  | cons raw rest ih =>
      cases gone : leaves read raw with
      | true =>
          rw [List.filter_cons_of_neg (by simp [gone])]
          simp only [step]
          exact sieves_append (sieves_dropped read raw _ gone) (ih (index + 1) place)
      | false =>
          rw [List.filter_cons_of_pos (by simp [gone])]
          simp only [step]
          exact sieves_append (sieves_entry read raw _ _ gone) (ih (index + 1) (place + 1))

end Runs

-- The loader adds nothing for the entry but a label.
def drops (kind : Kind) (raw : Json) : Bool :=
  match addNode kind (listName kind) 0 {} raw with
  | .ok state => state.nodes.isEmpty
  | .error _ => false

theorem drops_leaves (kind : Kind) (raw : Json) : drops kind raw = leaves (entry kind) raw := by
  rw [drops, leaves, add_node_entry]
  cases entry kind raw with
  | error fault => rfl
  | ok found => cases found <;> rfl

-- The kind of the nodes in a list of this name.
def kindOfList? (name : String) : Option Kind :=
  (sources.find? fun source => source.2 = name).map (·.1)

def prunedField (name : String) (value : Json) : Json :=
  match kindOfList? name with
  | some kind => value.filterItems fun raw => !drops kind raw
  | none => value

-- The document without the entries that are dropped.
def pruned : Json → Json
  | .obj fields => .obj (Json.mapFields prunedField fields)
  | document => document

-- The entries of all lists of nodes.
def entriesOf : Json → List Json
  | .obj fields => sources.flatMap fun source => VisualGraph.itemsOf (Json.get source.2 fields)
  | _ => []

theorem kind_of_list (source : Kind × String) (member : source ∈ sources) : kindOfList? source.2 = some source.1 := by
  revert source
  decide

theorem list_pruned (fields : Json.Fields) (source : Kind × String) (member : source ∈ sources) :
    listIn? (Json.mapFields prunedField fields) source.2 =
      (listIn? fields source.2).map (Option.map (List.filter fun raw => !drops source.1 raw)) := by
  rw [listIn?, listIn?, Json.lookup_map_fields]
  cases Json.lookup? source.2 fields with
  | none => rfl
  | some value =>
      rw [Option.map_some, prunedField, kind_of_list source member]
      cases value <;> rfl

-- A list with the name of its field, without the entries that are dropped.
def prunedList (list : Kind × String × List Json) : Kind × String × List Json :=
  (list.1, list.2.1, list.2.2.filter fun raw => !drops list.1 raw)

theorem lists_pruned (fields : Json.Fields) (given : List (Kind × String × List Json)) (found : lists fields = .ok given) :
    lists (Json.mapFields prunedField fields) = .ok (given.map prunedList) := by
  obtain ⟨accepted, filled, rfl⟩ := (lists_ok _ _).mp found
  have refusal : refusedIn (Json.mapFields prunedField fields) = refusedIn fields := by
    refine List.filterMap_congr fun source member => ?_
    rw [list_pruned fields source member]
    cases listIn? fields source.2 <;> rfl
  have presence : presentIn (Json.mapFields prunedField fields) = (presentIn fields).map prunedList := by
    rw [presentIn, presentIn, List.map_filterMap]
    refine List.filterMap_congr fun source member => ?_
    rw [list_pruned fields source member]
    cases listIn? fields source.2 with
    | error name => rfl
    | ok items => cases items <;> rfl
  refine (lists_ok _ _).mpr ⟨refusal.trans accepted, fun empty => filled ?_, presence.symm⟩
  exact List.map_eq_nil_iff.mp (presence.symm.trans empty)

theorem entries_of_lists (fields : Json.Fields) : (presentIn fields).flatMap (fun list => list.2.2) = entriesOf (.obj fields) := by
  rw [presentIn, entriesOf]
  generalize sources = given
  induction given with
  | nil => rfl
  | cons source rest ih =>
      rw [List.flatMap_cons, ← ih, Json.get]
      cases found : Json.lookup? source.2 fields with
      | none => rw [List.filterMap_cons_none (by rw [listIn?, found])]; rfl
      | some value =>
          cases value with
          | arr items => rw [List.filterMap_cons_some (by rw [listIn?, found])]; rfl
          | _ => rw [List.filterMap_cons_none (by rw [listIn?, found])]; rfl

theorem sieves_lists (given : List (Kind × String × List Json)) :
    Sieves (fun state => given.foldlM (fun state list => addNodes list.1 list.2.1 0 state list.2.2) state)
      (fun state => (given.map prunedList).foldlM (fun state list => addNodes list.1 list.2.1 0 state list.2.2) state)
      (given.flatMap fun list => list.2.2) := by
  induction given with
  | nil => exact sieves_nothing
  | cons list rest ih =>
      have same : prunedList list = (list.1, list.2.1, list.2.2.filter fun raw => !leaves (entry list.1) raw) := by
        simp only [prunedList, drops_leaves]
      simp only [List.map_cons, List.foldlM_cons, List.flatMap_cons, same, add_nodes_entries]
      simp only [add_nodes_entries] at ih
      exact sieves_append (sieves_entries _ _ _ 0 0) ih

theorem load_pruned (document : Json) (graph : Graph) (loaded : load document = .ok graph) :
    graph.nodes.length + graph.diagnostics.invalid.length = (entriesOf document).length ∧
      load (pruned document) = .ok { graph with diagnostics := {} } := by
  cases document with
  | obj fields =>
      obtain ⟨given, state, table, supplemental, start, found, added, tabled, supplied, started, rfl⟩ := (load_ok _ _).mp loaded
      obtain ⟨nodes, labels, rfl, count, same⟩ := sieves_lists given {} state added
      have kept : ∀ name, kindOfList? name = none → Json.get name (Json.mapFields prunedField fields) = Json.get name fields := by
        intro name other
        refine Json.get_map_fields prunedField name fields fun value => ?_
        rw [prunedField, other]
      have version : versionOf (Json.mapFields prunedField fields) = versionOf fields := by
        rw [versionOf, kept _ (by decide), versionOf]
      constructor
      · rw [← entries_of_lists, ← ((lists_ok _ _).mp found).2.2, ← count]
        rfl
      · refine (load_ok _ _).mpr ⟨_, _, table, supplemental, start, lists_pruned fields given found, same {}, ?_, ?_, ?_, ?_⟩
        · rw [tableIn, kept _ (by decide)]
          exact tabled
        · rw [tableIn, kept _ (by decide)]
          exact supplied
        · rw [startOf, kept _ (by decide)]
          exact started
        · rw [graphOf, graphOf, version]
  | _ => cases loaded

end StoryData

namespace VisualGraph

open StoryData (leaves)

def drops (edges : List (String × String)) (raw : Json) : Bool :=
  match addNode edges 0 {} raw with
  | .ok state => state.nodes.isEmpty
  | .error _ => false

theorem drops_leaves (edges : List (String × String)) (raw : Json) : drops edges raw = leaves (entry edges) raw := by
  rw [drops, leaves, add_node_entry]
  cases entry edges raw with
  | error fault => rfl
  | ok found => cases found <;> rfl

def prunedField (edges : List (String × String)) (name : String) (value : Json) : Json :=
  if name = "nodes" then value.filterItems fun raw => !drops edges raw else value

def pruned : Json → Json
  | .obj fields => .obj (Json.mapFields (prunedField (edgesIn fields)) fields)
  | document => document

def entriesOf : Json → List Json
  | .obj fields => itemsOf (Json.get "nodes" fields)
  | _ => []

theorem get_pruned (edges : List (String × String)) (fields : Json.Fields) (name : String) (other : name ≠ "nodes") :
    Json.get name (Json.mapFields (prunedField edges) fields) = Json.get name fields :=
  Json.get_map_fields _ name fields fun value => by rw [prunedField, if_neg other]

theorem nodes_pruned (edges : List (String × String)) (fields : Json.Fields) :
    itemsOf (Json.get "nodes" (Json.mapFields (prunedField edges) fields)) =
      (itemsOf (Json.get "nodes" fields)).filter fun raw => !leaves (entry edges) raw := by
  simp only [← drops_leaves]
  rw [Json.get, Json.get, Json.lookup_map_fields]
  cases Json.lookup? "nodes" fields with
  | none => rfl
  | some value => cases value <;> rfl

theorem missing_pruned (edges : List (String × String)) (fields : Json.Fields) (name : String) :
    isList (Json.lookup? name (Json.mapFields (prunedField edges) fields)) = isList (Json.lookup? name fields) := by
  rw [Json.lookup_map_fields]
  cases Json.lookup? name fields with
  | none => rfl
  | some value =>
      rw [Option.map_some, prunedField]
      by_cases same : name = "nodes"
      · rw [if_pos same]
        cases value <;> rfl
      · rw [if_neg same]

theorem load_pruned (document : Json) (graph : Graph) (loaded : load document = .ok graph) :
    graph.nodes.length + graph.diagnostics.invalid.length = (entriesOf document).length ∧
      load (pruned document) = .ok { graph with diagnostics := {} } := by
  cases document with
  | obj fields =>
      obtain ⟨state, table, start, whole, added, tabled, started, rfl⟩ := (load_ok _ _).mp loaded
      rw [add_nodes_entries] at added
      obtain ⟨nodes, labels, rfl, count, same⟩ := StoryData.sieves_entries _ _ _ 0 0 {} state added
      have missing : missingIn (Json.mapFields (prunedField (edgesIn fields)) fields) = missingIn fields := by
        simp only [missingIn, missing_pruned]
      have edges : edgesIn (Json.mapFields (prunedField (edgesIn fields)) fields) = edgesIn fields := by
        rw [edgesIn, get_pruned _ _ _ (by decide)]
        rfl
      constructor
      · exact count
      · refine load_edited fields _ (fun name other _ => get_pruned _ fields name other) (missing.trans whole) { nodes := nodes }
          table start ?_ tabled started
        rw [edges, nodes_pruned, add_nodes_entries]
        exact same {}
  | _ => cases loaded

end VisualGraph

theorem dropped_entries_leave_no_trace (document : Json) (graph : Graph) :
    (StoryData.load document = .ok graph →
      graph.nodes.length + graph.diagnostics.invalid.length = (StoryData.entriesOf document).length ∧
        StoryData.load (StoryData.pruned document) = .ok { graph with diagnostics := {} }) ∧
    (VisualGraph.load document = .ok graph →
      graph.nodes.length + graph.diagnostics.invalid.length = (VisualGraph.entriesOf document).length ∧
        VisualGraph.load (VisualGraph.pruned document) = .ok { graph with diagnostics := {} }) :=
  ⟨StoryData.load_pruned document graph, VisualGraph.load_pruned document graph⟩

-- A number and a tip whose text is none beside a tip and a choice of an older document.
def StoryData.mixed : Json :=
  .obj [
    ("tipNodes", .arr [.int 5, .obj [("nodeId", .str "t")], .obj [("nodeId", .str "u"), ("tipText", .int 1)]]),
    ("optionNodes", .arr [.obj [("nodeId", .str "c")], .null]),
    ("startNodeId", .str "c")]

-- A node of an unknown type between two that lead to each other and to it.
def VisualGraph.mixed : Json :=
  .obj [
    ("nodes", .arr [
      .obj [("id", .str "a"), ("type", .str "tipNode")],
      .obj [("id", .str "x"), ("type", .str "noteNode")],
      .obj [("id", .str "b"), ("type", .str "choiceNode")]]),
    ("edges", .arr [
      .obj [("source", .str "a"), ("target", .str "b")],
      .obj [("source", .str "x"), ("target", .str "b")],
      .obj [("source", .str "b"), ("target", .str "x")]])]

theorem mixed_leave_no_trace :
    StoryData.load (StoryData.pruned StoryData.mixed) =
      .ok { nodes := [⟨{ id := "t" }, .tip {}⟩, ⟨{ id := "c" }, .choice {}⟩], start := some "c" } ∧
    VisualGraph.load (VisualGraph.pruned VisualGraph.mixed) =
      .ok { nodes := [⟨{ id := "a", next := ["b"] }, .tip {}⟩, ⟨{ id := "b", next := ["x"] }, .choice {}⟩] } := by
  have lists : StoryData.load StoryData.mixed = .ok {
      nodes := [⟨{ id := "t" }, .tip {}⟩, ⟨{ id := "c" }, .choice {}⟩], start := some "c"
      diagnostics := { invalid := [.str "tipNodes[0]", .str "u", .str "optionNodes[1]"] } } := rfl
  have drawn : VisualGraph.load VisualGraph.mixed = .ok {
      nodes := [⟨{ id := "a", next := ["b"] }, .tip {}⟩, ⟨{ id := "b", next := ["x"] }, .choice {}⟩]
      diagnostics := { invalid := [.str "x"] } } := rfl
  exact ⟨((dropped_entries_leave_no_trace StoryData.mixed _).1 lists).2,
    ((dropped_entries_leave_no_trace VisualGraph.mixed _).2 drawn).2⟩

end TaggedStory
