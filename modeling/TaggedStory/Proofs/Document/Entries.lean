import TaggedStory.Document.VisualGraph
import TaggedStory.Proofs.Json.Fields
import TaggedStory.Proofs.Attempt
/-!
Both documents of nodes are read entry by entry: what an entry gives depends on the entry alone, and its place only on
how it is labelled.
-/
set_option autoImplicit false

namespace TaggedStory

namespace StoryData

-- Issues of a record leave its entry out; any other fault remains.
def settle : Attempt Node → Attempt (Option Node)
  | .ok node => .ok (some node)
  | .error (.invalid _) => .ok none
  | .error fault => .error fault

-- The node of an entry, if it is not left out.
def entry (kind : Kind) : Json → Attempt (Option Node)
  | .obj fields => settle (Node.readAs kind (.obj (Json.put "kind" (.str kind.word) fields)))
  | _ => .ok none

def Loaded.take (state : Loaded) (label : Json) : Option Node → Loaded
  | some node => { state with nodes := state.nodes ++ [node] }
  | none => { state with invalid := state.invalid ++ [label] }

-- The run of a loader that reads each entry by `read`.
def takeAll (read : Json → Attempt (Option Node)) (label : Nat → Json → Json) : Nat → Loaded → List Json → Attempt Loaded
  | _, state, [] => .ok state
  | index, state, raw :: rest => do
    let found ← read raw
    takeAll read label (index + 1) (state.take (label index raw) found) rest

-- Every node of a run is one of before or one that an entry gives.
theorem all_taken (read : Json → Attempt (Option Node)) (label : Nat → Json → Json) (holds : Node → Prop)
    (each : ∀ raw node, read raw = .ok (some node) → holds node) (index : Nat) (state result : Loaded) (raws : List Json)
    (before : ∀ node ∈ state.nodes, holds node) (done : takeAll read label index state raws = .ok result) :
    ∀ node ∈ result.nodes, holds node := by
  induction raws generalizing index state with
  | nil =>
      cases done
      exact before
  | cons raw rest ih =>
      obtain ⟨found, first, done⟩ := (attempt_bind_ok _ _ _).mp done
      refine ih _ _ ?_ done
      cases found with
      | none => exact before
      | some node =>
          intro other member
          rcases List.mem_append.mp member with earlier | last
          · exact before other earlier
          · exact List.mem_singleton.mp last ▸ each raw node first

theorem settle_read (attempt : Attempt Node) (node : Node) (settled : settle attempt = .ok (some node)) : attempt = .ok node := by
  cases attempt with
  | ok other => exact congrArg Except.ok (Option.some.inj (Except.ok.inj settled))
  | error fault => cases fault <;> cases settled

theorem entry_read (kind : Kind) (raw : Json) (node : Node) (given : entry kind raw = .ok (some node)) :
    ∃ value, Node.readAs kind value = .ok node := by
  cases raw with
  | obj fields => exact ⟨_, settle_read _ node given⟩
  | _ => cases given

theorem add_node_entry (kind : Kind) (list : String) (index : Nat) (state : Loaded) (raw : Json) :
    addNode kind list index state raw = (entry kind raw).map (state.take (labelOf raw (placeLabel list index))) := by
  cases raw with
  | obj fields =>
      rw [addNode, entry]
      cases Node.readAs kind (.obj (Json.put "kind" (.str kind.word) fields)) with
      | ok node => rfl
      | error fault => cases fault <;> rfl
  | _ => rfl

theorem add_nodes_entries (kind : Kind) (list : String) (index : Nat) (state : Loaded) (raws : List Json) :
    addNodes kind list index state raws =
      takeAll (entry kind) (fun index raw => labelOf raw (placeLabel list index)) index state raws := by
  induction raws generalizing index state with
  | nil => rfl
  | cons raw rest ih =>
      rw [addNodes, takeAll, add_node_entry]
      cases entry kind raw with
      | error fault => rfl
      | ok found => exact ih _ _

def refusedIn (fields : Json.Fields) : List String :=
  sources.filterMap fun source =>
    match listIn? fields source.2 with
    | .error name => some name
    | .ok _ => none

def presentIn (fields : Json.Fields) : List (Kind × String × List Json) :=
  sources.filterMap fun source =>
    match listIn? fields source.2 with
    | .ok (some items) => some (source.1, source.2, items)
    | _ => none

theorem lists_split (fields : Json.Fields) : lists fields =
    if !(refusedIn fields).isEmpty then malformed (refusedIn fields) "node arrays must be lists"
    else if (presentIn fields).isEmpty then malformed (kinds.map listName) "no node arrays"
    else .ok (presentIn fields) := by
  rw [lists, refusedIn, presentIn]
  simp only [List.filterMap_map]
  rfl

theorem lists_ok (fields : Json.Fields) (given : List (Kind × String × List Json)) :
    lists fields = .ok given ↔ refusedIn fields = [] ∧ presentIn fields ≠ [] ∧ given = presentIn fields := by
  rw [lists_split]
  cases refusedIn fields with
  | cons name rest => simp [malformed]
  | nil => cases presentIn fields <;> simp [malformed, eq_comm]

-- The graph of the parts that were read.
def graphOf (fields : Json.Fields) (loaded : Loaded) (table supplemental : List Variable) (start : Option String) : Graph where
  nodes := loaded.nodes
  table := table
  supplemental := supplemental
  start := start
  version := versionOf fields
  diagnostics := { invalid := loaded.invalid }

theorem load_ok (fields : Json.Fields) (graph : Graph) : load (.obj fields) = .ok graph ↔
    ∃ given loaded table supplemental start,
      lists fields = .ok given ∧
      given.foldlM (fun state list => addNodes list.1 list.2.1 0 state list.2.2) {} = .ok loaded ∧
      tableIn "variables" fields = .ok table ∧ tableIn "supplementalVariables" fields = .ok supplemental ∧
      startOf fields = .ok start ∧ graph = graphOf fields loaded table supplemental start := by
  simp only [load, graphOf, attempt_bind_ok, attempt_pure_ok, eq_comm (a := graph)]
  constructor
  · rintro ⟨given, listed, loaded, added, table, tabled, supplemental, supplied, start, started, same⟩
    exact ⟨given, loaded, table, supplemental, start, listed, added, tabled, supplied, started, same⟩
  · rintro ⟨given, loaded, table, supplemental, start, listed, added, tabled, supplied, started, same⟩
    exact ⟨given, listed, loaded, added, table, tabled, supplemental, supplied, start, started, same⟩

end StoryData

namespace VisualGraph

open StoryData (Loaded settle takeAll)

def entry (edges : List (String × String)) : Json → Attempt (Option Node)
  | .obj fields => do
    match ← kindIn? fields with
    | none => return none
    | some kind => settle (Node.readAs kind (.obj (recordFields kind edges fields)))
  | _ => .ok none

theorem entry_read (edges : List (String × String)) (raw : Json) (node : Node) (given : entry edges raw = .ok (some node)) :
    ∃ kind value, Node.readAs kind value = .ok node := by
  cases raw with
  | obj fields =>
      obtain ⟨found, _, given⟩ := (attempt_bind_ok _ _ _).mp given
      cases found with
      | none => cases given
      | some kind => exact ⟨kind, _, StoryData.settle_read _ node given⟩
  | _ => cases given

theorem add_node_entry (edges : List (String × String)) (index : Nat) (state : Loaded) (raw : Json) :
    addNode edges index state raw = (entry edges raw).map (state.take (labelOf raw index)) := by
  cases raw with
  | obj fields =>
      rw [addNode, entry]
      cases kindIn? fields with
      | error fault => rfl
      | ok found =>
          cases found with
          | none => rfl
          | some kind =>
              change (match Node.readAs kind (.obj (recordFields kind edges fields)) with
                | .ok node => _ | .error (.invalid _) => _ | .error fault => _) = (settle _).map _
              cases Node.readAs kind (.obj (recordFields kind edges fields)) with
              | ok node => rfl
              | error fault => cases fault <;> rfl
  | _ => rfl

theorem add_nodes_entries (edges : List (String × String)) (index : Nat) (state : Loaded) (raws : List Json) :
    addNodes edges index state raws = takeAll (entry edges) (fun index raw => labelOf raw index) index state raws := by
  induction raws generalizing index state with
  | nil => rfl
  | cons raw rest ih =>
      rw [addNodes, takeAll, add_node_entry]
      cases entry edges raw with
      | error fault => rfl
      | ok found => exact ih _ _

def missingIn (fields : Json.Fields) : List String :=
  ["nodes", "edges"].filter fun name => !isList (Json.lookup? name fields)

-- The edges of a document that have both ends.
def edgesIn (fields : Json.Fields) : List (String × String) :=
  (itemsOf (Json.get "edges" fields)).filterMap edge?

theorem load_ok (fields : Json.Fields) (graph : Graph) : load (.obj fields) = .ok graph ↔
    ∃ loaded table start,
      missingIn fields = [] ∧
      addNodes (edgesIn fields) 0 {} (itemsOf (Json.get "nodes" fields)) = .ok loaded ∧
      StoryData.tableIn "variables" fields = .ok table ∧ StoryData.startOf fields = .ok start ∧
      graph = StoryData.graphOf fields loaded table [] start := by
  rw [load, missingIn, edgesIn]
  cases ["nodes", "edges"].filter fun name => !isList (Json.lookup? name fields) with
  | cons name rest => simp [malformed, bind, Except.bind]
  | nil =>
      simp only [List.isEmpty_nil, Bool.not_true, Bool.false_eq_true, if_false, StoryData.graphOf, attempt_bind_ok,
        attempt_pure_ok, eq_comm (a := graph), true_and]
      constructor
      · rintro ⟨loaded, added, table, tabled, start, started, same⟩
        exact ⟨loaded, table, start, added, tabled, started, same⟩
      · rintro ⟨loaded, table, start, added, tabled, started, same⟩
        exact ⟨loaded, added, table, tabled, start, started, same⟩

-- A document that is edited in its nodes and edges alone gives a graph with the other parts as they were.
theorem load_edited (fields edited : Json.Fields)
    (kept : ∀ name, name ≠ "nodes" → name ≠ "edges" → Json.get name edited = Json.get name fields)
    (whole : missingIn edited = []) (loaded : Loaded) (table : List Variable) (start : Option String)
    (added : addNodes (edgesIn edited) 0 {} (itemsOf (Json.get "nodes" edited)) = .ok loaded)
    (tabled : StoryData.tableIn "variables" fields = .ok table) (started : StoryData.startOf fields = .ok start) :
    load (.obj edited) = .ok (StoryData.graphOf fields loaded table [] start) := by
  have version : StoryData.versionOf edited = StoryData.versionOf fields := by
    rw [StoryData.versionOf, kept _ (by decide) (by decide), StoryData.versionOf]
  refine (load_ok _ _).mpr ⟨loaded, table, start, whole, added, ?_, ?_, ?_⟩
  · rw [StoryData.tableIn, kept _ (by decide) (by decide)]
    exact tabled
  · rw [StoryData.startOf, kept _ (by decide) (by decide)]
    exact started
  · rw [StoryData.graphOf, StoryData.graphOf, version]

end VisualGraph

end TaggedStory
