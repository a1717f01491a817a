import TaggedStory.Document.Format
import TaggedStory.Proofs.Catalog.Renaming
/-!
Where a renaming stops. A field that stands on a node in the place of records of another kind stops it there: the nodes
in front are renamed, the rest of the graph is not. Main statement: the renaming is all or nothing exactly when the part
that it reaches does not name the old variable.
-/
set_option autoImplicit false

namespace TaggedStory.Catalog

open Named

variable (old new : String)

-- The first node with a stray field, as the renaming leaves it: with its own records renamed, unless the field is no list.
def haltedNode (node : Node) : Node :=
  if (strayRecords node).any isNoList then node else node.mapNames (nameAfter old new)

theorem rename_node_stray (node : Node) (stray : strayRecords node ≠ []) :
    ∃ count fault, renameNode old new node = .stopped ⟨haltedNode old new node, count⟩ fault := by
  have some_ : (strayRecords node).isEmpty = false := by simpa using stray
  by_cases scalar : (strayRecords node).any isNoList = true
  · exact ⟨0, .wrongShape, by simp only [renameNode, scalar, if_true, haltedNode]; rfl⟩
  · refine ⟨node.references.count old, .missingPart, ?_⟩
    simp only [renameNode, scalar, some_, Bool.false_eq_true, if_false, haltedNode, rename_body]
    rfl

theorem rename_nodes_halted (front : List Node) (node : Node) (rest : List Node)
    (clear : ∀ other ∈ front, strayRecords other = []) (stray : strayRecords node ≠ []) :
    ∃ fault, renameNodes old new (front ++ node :: rest) =
      (front.map (renamedNode old new) ++ haltedNode old new node :: rest, .error fault) := by
  induction front with
  | nil =>
      obtain ⟨count, fault, stopped⟩ := rename_node_stray old new node stray
      exact ⟨fault, by rw [List.nil_append, renameNodes, stopped]; rfl⟩
  | cons first front ih =>
      obtain ⟨fault, others⟩ := ih fun other member => clear other (List.mem_cons_of_mem first member)
      refine ⟨fault, ?_⟩
      rw [List.cons_append, renameNodes, rename_node_clear old new first (clear first List.mem_cons_self)]
      simp only [others]
      rfl

-- The place of the first node with a stray field.
structure HaltsAt (nodes front : List Node) (node : Node) (rest : List Node) : Prop where
  split : nodes = front ++ node :: rest
  clear : ∀ other ∈ front, strayRecords other = []
  stray : strayRecords node ≠ []

theorem clear_or_halts (nodes : List Node) :
    (∀ node ∈ nodes, strayRecords node = []) ∨ ∃ front node rest, HaltsAt nodes front node rest := by
  induction nodes with
  | nil => exact .inl (List.forall_mem_nil _)
  | cons first nodes ih =>
      by_cases clear : strayRecords first = []
      · rcases ih with all | ⟨front, node, rest, rfl, before, stray⟩
        · exact .inl (List.forall_mem_cons.mpr ⟨clear, all⟩)
        · exact .inr ⟨first :: front, node, rest, rfl, List.forall_mem_cons.mpr ⟨clear, before⟩, stray⟩
      · exact .inr ⟨[], first, nodes, rfl, List.forall_mem_nil _, clear⟩

section Unchanged

variable (different : old ≠ new)

include different

theorem names_unchanged (names : List String) : names.map (nameAfter old new) = names ↔ old ∉ names := by
  rw [map_fixed]
  constructor
  · intro same used
    exact name_after_absent old new old different (same old used)
  · intro unused name member
    exact if_neg fun same : name = old => unused (same ▸ member)

theorem node_unchanged (node : Node) : node.mapNames (nameAfter old new) = node ↔ old ∉ node.references := by
  rw [← names_unchanged old new different]
  constructor
  · intro same
    exact (node.body.references_mapped _).symm.trans (congrArg Node.references same)
  · intro same
    exact node.mapped_fixed _ ((map_fixed _ _).mp same)

theorem bar_extra_unchanged (extras : Json.Fields) :
    (renameBarExtra old new extras).value = extras ↔ old ∉ barExtra extras := by
  rw [renameBarExtra, barExtra]
  cases found : Json.lookup? "variable_bar_name" extras with
  | none => simp [Renamed.keep]
  | some value =>
      cases value with
      | str name =>
          dsimp only
          by_cases same : name = old
          · rw [if_pos same, same]
            refine iff_of_false (fun (kept : Json.put "variable_bar_name" (.str new) extras = extras) => ?_) (fun absent => absent (List.mem_singleton_self old))
            have put := Json.lookup_put "variable_bar_name" "variable_bar_name" (.str new) extras
            rw [kept, found, if_pos rfl, same] at put
            exact different (Json.str.inj (Option.some.inj put))
          · rw [if_neg same]
            exact iff_of_true rfl fun used => same (List.mem_singleton.mp used).symm
      | _ => simp [Renamed.keep]

theorem renamed_unchanged (node : Node) : renamedNode old new node = node ↔ old ∉ node.references ++ looseBar node := by
  rw [List.mem_append, not_or, ← node_unchanged old new different]
  have parts : renamedNode old new node = node ↔ node.mapNames (nameAfter old new) = node ∧
      (if node.kind = .video then node.header.extras else (renameBarExtra old new node.header.extras).value) = node.header.extras := by
    constructor
    · intro same
      have body : (renamedNode old new node).body = node.body := congrArg NodeOf.body same
      exact ⟨congrArg (NodeOf.mk node.header) body, congrArg (fun other : Node => other.header.extras) same⟩
    · rintro ⟨same, extras⟩
      have body : (node.mapNames (nameAfter old new)).body = node.body := congrArg NodeOf.body same
      exact congrArg₂ (fun fields body => (⟨{ node.header with extras := fields }, body⟩ : Node)) extras body
  rw [parts, looseBar]
  by_cases video : node.kind = .video
  · simp [if_pos video]
  · rw [if_neg video, if_neg video, bar_extra_unchanged old new different]

theorem halted_unchanged (node : Node) : haltedNode old new node = node ↔
    (∃ value ∈ strayRecords node, isNoList value = true) ∨ old ∉ node.references := by
  rw [haltedNode, ← List.any_eq_true]
  by_cases scalar : (strayRecords node).any isNoList = true
  · simp [scalar]
  · rw [if_neg scalar, node_unchanged old new different]
    simp [scalar]

end Unchanged

-- It returns, and the new name stands for the old one in every reference; or it stops, and the graph is as it was.
def AllOrNothing (graph : Graph) : Prop :=
  match rename old new graph with
  | (after, .ok _) => after.references = graph.references.map (nameAfter old new)
  | (after, .error _) => after = graph

-- Neither the nodes in front nor the records that are renamed before the halt name the variable.
def Spares (front : List Node) (node : Node) : Prop :=
  (∀ other ∈ front, old ∉ other.references ++ looseBar other) ∧
    ((∃ value ∈ strayRecords node, isNoList value = true) ∨ old ∉ node.references)

def ReachesNone (graph : Graph) : Prop :=
  ∀ front node rest, HaltsAt graph.nodes front node rest → Spares old front node

section Whole

variable (graph : Graph) (oldNamed : old ≠ "") (newNamed : new ≠ "") (different : old ≠ new)

include oldNamed newNamed different

theorem rename_halted (front : List Node) (node : Node) (rest : List Node) (halts : HaltsAt graph.nodes front node rest) :
    ∃ fault, rename old new graph =
      ({ graph with nodes := front.map (renamedNode old new) ++ haltedNode old new node :: rest }, .error fault) := by
  have named : ¬(old = "" ∨ new = "" ∨ old = new) := by simp [oldNamed, newNamed, different]
  obtain ⟨fault, nodes⟩ := rename_nodes_halted old new front node rest halts.clear halts.stray
  exact ⟨fault, by rw [rename, if_neg named, halts.split, nodes]⟩

theorem clear_whole (clear : ∀ node ∈ graph.nodes, strayRecords node = []) : AllOrNothing old new graph := by
  have nodes : (graph.nodes.map (renamedNode old new)).flatMap Node.references =
      (graph.nodes.flatMap Node.references).map (nameAfter old new) := by
    rw [← Graph.nodes_references_mapped, List.flatMap_map, List.flatMap_map]
    rfl
  rw [AllOrNothing, rename_clear old new graph oldNamed newNamed different clear]
  simp only [Graph.references, Graph.mapNames, nodes, names_mapped, List.map_append]

theorem halted_whole (front : List Node) (node : Node) (rest : List Node) (halts : HaltsAt graph.nodes front node rest) :
    AllOrNothing old new graph ↔ Spares old front node := by
  obtain ⟨fault, halted⟩ := rename_halted old new graph oldNamed newNamed different front node rest halts
  have before : front.map (renamedNode old new) = front ↔ ∀ other ∈ front, old ∉ other.references ++ looseBar other := by
    rw [map_fixed]
    exact forall₂_congr fun other _ => renamed_unchanged old new different other
  rw [AllOrNothing, halted, Spares, ← before, ← halted_unchanged old new different]
  constructor
  · intro same
    have nodes : front.map (renamedNode old new) ++ haltedNode old new node :: rest = front ++ node :: rest :=
      (congrArg Graph.nodes same).trans halts.split
    obtain ⟨first, tail⟩ := List.append_inj nodes (List.length_map _)
    exact ⟨first, (List.cons.inj tail).1⟩
  · rintro ⟨first, second⟩
    simp only [first, second, ← halts.split]

end Whole

theorem rename_all_or_nothing (graph : Graph) :
    (old = "" ∨ new = "" ∨ old = new → rename old new graph = (graph, .ok 0)) ∧
    (old ≠ "" → new ≠ "" → old ≠ new →
      ((∃ count, (rename old new graph).2 = .ok count) ↔ ∀ node ∈ graph.nodes, strayRecords node = []) ∧
      (AllOrNothing old new graph ↔ ReachesNone old graph)) := by
  refine ⟨fun idle => by rw [rename, if_pos idle], fun oldNamed newNamed different => ⟨?_, ?_⟩⟩
  · rcases clear_or_halts graph.nodes with clear | ⟨front, node, rest, halts⟩
    · rw [rename_clear old new graph oldNamed newNamed different clear]
      exact iff_of_true ⟨_, rfl⟩ clear
    · obtain ⟨fault, halted⟩ := rename_halted old new graph oldNamed newNamed different front node rest halts
      rw [halted]
      refine iff_of_false (attempt_error_returns fault) fun all => halts.stray (all node ?_)
      rw [halts.split]
      exact List.mem_append_right front List.mem_cons_self
  · constructor
    · intro whole front node rest halts
      exact (halted_whole old new graph oldNamed newNamed different front node rest halts).mp whole
    · intro none_
      rcases clear_or_halts graph.nodes with clear | ⟨front, node, rest, halts⟩
      · exact clear_whole old new graph oldNamed newNamed different clear
      · exact (halted_whole old new graph oldNamed newNamed different front node rest halts).mpr (none_ front node rest halts)

-- A choice that pays, and a tip with an empty field in the place of effects.
def paid : Graph where
  nodes := [
    ⟨{ id := "a" }, .choice { offer := { effects := [{ name := "金币" }] } }⟩,
    ⟨{ id := "b", extras := [("effects", .arr []), ("variable_bar_name", .str "金币")] }, .tip {}⟩]

-- The same choice behind a tip whose field is a number.
def barred : Graph where
  nodes := [
    ⟨{ id := "b", extras := [("effects", .int 5)] }, .tip {}⟩,
    ⟨{ id := "a" }, .choice { offer := { effects := [{ name := "金币" }] } }⟩]

theorem paid_renamed_whole : (∃ count, (rename "金币" "gold" paid).2 = .ok count) ∧ AllOrNothing "金币" "gold" paid ∧
    ¬(∃ count, (rename "金币" "gold" barred).2 = .ok count) ∧ AllOrNothing "金币" "gold" barred := by
  obtain ⟨returns, whole⟩ := (rename_all_or_nothing "金币" "gold" paid).2 (by decide) (by decide) (by decide)
  obtain ⟨refused, still⟩ := (rename_all_or_nothing "金币" "gold" barred).2 (by decide) (by decide) (by decide)
  have clear : ∀ node ∈ paid.nodes, strayRecords node = [] :=
    List.forall_mem_cons.mpr ⟨rfl, List.forall_mem_singleton.mpr rfl⟩
  have first : strayRecords ⟨{ id := "b", extras := [("effects", .int 5)] }, .tip {}⟩ = [.int 5] := rfl
  refine ⟨returns.mpr clear, whole.mpr fun front node rest halts => ?_, fun done => ?_, still.mpr ?_⟩
  · exact absurd (clear node (halts.split ▸ List.mem_append_right front List.mem_cons_self)) halts.stray
  · cases first.symm.trans (refused.mp done _ List.mem_cons_self)
  · intro front node rest halts
    cases front with
    | nil =>
        obtain ⟨rfl, _⟩ := List.cons.inj halts.split
        exact ⟨List.forall_mem_nil _, .inl ⟨.int 5, List.mem_singleton_self _, rfl⟩⟩
    | cons other front =>
        obtain ⟨rfl, _⟩ := List.cons.inj halts.split
        cases first.symm.trans (halts.clear _ List.mem_cons_self)

-- A choice and a table that name the variable, and between them a tip with effects, which no tip has.
def raidDocument : Json :=
  .obj [
    ("choiceNodes", .arr [.obj [("nodeId", .str "a"), ("effects", .arr [.obj [("variableName", .str "金币")]])]]),
    ("tipNodes", .arr [.obj [("nodeId", .str "b"), ("effects", .arr [.obj [("variableName", .str "金币")]])]]),
    ("variables", .arr [.obj [("name", .str "金币")]])]

theorem rename_stops_halfway : ∃ graph after, Graph.load raidDocument none (.ok (.arr [])) = .ok graph ∧
    rename "金币" "gold" graph = (after, .error .missingPart) ∧
    graph.references = ["金币", "金币"] ∧ after.references = ["gold", "金币"] ∧ ¬AllOrNothing "金币" "gold" graph := by
  refine ⟨_, _, rfl, rfl, rfl, rfl, fun whole => ?_⟩
  have names : ["gold", "金币"] = ["金币", "金币"] := congrArg Graph.references whole
  exact absurd names (by decide)

end TaggedStory.Catalog
