import TaggedStory.Catalog.Rename
import TaggedStory.Proofs.Catalog.References
import TaggedStory.Proofs.Json.Fields
/-!
What a renaming does to the parts of a graph: the old name gives way to the new one wherever a record names it, and as
many references are counted as held the old name. In a graph without stray fields this is a change of the names alone,
which the renaming back undoes if the new name was not in use.
-/
set_option autoImplicit false

namespace TaggedStory.Catalog

open Named

-- The name that stands for a name afterwards.
def nameAfter (old new name : String) : String :=
  if name = old then new else name

section Parts

variable (old new : String)

theorem rename_text (text : String) : renameText old new text = ⟨nameAfter old new text, [text].count old⟩ := by
  rw [renameText, nameAfter]
  by_cases same : text = old
  · rw [if_pos same, if_pos same, same, List.count_singleton_self]
  · rw [if_neg same, if_neg same, List.count_singleton, beq_false_of_ne same]
    rfl

theorem rename_each {α : Type} [Named α] (rename : α → Renamed α)
    (records : ∀ item, rename item = (renameText old new (name item)).map (withName · item)) (items : List α) :
    renameEach rename items = ⟨mapNames (nameAfter old new) items, (names items).count old⟩ := by
  induction items with
  | nil => rfl
  | cons item rest ih =>
      simp only [renameEach, Renamed.mk.injEq] at ih
      obtain ⟨values, count⟩ := ih
      have first : rename item = ⟨mapName (nameAfter old new) item, [name item].count old⟩ := by
        rw [records, rename_text]
        rfl
      have total : (names (item :: rest)).count old = [name item].count old + (names rest).count old := by
        rw [← List.count_append]
        rfl
      simp only [renameEach, List.map_cons, List.foldr_cons, values, count, first, total]
      rfl

theorem rename_offer (offer : Offer) :
    renameOffer old new offer = ⟨offer.mapNames (nameAfter old new), offer.references.count old⟩ := by
  simp only [renameOffer, rename_each old new (renameCondition old new) fun _ => rfl,
    rename_each old new (renameEffect old new) fun _ => rfl, Offer.mapNames, Offer.references, List.count_append]

theorem rename_video (video : Video) :
    renameVideo old new video = ⟨video.mapNames (nameAfter old new), video.references.count old⟩ := by
  simp only [renameVideo, rename_each old new (renameCondition old new) fun _ => rfl,
    rename_each old new (renameEffect old new) fun _ => rfl, rename_each old new (renameRate old new) fun _ => rfl,
    rename_each old new (renameOverride old new) fun _ => rfl, rename_text, Video.mapNames, Video.references, List.count_append]

theorem rename_body (body : Body) :
    renameBody old new body = ⟨body.mapNames (nameAfter old new), body.references.count old⟩ := by
  cases body with
  | video video => rw [renameBody, rename_video]; rfl
  | choice choice => rw [renameBody, rename_offer]; rfl
  | card card => rw [renameBody, rename_offer]; rfl
  | _ => rfl

end Parts

section Nodes

variable (old new : String)

-- The name in the field for a variable bar of a node whose kind has none.
def barExtra (extras : Json.Fields) : List String :=
  match Json.lookup? "variable_bar_name" extras with
  | some (.str name) => [name]
  | _ => []

def looseBar (node : Node) : List String :=
  if node.kind = .video then [] else barExtra node.header.extras

-- The node after a renaming that went through.
def renamedNode (node : Node) : Node :=
  (node.mapNames (nameAfter old new)).mapHeader fun header =>
    { header with extras := if node.kind = .video then header.extras else (renameBarExtra old new header.extras).value }

theorem bar_extra_count (extras : Json.Fields) : (renameBarExtra old new extras).count = (barExtra extras).count old := by
  rw [renameBarExtra, barExtra]
  cases Json.lookup? "variable_bar_name" extras with
  | none => rfl
  | some value =>
      cases value with
      | str name =>
          dsimp only
          by_cases same : name = old
          · rw [if_pos same, same, List.count_singleton_self]
          · rw [if_neg same, List.count_singleton, beq_false_of_ne same]
            rfl
      | _ => rfl

theorem rename_node_clear (node : Node) (clear : strayRecords node = []) :
    renameNode old new node = .done ⟨renamedNode old new node, (node.references ++ looseBar node).count old⟩ := by
  have none_ : ([] : List Json).any isNoList = false := rfl
  simp only [renameNode, clear, none_, Bool.false_eq_true, if_false, List.isEmpty_nil, if_true, rename_body, renamedNode,
    looseBar, List.count_append, Node.references]
  by_cases video : node.kind = .video
  · simp only [if_pos video]
    rfl
  · simp only [if_neg video, ← bar_extra_count old new]
    rfl

theorem rename_nodes_clear (nodes : List Node) (clear : ∀ node ∈ nodes, strayRecords node = []) :
    renameNodes old new nodes =
      (nodes.map (renamedNode old new), .ok ((nodes.flatMap fun node => node.references ++ looseBar node).count old)) := by
  induction nodes with
  | nil => rfl
  | cons node rest ih =>
      have others := ih fun other member => clear other (List.mem_cons_of_mem node member)
      rw [renameNodes, rename_node_clear old new node (clear node List.mem_cons_self)]
      simp only [others, Except.map, List.map_cons, List.flatMap_cons, List.count_append]

theorem rename_clear (graph : Graph) (oldNamed : old ≠ "") (newNamed : new ≠ "") (different : old ≠ new)
    (clear : ∀ node ∈ graph.nodes, strayRecords node = []) :
    rename old new graph =
      ({ graph.mapNames (nameAfter old new) with nodes := graph.nodes.map (renamedNode old new) },
        .ok (((graph.nodes.flatMap fun node => node.references ++ looseBar node) ++ names graph.table ++
          names graph.supplemental).count old)) := by
  have named : ¬(old = "" ∨ new = "" ∨ old = new) := by simp [oldNamed, newNamed, different]
  rw [rename, if_neg named, rename_nodes_clear old new graph.nodes clear]
  simp only [rename_each old new (renameVariable old new) fun _ => rfl, List.count_append]
  rfl

end Nodes

-- The fields that the renaming looks for on nodes of every kind.
def recordFields : List String :=
  ["conditions", "effects", "rate_effects", "max_default_value_overrides", "min_default_value_overrides", "variable_bar_name"]

-- None of its fields without a place in its kind has the name of such a field.
def IsModelled (node : Node) : Prop :=
  ∀ field ∈ recordFields, Json.has field node.header.extras = false

instance (node : Node) : Decidable (IsModelled node) :=
  inferInstanceAs (Decidable (∀ field ∈ recordFields, Json.has field node.header.extras = false))

section Modelled

variable (old new : String) (node : Node) (modelled : IsModelled node)

include modelled

theorem modelled_clear : strayRecords node = [] := by
  rw [strayRecords, List.filter_eq_nil_iff]
  intro value member
  obtain ⟨field, listed, rfl⟩ := List.mem_map.mp member
  have known : field ∈ recordFields := by
    revert listed
    cases node.kind <;> simp only [unmodelled, recordFields, List.mem_cons] <;> tauto
  have absent : Json.lookup? field node.header.extras = none := Option.not_isSome_iff_eq_none.mp (by simpa [Json.has] using modelled field known)
  rw [Json.get, absent]
  exact Bool.false_ne_true

theorem modelled_no_bar : Json.lookup? "variable_bar_name" node.header.extras = none := by
  have absent := modelled "variable_bar_name" (by decide)
  simpa [Json.has] using absent

theorem modelled_no_loose_bar : looseBar node = [] := by
  rw [looseBar, barExtra, modelled_no_bar node modelled]
  exact ite_self _

theorem modelled_renamed : renamedNode old new node = node.mapNames (nameAfter old new) := by
  have same : (renameBarExtra old new node.header.extras).value = node.header.extras := by
    rw [renameBarExtra, modelled_no_bar node modelled]
    rfl
  have extras : (if node.kind = .video then node.header.extras else (renameBarExtra old new node.header.extras).value) =
      node.header.extras := by rw [same, ite_self]
  exact congrArg (fun fields => (⟨{ node.header with extras := fields }, node.body.mapNames _⟩ : Node)) extras

end Modelled

theorem rename_modelled (old new : String) (graph : Graph) (oldNamed : old ≠ "") (newNamed : new ≠ "") (different : old ≠ new)
    (modelled : ∀ node ∈ graph.nodes, IsModelled node) :
    rename old new graph = (graph.mapNames (nameAfter old new), .ok (graph.references.count old)) := by
  have nodes : graph.nodes.map (renamedNode old new) = graph.nodes.map (Node.mapNames (nameAfter old new)) :=
    List.map_congr_left fun node member => modelled_renamed old new node (modelled node member)
  have listed : graph.nodes.flatMap (fun node => node.references ++ looseBar node) = graph.nodes.flatMap Node.references := by
    refine List.flatMap_congr fun node member => ?_
    rw [modelled_no_loose_bar node (modelled node member), List.append_nil]
  rw [rename_clear old new graph oldNamed newNamed different fun node member => modelled_clear node (modelled node member),
    nodes, listed]
  rfl

theorem name_after_absent (old new name : String) (different : old ≠ new) : nameAfter old new name ≠ old := by
  rw [nameAfter]
  split
  case isTrue => exact different.symm
  case isFalse other => exact other

-- Renaming back gives every name but the new one back.
theorem name_after_back (old new name : String) (different : old ≠ new) :
    nameAfter new old (nameAfter old new name) = name ↔ name ≠ new := by
  by_cases same : name = old
  · simp [nameAfter, same, different]
  · by_cases fresh : name = new
    · simp [nameAfter, fresh, different, different.symm]
    · simp [nameAfter, same, fresh]

theorem rename_back (old new : String) (graph : Graph) (different : old ≠ new) :
    (graph.mapNames (nameAfter old new)).mapNames (nameAfter new old) = graph ↔ new ∉ graph.references := by
  rw [Graph.mapped_again]
  constructor
  · intro restored used
    have names := graph.references_mapped (nameAfter new old ∘ nameAfter old new)
    rw [restored] at names
    exact (name_after_back old new new different).mp ((map_fixed _ _).mp names.symm new used) rfl
  · intro unused
    refine graph.mapped_fixed _ fun name member => ?_
    exact (name_after_back old new name different).mpr fun same => unused (same ▸ member)

theorem rename_exact (old new : String) (graph : Graph) (oldNamed : old ≠ "") (newNamed : new ≠ "") (different : old ≠ new)
    (modelled : ∀ node ∈ graph.nodes, IsModelled node) :
    let (renamed, outcome) := rename old new graph
    outcome = .ok (graph.references.count old) ∧
    renamed.references = graph.references.map (nameAfter old new) ∧
    old ∉ renamed.references ∧
    renamed.nameless = graph.nameless ∧
    ((rename new old renamed).1 = graph ↔ new ∉ graph.references) := by
  rw [rename_modelled old new graph oldNamed newNamed different modelled]
  have references := graph.references_mapped (nameAfter old new)
  refine ⟨rfl, references, ?_, graph.nameless_mapped _, ?_⟩
  · rw [references, List.mem_map]
    rintro ⟨name, _, same⟩
    exact name_after_absent old new name different same
  · have still : ∀ node ∈ (graph.mapNames (nameAfter old new)).nodes, IsModelled node :=
      List.forall_mem_map.mpr modelled
    rw [rename_modelled new old _ newNamed oldNamed different.symm still]
    exact rename_back old new graph different

-- A purchase that names its price in four places, a choice about another variable, and a tip with a note.
def shop : Graph where
  nodes := [
    ⟨{ id := "v" }, .video {
      conditions := [{ name := "金币", comparison := .atLeast, value := "1" }]
      effects := [{ name := "金币", operation := .subtract, value := "1" }]
      rates := [{ name := "体力" }]
      maxOverrides := [{ name := "金币", value := "9" }]
      variableBarName := "金币" }⟩,
    ⟨{ id := "c" }, .choice { offer := { effects := [{ name := "体力" }] } }⟩,
    ⟨{ id := "t", extras := [("note", .int 7)] }, .tip {}⟩]
  table := [{ name := "金币" }]

theorem shop_renamed : (∀ node ∈ shop.nodes, IsModelled node) ∧
    (rename "金币" "gold" shop).2 = .ok 5 ∧ "金币" ∉ (rename "金币" "gold" shop).1.references ∧
    (rename "gold" "金币" (rename "金币" "gold" shop).1).1 = shop ∧
    (rename "体力" "金币" (rename "金币" "体力" shop).1).1 ≠ shop := by
  have modelled : ∀ node ∈ shop.nodes, IsModelled node := by decide
  obtain ⟨count, _, gone, _, back⟩ := rename_exact "金币" "gold" shop (by decide) (by decide) (by decide) modelled
  obtain ⟨_, _, _, _, mixed⟩ := rename_exact "金币" "体力" shop (by decide) (by decide) (by decide) modelled
  exact ⟨modelled, count, gone, back.mpr (by decide), fun restored => mixed.mp restored (by decide)⟩

end TaggedStory.Catalog
