import Mathlib.Data.List.Forall2
import TaggedStory.Document.Format
import TaggedStory.Proofs.Document.Entries
import TaggedStory.Proofs.Document.Import
import TaggedStory.Proofs.Document.NodeRecord
import TaggedStory.Proofs.Story.Extras
/-!
When a loaded graph can be written, and what the records of a document of node lists keep of its nodes.
-/
set_option autoImplicit false

namespace TaggedStory

open Decimal

section Times

def Decimal.Number.isBounded : Number → Bool
  | .whole _ => true
  | .real value => value.isFinite

-- A video with a random time has numbers for both ends of it.
def Node.IsTimed (node : Node) : Prop :=
  ∀ video, node.body = .video video → video.hasRandomTime = true →
    video.randomTimeMin.isBounded = true ∧ video.randomTimeMax.isBounded = true

theorem bound_returns (bound : Number) : (∃ text, Video.boundText bound = .ok text) ↔ bound.isBounded = true := by
  unfold Video.boundText
  by_cases zero : bound.isZero = true
  · rw [if_pos zero]
    refine iff_of_true ⟨_, rfl⟩ ?_
    cases bound with
    | whole value => rfl
    | real value =>
        cases value with
        | finite negative mantissa exponent => rfl
        | _ => cases zero
  · rw [if_neg zero]
    cases bound with
    | whole value => exact iff_of_true ⟨_, rfl⟩ rfl
    | real value =>
        cases value with
        | finite negative mantissa exponent => exact iff_of_true ⟨_, rfl⟩ rfl
        | nan => exact iff_of_false (attempt_error_returns _) Bool.false_ne_true
        | infinite negative => exact iff_of_false (attempt_error_returns _) Bool.false_ne_true

theorem random_time_returns (video : Video) : (∃ text, Video.randomTimeTag video = .ok text) ↔
    (video.hasRandomTime = true → video.randomTimeMin.isBounded = true ∧ video.randomTimeMax.isBounded = true) := by
  unfold Video.randomTimeTag
  by_cases timed : video.hasRandomTime = true
  · rw [if_pos timed, attempt_pair_returns, bound_returns, bound_returns]
    exact ⟨fun both _ => both, fun both => both timed⟩
  · rw [if_neg timed]
    exact iff_of_true ⟨_, rfl⟩ fun random => absurd random timed

theorem Node.text_returns (node : Node) (isStart : Bool) : (∃ text, node.text isStart = .ok text) ↔ node.IsTimed := by
  rw [Node.text, Node.IsTimed]
  cases node.body with
  | video video =>
      dsimp only
      rw [Video.text, attempt_map_returns, random_time_returns]
      constructor
      · intro timed other same random
        cases same
        exact timed random
      · intro timed
        exact timed video rfl
  | _ =>
      refine iff_of_true ⟨_, rfl⟩ fun video same => ?_
      cases same

theorem Interchange.entities_return (graph : Graph) (nodes : List Node) :
    (∃ entities, writeEntities graph nodes = .ok entities) ↔ ∀ node ∈ nodes, node.IsTimed := by
  induction nodes with
  | nil => exact iff_of_true ⟨[], rfl⟩ (List.forall_mem_nil _)
  | cons node rest ih =>
      rw [writeEntities, attempt_pair_returns, ih, writeEntity, attempt_map_returns, Node.text_returns, List.forall_mem_cons]

theorem Interchange.write_returns (graph : Graph) :
    (∃ written, write graph = .ok written) ↔ ∀ node ∈ graph.nodes, node.IsTimed := by
  rw [write, attempt_map_returns, entities_return]

end Times

namespace StoryData

section Effects

-- A value that reads as an effect, by its operation alone.
def isEffect : Json → Bool
  | .obj entries => ((Json.lookup? "operation" entries).map fun token => (Operation.ofToken token).isOk).getD false
  | _ => false

-- A list of such values, or an empty text or object in its place.
def areEffects : Json → Bool
  | .arr effects => effects.all isEffect
  | .str text => text = ""
  | .obj entries => entries.isEmpty
  | _ => false

theorem effect_returns (effect : Json) : (∃ numbered, numberEffect effect = .ok numbered) ↔ isEffect effect = true := by
  cases effect with
  | obj entries =>
      rw [numberEffect, isEffect]
      cases Json.lookup? "operation" entries with
      | none => exact iff_of_false (attempt_error_returns _) Bool.false_ne_true
      | some token =>
          simp only [attempt_map_returns, Option.map_some, Option.getD_some]
          cases Operation.ofToken token <;> simp [Except.isOk, Except.toBool]
  | _ => exact iff_of_false (attempt_error_returns _) Bool.false_ne_true

theorem effects_return (effects : List Json) :
    (∃ numbered, numberEffects effects = .ok numbered) ↔ effects.all isEffect = true := by
  induction effects with
  | nil => exact iff_of_true ⟨[], rfl⟩ rfl
  | cons effect rest ih => rw [numberEffects, attempt_pair_returns, effect_returns, ih, List.all_cons, Bool.and_eq_true]

theorem field_returns (value : Json) : (∃ numbered, numberField value = .ok numbered) ↔ areEffects value = true := by
  cases value with
  | arr effects => rw [numberField, attempt_map_returns, effects_return, areEffects]
  | str text =>
      by_cases empty : text = "" <;> simp [numberField, areEffects, empty]
  | obj entries =>
      cases entries <;> simp [numberField, areEffects]
  | _ => exact iff_of_false (attempt_error_returns _) Bool.false_ne_true

-- An infinity is no operation and null neither.
theorem token_finite (token : Json) : (Operation.ofToken token.finiteOnly).isOk = (Operation.ofToken token).isOk := by
  cases token with
  | float value =>
      cases value with
      | finite negative mantissa exponent => rfl
      | _ => rfl
  | _ => rfl

theorem effect_finite (effect : Json) : isEffect effect.finiteOnly = isEffect effect := by
  cases effect with
  | obj entries =>
      rw [Json.finiteOnly, isEffect, isEffect, Json.lookup_finite]
      cases Json.lookup? "operation" entries with
      | none => rfl
      | some token => exact token_finite token
  | float value =>
      rw [Json.finiteOnly]
      split <;> rfl
  | _ => rfl

theorem effects_finite (effects : List Json) : (Json.finiteItems effects).all isEffect = effects.all isEffect := by
  induction effects with
  | nil => rfl
  | cons effect rest ih => rw [Json.finiteItems, List.all_cons, List.all_cons, effect_finite, ih]

theorem field_finite (value : Json) : areEffects value.finiteOnly = areEffects value := by
  cases value with
  | arr effects => exact effects_finite effects
  | obj entries => cases entries <;> rfl
  | float value =>
      rw [Json.finiteOnly]
      split <;> rfl
  | _ => rfl

end Effects

-- The record has each extra of the node as it is written, except one that is named like the effects.
def Carries (node : Node) (record : Json) : Prop :=
  ∀ name value, name ≠ "effects" → Json.lookup? name node.header.extras = some value →
    record.field? name = some value.finiteOnly

-- An extra that is named like the effects consists of effects.
def HasEffects (node : Node) : Prop :=
  ∀ value, Json.lookup? "effects" node.header.extras = some value → areEffects value = true

theorem record_carries (node : Node) (free : node.Free) (record : Json) (written : writeNode node = .ok record) :
    Carries node record := by
  intro name value other extra
  have found := node.extra_written free name value extra
  have different : name ≠ "kind" := fun same => node.extra_fresh free name value extra (same ▸ node.kind.kind_modelled)
  cases effects : Json.lookup? "effects" (node.ownFields ++ Json.finiteFields node.header.extras) with
  | some given =>
      rw [write_node_effects node _ node.write_split given effects] at written
      obtain ⟨numbered, _, rfl⟩ := (attempt_map_ok _ _ _).mp written
      rw [Json.field?, Json.lookup_put, if_neg (Ne.symm other), Json.lookup_without _ _ _ different, found]
  | none =>
      rw [write_node_plain node _ node.write_split effects] at written
      cases written
      rw [Json.field?, Json.lookup_without _ _ _ different, found]

theorem own_effects (node : Node) :
    (∃ effects, Json.lookup? "effects" node.ownFields = some (NodeFields.effectList.write effects)) ∨
      Json.lookup? "effects" node.ownFields = none := by
  rw [Node.ownFields]
  cases node.body with
  | video | choice | card => exact .inl ⟨_, rfl⟩
  | bgm | jump | task | tip => exact .inr rfl

theorem record_returns (node : Node) (free : node.Free) : (∃ record, writeNode node = .ok record) ↔ HasEffects node := by
  have whole := Json.lookup_append "effects" node.ownFields (Json.finiteFields node.header.extras)
  rcases own_effects node with ⟨effects, own⟩ | none
  · rw [own, Option.some_or] at whole
    refine iff_of_true ⟨_, write_node_numbered node _ node.write_split effects whole⟩ fun value extra => ?_
    rw [node.own_absent "effects" (node.extra_fresh free "effects" value extra)] at own
    cases own
  · rw [none, Option.none_or, Json.lookup_finite] at whole
    rw [HasEffects]
    cases extra : Json.lookup? "effects" node.header.extras with
    | none =>
        rw [extra] at whole
        exact iff_of_true ⟨_, write_node_plain node _ node.write_split whole⟩ fun value impossible => by cases impossible
    | some value =>
        rw [extra] at whole
        rw [write_node_effects node _ node.write_split _ whole, attempt_map_returns, field_returns, field_finite]
        exact ⟨fun passes other same => Option.some.inj same ▸ passes, fun passes => passes value rfl⟩

theorem records_return (nodes : List Node) (free : ∀ node ∈ nodes, node.Free) :
    (∃ records, writeNodes nodes = .ok records) ↔ ∀ node ∈ nodes, HasEffects node := by
  induction nodes with
  | nil => exact iff_of_true ⟨[], rfl⟩ (List.forall_mem_nil _)
  | cons node rest ih =>
      obtain ⟨own, others⟩ := List.forall_mem_cons.mp free
      rw [writeNodes, attempt_pair_returns, record_returns node own, ih others, List.forall_mem_cons]

theorem write_returns (graph : Graph) (free : ∀ node ∈ graph.nodes, node.Free) :
    (∃ written, write graph = .ok written) ↔ ∀ node ∈ graph.nodes, HasEffects node := by
  rw [write, attempt_map_returns, records_return graph.nodes free]

-- The records in the list of a kind.
def recordsIn (kind : Kind) (document : Json) : List Json :=
  VisualGraph.itemsOf ((document.field? (listName kind)).getD .null)

theorem kind_carried (kind : Kind) (nodes : List Node) (free : ∀ node ∈ nodes, node.Free) (records : List (Kind × Json))
    (written : writeNodes nodes = .ok records) :
    List.Forall₂ Carries (nodes.filter fun node => node.kind = kind) ((records.filter fun record => record.1 = kind).map (·.2)) := by
  induction nodes generalizing records with
  | nil =>
      cases written
      exact .nil
  | cons node rest ih =>
      obtain ⟨own, others⟩ := List.forall_mem_cons.mp free
      obtain ⟨record, first, written⟩ := (attempt_bind_ok _ _ _).mp written
      obtain ⟨later, onward, written⟩ := (attempt_bind_ok _ _ _).mp written
      obtain rfl := (attempt_pure_ok _ _).mp written
      by_cases same : node.kind = kind
      · rw [List.filter_cons_of_pos (by simpa using same), List.filter_cons_of_pos (by simpa using same), List.map_cons]
        exact .cons (record_carries node own record first) (ih others later onward)
      · rw [List.filter_cons_of_neg (by simpa using same), List.filter_cons_of_neg (by simpa using same)]
        exact ih others later onward

theorem write_carries (graph : Graph) (free : ∀ node ∈ graph.nodes, node.Free) (written : Json) (done : write graph = .ok written)
    (kind : Kind) : List.Forall₂ Carries (graph.nodesOf kind) (recordsIn kind written) := by
  obtain ⟨records, recorded, rfl⟩ := (attempt_map_ok _ _ _).mp done
  have carried := kind_carried kind graph.nodes free records recorded
  cases kind <;> exact carried

end StoryData

section Loading

theorem StoryData.load_free (document : Json) (graph : Graph) (loaded : load document = .ok graph) :
    ∀ node ∈ graph.nodes, node.Free := by
  cases document with
  | obj fields =>
      obtain ⟨given, state, table, supplemental, start, _, added, _, _, _, rfl⟩ := (load_ok _ _).mp loaded
      refine attempt_fold_upholds _ (fun state : Loaded => ∀ node ∈ state.nodes, node.Free) given ?_ {} state
        (List.forall_mem_nil _) added
      intro state held list _ next done
      rw [add_nodes_entries] at done
      refine all_taken _ _ Node.Free (fun raw node read => ?_) 0 state next list.2.2 held done
      obtain ⟨value, read⟩ := entry_read list.1 raw node read
      exact Node.read_free list.1 value node read
  | _ => cases loaded

theorem VisualGraph.load_free (document : Json) (graph : Graph) (loaded : load document = .ok graph) :
    ∀ node ∈ graph.nodes, node.Free := by
  cases document with
  | obj fields =>
      obtain ⟨state, table, start, _, added, _, _, rfl⟩ := (load_ok _ _).mp loaded
      rw [add_nodes_entries] at added
      refine StoryData.all_taken _ _ Node.Free (fun raw node read => ?_) 0 {} state _ (List.forall_mem_nil _) added
      obtain ⟨kind, value, read⟩ := entry_read _ raw node read
      exact Node.read_free kind value node read
  | _ => cases loaded

-- What is read from texts has no extras.
theorem Interchange.load_free (document : Json) (template : Attempt Json) (graph : Graph)
    (loaded : load document template = .ok graph) : ∀ node ∈ graph.nodes, node.Free := by
  obtain ⟨content, imported, steps⟩ := load_steps document template graph loaded
  obtain ⟨placement, placed⟩ := steps.placed
  have plain : ∀ node ∈ imported.nodes, node.header.extras = [] := by
    refine attempt_fold_upholds _ (fun state : Import => ∀ node ∈ state.nodes, node.header.extras = []) _ ?_ _ imported
      (List.forall_mem_nil _) placed
    intro state held entity _ next done
    obtain ⟨node, position, same, shape⟩ := add_node_shape placement _ state next entity done
    have bare : node.header.extras = [] := congrArg Header.extras same
    rw [shape]
    intro other member
    rcases List.mem_append.mp member with earlier | last
    · exact held other earlier
    · rw [List.mem_singleton.mp last]
      exact bare
  intro node member
  rw [steps.nodes] at member
  obtain ⟨before, present, rfl⟩ := List.mem_map.mp member
  intro key _
  rw [Graph.settle_video_heading, plain before present]
  exact List.not_mem_nil

theorem Graph.load_free (document : Json) (format : Option Format) (template : Attempt Json) (graph : Graph)
    (loaded : Graph.load document format template = .ok graph) : ∀ node ∈ graph.nodes, node.Free := by
  rw [Graph.load] at loaded
  cases form : format.or (Format.detect? document) with
  | none =>
      rw [form] at loaded
      cases loaded
  | some format =>
      rw [form] at loaded
      cases format with
      | interchange => exact Interchange.load_free document template graph loaded
      | storyData => exact StoryData.load_free document graph loaded
      | visualGraph => exact VisualGraph.load_free document graph loaded

end Loading

theorem loaded_graph_exports (document : Json) (format : Option Format) (template : Attempt Json) (graph : Graph)
    (loaded : Graph.load document format template = .ok graph) :
    (∃ written, Format.visualGraph.write graph = .ok written) ∧
    ((∃ written, Format.interchange.write graph = .ok written) ↔ ∀ node ∈ graph.nodes, node.IsTimed) ∧
    ((∃ written, Format.storyData.write graph = .ok written) ↔ ∀ node ∈ graph.nodes, StoryData.HasEffects node) ∧
    ∀ written, Format.storyData.write graph = .ok written →
      ∀ kind, List.Forall₂ StoryData.Carries (graph.nodesOf kind) (StoryData.recordsIn kind written) := by
  have free := Graph.load_free document format template graph loaded
  exact ⟨⟨_, rfl⟩, Interchange.write_returns graph, StoryData.write_returns graph free, StoryData.write_carries graph free⟩

namespace StoryData

-- A tip with a field that no kind models, and a video with a random time.
def notedDocument : Json :=
  .obj [
    ("tipNodes", .arr [.obj [("nodeId", .str "t"), ("note", .arr [.int 7, .null])]]),
    ("videoNodes", .arr [.obj [("nodeId", .str "v"), ("hasRandomTimeEvent", .bool true), ("randomTimeMaxSeconds", .int 9)]])]

def noted : Graph where
  nodes := [
    ⟨{ id := "v" }, .video {
      hasRandomTime := true, randomTimeMin := .real .zero, randomTimeMax := .real (Double.ofInt 9) }⟩,
    ⟨{ id := "t", extras := [("note", .arr [.int 7, .null])] }, .tip {}⟩]

theorem noted_exports : (∃ written, Format.interchange.write noted = .ok written) ∧
    ∃ written, Format.storyData.write noted = .ok written ∧
      ∀ kind, List.Forall₂ Carries (noted.nodesOf kind) (recordsIn kind written) := by
  obtain ⟨_, texts, records, carried⟩ := loaded_graph_exports notedDocument none (.ok (.arr [])) noted rfl
  have timed : ∀ node ∈ noted.nodes, node.IsTimed := by
    intro node member video same _
    rcases List.mem_pair.mp member with rfl | rfl
    · cases same
      exact ⟨rfl, rfl⟩
    · cases same
  have numbered : ∀ node ∈ noted.nodes, HasEffects node := by
    intro node member value found
    rcases List.mem_pair.mp member with rfl | rfl
    · cases found
    · cases show none = some value from found
  obtain ⟨written, done⟩ := records.mpr numbered
  exact ⟨texts.mpr timed, written, done, carried written done⟩

-- A field that no tip has, named like the effects of other kinds.
def numberedTip : Json :=
  .obj [("tipNodes", .arr [.obj [("nodeId", .str "a"), ("effects", .int 5)]])]

-- A random time without an end.
def endlessVideo : Json :=
  .obj [("videoNodes", .arr [
    .obj [("nodeId", .str "a"), ("hasRandomTimeEvent", .bool true), ("randomTimeMaxSeconds", .float (.infinite false))]])]

theorem loaded_graphs_refused :
    (∃ graph, Graph.load numberedTip none (.ok (.arr [])) = .ok graph ∧
      Format.storyData.write graph = .error .wrongShape) ∧
    (∃ graph, Graph.load endlessVideo none (.ok (.arr [])) = .ok graph ∧
      Format.interchange.write graph = .error .tooLarge) :=
  ⟨⟨_, rfl, rfl⟩, ⟨_, rfl, rfl⟩⟩

end StoryData

end TaggedStory
