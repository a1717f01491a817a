import TaggedStory.Document.StoryData
import TaggedStory.Proofs.Story.Extras
import TaggedStory.Proofs.Story.Validated
/-!
A node is read back from the record in a document of node lists, where its kind is left out and the operations of
its effects are numbers.
-/
set_option autoImplicit false

namespace TaggedStory

open NodeFields

namespace Effect

theorem keys_distinct : (schema.fields.map Field.key).Nodup := by decide

-- An effect with the number of its operation.
def numbered (effect : Effect) : Json :=
  .obj (Json.put "operation" (.int effect.operation.number) (schema.entriesOf effect))

theorem number_read (operation : Operation) : operationCodec.read (.int operation.number) = .ok operation := by
  cases operation <;> rfl

theorem word_token (operation : Operation) : Operation.ofToken (.str operation.word) = .ok operation := by
  cases operation <;> rfl

theorem effect_numbered (effect : Effect) : StoryData.numberEffect (schema.write effect) = .ok effect.numbered := by
  have found : Json.lookup? "operation" (schema.entriesOf effect) = some (.str effect.operation.word) := rfl
  change StoryData.numberEffect (.obj (schema.entriesOf effect)) = _
  rw [StoryData.numberEffect, found]
  simp only [word_token]
  rfl

theorem numbered_read (effect : Effect) : schema.read effect.numbered = .ok effect := by
  have alike : ∀ field ∈ schema.fields, field.key = "operation" →
      field.read (.int effect.operation.number) = field.read (field.write effect) := by
    have same : operationCodec.read (.int effect.operation.number) = operationCodec.read (operationCodec.write effect.operation) :=
      (number_read effect.operation).trans (operation_restores effect.operation).symm
    have present : .of "operation" "operation" operationCodec operation (fun x r => { r with operation := x }) ∈ schema.fields :=
      List.mem_of_getElem? (i := 1) rfl
    exact schema.alike_of_member effect keys_distinct _ present _ (Field.of_alike same)
  exact schema.read_carried effect _ effect effect.fields_restore
    (Restores.carries_put (schema.written_carries effect keys_distinct) "operation" _ alike)

theorem effects_numbered (effects : List Effect) :
    StoryData.numberField (effectList.write effects) = .ok (.arr (effects.map numbered)) := by
  have each : ∀ effects : List Effect, StoryData.numberEffects (effects.map schema.write) = .ok (effects.map numbered) := by
    intro effects
    induction effects with
    | nil => rfl
    | cons effect rest ih =>
        rw [List.map_cons, StoryData.numberEffects, effect_numbered, ih]
        rfl
  change (StoryData.numberEffects (effects.map schema.write)).map Json.arr = _
  rw [each]
  rfl

theorem numbered_effects_read (effects : List Effect) : effectList.read (.arr (effects.map numbered)) = .ok effects :=
  Codec.list_given schema.codec numbered effects fun effect _ => effect.numbered_read

end Effect

namespace StoryData

-- A node that comes back from its record once the kind is put to it again.
def ReturnsAs (kind : Kind) (node : Node) : Prop :=
  ∃ entries, writeNode node = .ok (.obj entries) ∧
    Node.readAs kind (.obj (Json.put "kind" (.str kind.word) entries)) = .ok node

variable (node : Node) (entries : Json.Fields) (written : node.write = .obj entries)

include written

theorem write_node_plain (absent : Json.lookup? "effects" entries = none) :
    writeNode node = .ok (.obj (Json.without "kind" entries)) := by
  have same : Json.lookup? "effects" (Json.without "kind" entries) = none := by
    rw [Json.lookup_without "kind" "effects" entries (by decide), absent]
  simp only [writeNode, written, same]

theorem write_node_effects (value : Json) (found : Json.lookup? "effects" entries = some value) : writeNode node =
    (numberField value).map fun effects => .obj (Json.put "effects" effects (Json.without "kind" entries)) := by
  have same : Json.lookup? "effects" (Json.without "kind" entries) = some value := by
    rw [Json.lookup_without "kind" "effects" entries (by decide), found]
  simp only [writeNode, written, same]

theorem write_node_numbered (effects : List Effect) (found : Json.lookup? "effects" entries = some (effectList.write effects)) :
    writeNode node = .ok (.obj (Json.put "effects" (.arr (effects.map Effect.numbered)) (Json.without "kind" entries))) := by
  rw [write_node_effects node entries written _ found, Effect.effects_numbered]
  rfl

end StoryData

namespace NodeOf

section Record

variable {B : Type} {holds : B → Prop} (kind : Kind) (initial : B) (shared own : List (Field B)) (node : NodeOf B)

-- A node that its schema reads back once the extras are set aside.
structure Returns : Prop where
  distinct : ((schemaOf kind initial shared own).fields.map Field.key).Nodup
  restores : Restores node (schemaOf kind initial shared own).fields ⟨{}, initial⟩
    ⟨{ node.header with extras := [] }, node.body⟩
  free : ∀ field ∈ (schemaOf kind initial shared own).fields, field.key ∉ node.header.extras.map (·.1)
  finite : Json.finiteFields node.header.extras = node.header.extras

variable {kind initial shared own node} (returns : Returns kind initial shared own node)

theorem kind_member : Kind.field (NodeOf B) kind ∈ (schemaOf kind initial shared own).fields :=
  List.mem_append_right _ List.mem_cons_self

include returns

theorem kind_alike (field : Field (NodeOf B)) (member : field ∈ (schemaOf kind initial shared own).fields)
    (named : field.key = "kind") : field.read (.str kind.word) = field.read (field.write node) :=
  (schemaOf kind initial shared own).alike_of_member node returns.distinct (Kind.field (NodeOf B) kind) kind_member _ rfl
    field member named

-- Any entries that carry the fields and keep the extras.
theorem entries_read (entries : Json.Fields)
    (carried : Restores.Carries node (schemaOf kind initial shared own).fields entries)
    (kept : (schemaOf kind initial shared own).foreign entries =
      (schemaOf kind initial shared own).foreign ((schemaOf kind initial shared own).entriesOf node)) :
    (schemaOf kind initial shared own).readFields entries = .ok node := by
  have extras : (schemaOf kind initial shared own).foreign entries = node.header.extras := by
    rw [kept, (schemaOf kind initial shared own).foreign_written node returns.free]
    exact returns.finite
  rw [(schemaOf kind initial shared own).read_carried node entries _ returns.restores carried, extras]
  rfl

theorem record_read : (schemaOf kind initial shared own).readFields
    (Json.put "kind" (.str kind.word) (Json.without "kind" ((schemaOf kind initial shared own).entriesOf node))) = .ok node := by
  have taken : "kind" ∈ (schemaOf kind initial shared own).fields.map Field.key := List.mem_map_of_mem kind_member
  refine entries_read returns _ ?_ ?_
  · exact Restores.carries_moved ((schemaOf kind initial shared own).written_carries node returns.distinct) "kind" _
      (kind_alike returns)
  · rw [Schema.foreign_put _ _ _ _ taken, Schema.foreign_without _ _ _ taken]

theorem numbered_record_read (field : Field (NodeOf B)) (member : field ∈ (schemaOf kind initial shared own).fields)
    (named : field.key = "effects") (value : Json) (alike : field.read value = field.read (field.write node)) :
    (schemaOf kind initial shared own).readFields (Json.put "kind" (.str kind.word) (Json.put "effects" value
      (Json.without "kind" ((schemaOf kind initial shared own).entriesOf node)))) = .ok node := by
  have taken : "kind" ∈ (schemaOf kind initial shared own).fields.map Field.key := List.mem_map_of_mem kind_member
  have takenToo : "effects" ∈ (schemaOf kind initial shared own).fields.map Field.key := named ▸ List.mem_map_of_mem member
  have others := (schemaOf kind initial shared own).alike_of_member node returns.distinct field member value alike
  rw [named] at others
  rw [Json.put_without "effects" "kind" value _ (by decide)]
  refine entries_read returns _ ?_ ?_
  · refine Restores.carries_moved ?_ "kind" _ (kind_alike returns)
    exact Restores.carries_put ((schemaOf kind initial shared own).written_carries node returns.distinct) "effects" value others
  · rw [Schema.foreign_put _ _ _ _ taken, Schema.foreign_without _ _ _ taken, Schema.foreign_put _ _ _ _ takenToo]

variable (wrap : B → Body) (writes : Node.write (node.mapBody wrap) = .obj ((schemaOf kind initial shared own).entriesOf node))
variable (reads : ∀ entries, Node.readAs kind (.obj entries) =
  ((schemaOf kind initial shared own).readFields entries).map fun read => read.mapBody wrap)

include writes reads

theorem plain_returns (unmodelled : "effects" ∉ (schemaOf kind initial shared own).fields.map Field.key)
    (plain : "effects" ∉ node.header.extras.map (·.1)) : StoryData.ReturnsAs kind (node.mapBody wrap) := by
  have absent : Json.lookup? "effects" ((schemaOf kind initial shared own).entriesOf node) = none := by
    refine Json.lookup_absent _ _ fun member => ?_
    rw [Schema.entriesOf, List.map_append, List.map_map, List.mem_append] at member
    refine member.elim unmodelled fun extra => plain ?_
    rw [← Json.finite_names]
    exact extra
  refine ⟨_, StoryData.write_node_plain _ _ writes absent, ?_⟩
  rw [reads, record_read returns]
  rfl

theorem numbered_returns (field : Field (NodeOf B)) (member : field ∈ (schemaOf kind initial shared own).fields)
    (named : field.key = "effects") (effects : List Effect) (written : field.write node = effectList.write effects)
    (alike : field.read (.arr (effects.map Effect.numbered)) = field.read (field.write node)) :
    StoryData.ReturnsAs kind (node.mapBody wrap) := by
  have found : Json.lookup? "effects" ((schemaOf kind initial shared own).entriesOf node) = some (effectList.write effects) := by
    rw [← named, ← written]
    exact (schemaOf kind initial shared own).written_field node returns.distinct field member
  refine ⟨_, StoryData.write_node_numbered _ _ writes effects found, ?_⟩
  rw [reads, numbered_record_read returns field member named _ alike]
  rfl

end Record

end NodeOf

section Kinds

open NodeOf

variable (value : Json)

def effectsField {R : Type} (get : R → List Effect) (set : List Effect → R → R) : Field R :=
  .of "effects" "effects" effectList get set

theorem effects_alike {R : Type} (get : R → List Effect) (set : List Effect → R → R) (record : R) :
    (effectsField get set).read (.arr ((get record).map Effect.numbered)) =
      (effectsField get set).read ((effectsField get set).write record) := by
  change (effectList.read _).map set = (effectList.read (effectList.write (get record))).map set
  rw [Effect.numbered_effects_read, effects_restored (get record)]

theorem lifted_alike {R S : Type} {get : S → R} {update : (R → R) → S → S} {field : Field R} {given wrote : Json}
    (alike : field.read given = field.read wrote) :
    (field.lift get update).read given = (field.lift get update).read wrote :=
  congrArg (fun outcome => outcome.map update) alike

theorem Video.record_returns (node : NodeOf Video) (read : Video.schema.read value = .ok node)
    (finite : Json.finiteFields node.header.extras = node.header.extras)
    (finiteBody : Json.finiteFields node.body.subtitles = node.body.subtitles) :
    Returns .video ({} : Video) [] Video.fields node := by
  have valid := Video.read_valid value node read
  exact ⟨Kind.keys_distinct .video,
    NodeOf.fields_restore _ _ _ _ _ node valid.placed (.nil _) (node.body.fields_restore valid.body finiteBody), valid.free, finite⟩

theorem Video.returns (node : NodeOf Video) (read : Video.schema.read value = .ok node)
    (finite : Json.finiteFields node.header.extras = node.header.extras)
    (finiteBody : Json.finiteFields node.body.subtitles = node.body.subtitles) :
    StoryData.ReturnsAs .video (node.mapBody .video) := by
  have returns := Video.record_returns value node read finite finiteBody
  have member : effectsField Video.effects (fun x r => { r with effects := x }) ∈ Video.fields := by
    simp [Video.fields, effectsField]
  exact numbered_returns returns .video rfl (fun _ => rfl) _
    (List.mem_append_right _ (List.mem_cons_of_mem _ (List.mem_map_of_mem member))) rfl node.body.effects rfl
    (lifted_alike (effects_alike _ _ node.body))

theorem Choice.record_returns (node : NodeOf Choice) (read : Choice.schema.read value = .ok node)
    (finite : Json.finiteFields node.header.extras = node.header.extras) :
    Returns .choice ({} : Choice) Choice.offerFields Choice.fields node := by
  have valid := Choice.read_valid value node read
  exact ⟨Kind.keys_distinct .choice,
    NodeOf.fields_restore _ _ _ _ _ node valid.placed node.body.offer_restores (node.body.fields_restore valid.body), valid.free,
    finite⟩

theorem Choice.returns (node : NodeOf Choice) (read : Choice.schema.read value = .ok node)
    (finite : Json.finiteFields node.header.extras = node.header.extras) :
    StoryData.ReturnsAs .choice (node.mapBody .choice) := by
  have returns := Choice.record_returns value node read finite
  have member : effectsField Offer.effects (fun x r => { r with effects := x }) ∈ Offer.fields := by
    simp [Offer.fields, effectsField]
  exact numbered_returns returns .choice rfl (fun _ => rfl) _
    (List.mem_append_left _ (List.mem_append_right _ (List.mem_map_of_mem (List.mem_map_of_mem member)))) rfl
    node.body.offer.effects rfl (lifted_alike (lifted_alike (effects_alike _ _ node.body.offer)))

theorem Card.record_returns (node : NodeOf Card) (read : Card.schema.read value = .ok node)
    (finite : Json.finiteFields node.header.extras = node.header.extras) :
    Returns .card ({} : Card) Card.offerFields Card.fields node := by
  have valid := Card.read_valid value node read
  exact ⟨Kind.keys_distinct .card,
    NodeOf.fields_restore _ _ _ _ _ node valid.placed node.body.offer_restores node.body.fields_restore, valid.free, finite⟩

theorem Card.returns (node : NodeOf Card) (read : Card.schema.read value = .ok node)
    (finite : Json.finiteFields node.header.extras = node.header.extras) :
    StoryData.ReturnsAs .card (node.mapBody .card) := by
  have returns := Card.record_returns value node read finite
  have member : effectsField Offer.effects (fun x r => { r with effects := x }) ∈ Offer.fields := by
    simp [Offer.fields, effectsField]
  exact numbered_returns returns .card rfl (fun _ => rfl) _
    (List.mem_append_left _ (List.mem_append_right _ (List.mem_map_of_mem (List.mem_map_of_mem member)))) rfl
    node.body.offer.effects rfl (lifted_alike (lifted_alike (effects_alike _ _ node.body.offer)))

theorem Bgm.record_returns (node : NodeOf Bgm) (read : Bgm.schema.read value = .ok node)
    (finite : Json.finiteFields node.header.extras = node.header.extras) :
    Returns .bgm ({} : Bgm) [] Bgm.fields node := by
  have valid := Bgm.read_valid value node read
  exact ⟨Kind.keys_distinct .bgm,
    NodeOf.fields_restore _ _ _ _ _ node valid.placed (.nil _) (node.body.fields_restore valid.body), valid.free, finite⟩

theorem Bgm.returns (node : NodeOf Bgm) (read : Bgm.schema.read value = .ok node)
    (finite : Json.finiteFields node.header.extras = node.header.extras) (plain : "effects" ∉ node.header.extras.map (·.1)) :
    StoryData.ReturnsAs .bgm (node.mapBody .bgm) :=
  plain_returns (Bgm.record_returns value node read finite) .bgm rfl (fun _ => rfl) (Kind.effects_unmodelled .bgm (by decide)) plain

theorem Jump.record_returns (node : NodeOf Jump) (read : Jump.schema.read value = .ok node)
    (finite : Json.finiteFields node.header.extras = node.header.extras) :
    Returns .jump ({} : Jump) [] Jump.fields node := by
  have valid := Jump.read_valid value node read
  exact ⟨Kind.keys_distinct .jump,
    NodeOf.fields_restore _ _ _ _ _ node valid.placed (.nil _) node.body.fields_restore, valid.free, finite⟩

theorem Jump.returns (node : NodeOf Jump) (read : Jump.schema.read value = .ok node)
    (finite : Json.finiteFields node.header.extras = node.header.extras) (plain : "effects" ∉ node.header.extras.map (·.1)) :
    StoryData.ReturnsAs .jump (node.mapBody .jump) :=
  plain_returns (Jump.record_returns value node read finite) .jump rfl (fun _ => rfl) (Kind.effects_unmodelled .jump (by decide)) plain

theorem Task.record_returns (node : NodeOf Task) (read : Task.schema.read value = .ok node)
    (finite : Json.finiteFields node.header.extras = node.header.extras)
    (finiteBody : ∀ item ∈ node.body.tasks, Json.finiteFields item = item) :
    Returns .task ({} : Task) [] Task.fields node := by
  have valid := Task.read_valid value node read
  exact ⟨Kind.keys_distinct .task,
    NodeOf.fields_restore _ _ _ _ _ node valid.placed (.nil _) (node.body.fields_restore finiteBody), valid.free, finite⟩

theorem Task.returns (node : NodeOf Task) (read : Task.schema.read value = .ok node)
    (finite : Json.finiteFields node.header.extras = node.header.extras)
    (finiteBody : ∀ item ∈ node.body.tasks, Json.finiteFields item = item) (plain : "effects" ∉ node.header.extras.map (·.1)) :
    StoryData.ReturnsAs .task (node.mapBody .task) :=
  plain_returns (Task.record_returns value node read finite finiteBody) .task rfl (fun _ => rfl) (Kind.effects_unmodelled .task (by decide)) plain

theorem Tip.record_returns (node : NodeOf Tip) (read : Tip.schema.read value = .ok node)
    (finite : Json.finiteFields node.header.extras = node.header.extras) :
    Returns .tip ({} : Tip) [] Tip.fields node := by
  have valid := Tip.read_valid value node read
  exact ⟨Kind.keys_distinct .tip,
    NodeOf.fields_restore _ _ _ _ _ node valid.placed (.nil _) node.body.fields_restore, valid.free, finite⟩

theorem Tip.returns (node : NodeOf Tip) (read : Tip.schema.read value = .ok node)
    (finite : Json.finiteFields node.header.extras = node.header.extras) (plain : "effects" ∉ node.header.extras.map (·.1)) :
    StoryData.ReturnsAs .tip (node.mapBody .tip) :=
  plain_returns (Tip.record_returns value node read finite) .tip rfl (fun _ => rfl) (Kind.effects_unmodelled .tip (by decide)) plain

end Kinds

namespace Node

-- No infinity and nothing that is no number in the parts of a node that may hold any value.
structure FiniteParts (node : Node) : Prop where
  extras : Json.finiteFields node.header.extras = node.header.extras
  subtitles : ∀ video, node.body = .video video → Json.finiteFields video.subtitles = video.subtitles
  tasks : ∀ task, node.body = .task task → ∀ item ∈ task.tasks, Json.finiteFields item = item

theorem finite_extras_suffice (node : Node) (extras : Json.finiteFields node.header.extras = node.header.extras)
    (other : node.kind ∉ [Kind.video, Kind.task]) : node.FiniteParts := by
  refine ⟨extras, fun video body => absurd ?_ other, fun task body => absurd ?_ other⟩
  · simp [Node.kind, body, Body.kind]
  · simp [Node.kind, body, Body.kind]

-- A node together with the record of its kind, which is written and read back.
inductive Recorded (kind : Kind) : Node → Prop
  | intro {B : Type} (initial : B) (shared own : List (Field B)) (inner : NodeOf B) (wrap : B → Body)
      (returns : NodeOf.Returns kind initial shared own inner)
      (writes : write (inner.mapBody wrap) = .obj ((NodeOf.schemaOf kind initial shared own).entriesOf inner))
      (reads : ∀ entries, readAs kind (.obj entries) =
        ((NodeOf.schemaOf kind initial shared own).readFields entries).map fun read => read.mapBody wrap) :
      Recorded kind (inner.mapBody wrap)

theorem recorded (kind : Kind) (value : Json) (node : Node) (read : readAs kind value = .ok node) (finite : node.FiniteParts) :
    node.kind = kind ∧ node.Recorded kind := by
  cases kind with
  | video =>
      obtain ⟨inner, same, rfl⟩ := (attempt_map_ok _ _ _).mp read
      have returns := Video.record_returns value inner same finite.extras (finite.subtitles _ rfl)
      exact ⟨rfl, .intro _ _ _ inner .video returns rfl fun _ => rfl⟩
  | choice =>
      obtain ⟨inner, same, rfl⟩ := (attempt_map_ok _ _ _).mp read
      exact ⟨rfl, .intro _ _ _ inner .choice (Choice.record_returns value inner same finite.extras) rfl fun _ => rfl⟩
  | card =>
      obtain ⟨inner, same, rfl⟩ := (attempt_map_ok _ _ _).mp read
      exact ⟨rfl, .intro _ _ _ inner .card (Card.record_returns value inner same finite.extras) rfl fun _ => rfl⟩
  | bgm =>
      obtain ⟨inner, same, rfl⟩ := (attempt_map_ok _ _ _).mp read
      exact ⟨rfl, .intro _ _ _ inner .bgm (Bgm.record_returns value inner same finite.extras) rfl fun _ => rfl⟩
  | jump =>
      obtain ⟨inner, same, rfl⟩ := (attempt_map_ok _ _ _).mp read
      exact ⟨rfl, .intro _ _ _ inner .jump (Jump.record_returns value inner same finite.extras) rfl fun _ => rfl⟩
  | task =>
      obtain ⟨inner, same, rfl⟩ := (attempt_map_ok _ _ _).mp read
      have returns := Task.record_returns value inner same finite.extras (finite.tasks _ rfl)
      exact ⟨rfl, .intro _ _ _ inner .task returns rfl fun _ => rfl⟩
  | tip =>
      obtain ⟨inner, same, rfl⟩ := (attempt_map_ok _ _ _).mp read
      exact ⟨rfl, .intro _ _ _ inner .tip (Tip.record_returns value inner same finite.extras) rfl fun _ => rfl⟩

-- A kind without effects does not carry a field of that name either.
def WithoutEffects (node : Node) : Prop :=
  node.kind ∈ [Kind.bgm, Kind.jump, Kind.task, Kind.tip] → "effects" ∉ node.header.extras.map (·.1)

theorem returns (kind : Kind) (value : Json) (node : Node) (read : readAs kind value = .ok node) (finite : node.FiniteParts)
    (plain : node.WithoutEffects) : node.kind = kind ∧ StoryData.ReturnsAs kind node := by
  cases kind with
  | video =>
      obtain ⟨inner, same, rfl⟩ := (attempt_map_ok _ _ _).mp read
      exact ⟨rfl, Video.returns value inner same finite.extras (finite.subtitles _ rfl)⟩
  | choice =>
      obtain ⟨inner, same, rfl⟩ := (attempt_map_ok _ _ _).mp read
      exact ⟨rfl, Choice.returns value inner same finite.extras⟩
  | card =>
      obtain ⟨inner, same, rfl⟩ := (attempt_map_ok _ _ _).mp read
      exact ⟨rfl, Card.returns value inner same finite.extras⟩
  | bgm =>
      obtain ⟨inner, same, rfl⟩ := (attempt_map_ok _ _ _).mp read
      exact ⟨rfl, Bgm.returns value inner same finite.extras (plain (show Kind.bgm ∈ _ by decide))⟩
  | jump =>
      obtain ⟨inner, same, rfl⟩ := (attempt_map_ok _ _ _).mp read
      exact ⟨rfl, Jump.returns value inner same finite.extras (plain (show Kind.jump ∈ _ by decide))⟩
  | task =>
      obtain ⟨inner, same, rfl⟩ := (attempt_map_ok _ _ _).mp read
      exact ⟨rfl, Task.returns value inner same finite.extras (finite.tasks _ rfl) (plain (show Kind.task ∈ _ by decide))⟩
  | tip =>
      obtain ⟨inner, same, rfl⟩ := (attempt_map_ok _ _ _).mp read
      exact ⟨rfl, Tip.returns value inner same finite.extras (plain (show Kind.tip ∈ _ by decide))⟩

end Node

end TaggedStory
