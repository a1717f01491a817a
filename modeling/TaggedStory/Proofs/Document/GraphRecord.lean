import TaggedStory.Proofs.Document.StoryData
/-!
A story is read back from its own record. Values that no field models are written with finite numbers only and come
back with null in the place of the others; all else comes back as it was.
-/
set_option autoImplicit false

namespace TaggedStory

open TaggedStory.Field

def Header.finite (header : Header) : Header :=
  { header with extras := Json.finiteFields header.extras }

def Body.finite : Body → Body
  | .video inner => .video { inner with subtitles := Json.finiteFields inner.subtitles }
  | .task inner => .task { inner with tasks := inner.tasks.map Json.finiteFields }
  | other => other

def Node.finite (node : Node) : Node :=
  ⟨node.header.finite, node.body.finite⟩

def Variable.finite (entry : Variable) : Variable :=
  { entry with extras := Json.finiteFields entry.extras }

-- The graph as its own record carries it.
def Graph.finite (graph : Graph) : Graph :=
  { graph with
    nodes := graph.nodes.map Node.finite
    table := graph.table.map Variable.finite
    supplemental := graph.supplemental.map Variable.finite }

section Nodes

open NodeOf

variable {B : Type} (kind : Kind) (initial middle final : B) (shared own : List (Field B)) (node : NodeOf B)

theorem NodeOf.written_read {holds : B → Prop} (distinct : ((schemaOf kind initial shared own).fields.map Field.key).Nodup)
    (valid : node.Validated (schemaOf kind initial shared own) holds) (front : Restores node.body shared initial middle)
    (back : Restores node.body own middle final) :
    (schemaOf kind initial shared own).read ((schemaOf kind initial shared own).write node) = .ok ⟨node.header.finite, final⟩ :=
  (schemaOf kind initial shared own).written_read node distinct _
    (NodeOf.fields_restore kind initial middle shared own node valid.placed front back) valid.free

theorem Node.kind_written (node : Node) : ∃ entries, node.write = .obj entries ∧
    Json.lookup? "kind" entries = some (.str node.kind.word) := by
  refine ⟨_, node.write_split, ?_⟩
  obtain ⟨header, body⟩ := node
  cases body <;> rfl

theorem Node.read_written (node : Node) : Node.codec.read node.write = (readAs node.kind node.write).within node.kind.word := by
  obtain ⟨entries, written, found⟩ := node.kind_written
  have known : Kind.ofWord? node.kind.word = some node.kind := by cases node.kind <;> decide
  rw [written]
  change Node.read (.obj entries) = _
  rw [Node.read, found]
  simp only [known]

theorem Node.written_read (kind : Kind) (value : Json) (node : Node) (read : readAs kind value = .ok node) :
    Node.codec.read node.write = .ok node.finite := by
  have back : node.kind = kind ∧ readAs kind node.write = .ok node.finite := by
    cases kind with
    | video =>
        obtain ⟨inner, same, rfl⟩ := (attempt_map_ok _ _ _).mp read
        have valid := Video.read_valid value inner same
        exact ⟨rfl, (attempt_map_ok _ _ _).mpr ⟨_, NodeOf.written_read _ _ _ _ _ _ inner (Kind.keys_distinct .video) valid
          (.nil _) (inner.body.fields_settle valid.body), rfl⟩⟩
    | choice =>
        obtain ⟨inner, same, rfl⟩ := (attempt_map_ok _ _ _).mp read
        have valid := Choice.read_valid value inner same
        exact ⟨rfl, (attempt_map_ok _ _ _).mpr ⟨_, NodeOf.written_read _ _ _ _ _ _ inner (Kind.keys_distinct .choice) valid
          inner.body.offer_restores (inner.body.fields_restore valid.body), rfl⟩⟩
    | card =>
        obtain ⟨inner, same, rfl⟩ := (attempt_map_ok _ _ _).mp read
        have valid := Card.read_valid value inner same
        exact ⟨rfl, (attempt_map_ok _ _ _).mpr ⟨_, NodeOf.written_read _ _ _ _ _ _ inner (Kind.keys_distinct .card) valid
          inner.body.offer_restores inner.body.fields_restore, rfl⟩⟩
    | bgm =>
        obtain ⟨inner, same, rfl⟩ := (attempt_map_ok _ _ _).mp read
        have valid := Bgm.read_valid value inner same
        exact ⟨rfl, (attempt_map_ok _ _ _).mpr ⟨_, NodeOf.written_read _ _ _ _ _ _ inner (Kind.keys_distinct .bgm) valid
          (.nil _) (inner.body.fields_restore valid.body), rfl⟩⟩
    | jump =>
        obtain ⟨inner, same, rfl⟩ := (attempt_map_ok _ _ _).mp read
        have valid := Jump.read_valid value inner same
        exact ⟨rfl, (attempt_map_ok _ _ _).mpr ⟨_, NodeOf.written_read _ _ _ _ _ _ inner (Kind.keys_distinct .jump) valid
          (.nil _) inner.body.fields_restore, rfl⟩⟩
    | task =>
        obtain ⟨inner, same, rfl⟩ := (attempt_map_ok _ _ _).mp read
        have valid := Task.read_valid value inner same
        exact ⟨rfl, (attempt_map_ok _ _ _).mpr ⟨_, NodeOf.written_read _ _ _ _ _ _ inner (Kind.keys_distinct .task) valid
          (.nil _) inner.body.fields_settle, rfl⟩⟩
    | tip =>
        obtain ⟨inner, same, rfl⟩ := (attempt_map_ok _ _ _).mp read
        have valid := Tip.read_valid value inner same
        exact ⟨rfl, (attempt_map_ok _ _ _).mpr ⟨_, NodeOf.written_read _ _ _ _ _ _ inner (Kind.keys_distinct .tip) valid
          (.nil _) inner.body.fields_restore, rfl⟩⟩
  rw [node.read_written, back.1, back.2]
  rfl

-- The same is written again.
theorem Header.finite_alike (header : Header) : ∀ field ∈ Header.fields, field.write header.finite = field.write header := by
  simp only [Header.fields, List.forall_mem_cons]
  exact ⟨rfl, rfl, rfl, rfl, rfl, rfl, List.forall_mem_nil _⟩

theorem Video.finite_alike (video : Video) :
    ∀ field ∈ Video.fields, field.write { video with subtitles := Json.finiteFields video.subtitles } = field.write video := by
  simp only [Video.fields, List.forall_mem_cons, List.not_mem_nil, false_implies, implies_true, and_true]
  and_intros
  all_goals first
    | rfl
    | exact congrArg Json.obj (Json.finite_fields_again _)

theorem Task.finite_alike (task : Task) :
    ∀ field ∈ Task.fields, field.write { task with tasks := task.tasks.map Json.finiteFields } = field.write task := by
  have tasks : (task.tasks.map Json.finiteFields).map Record.object.write = task.tasks.map Record.object.write := by
    rw [List.map_map]
    exact List.map_congr_left fun item _ => congrArg Json.obj (Json.finite_fields_again item)
  simp only [Task.fields, List.forall_mem_cons]
  exact ⟨rfl, congrArg Json.arr tasks, rfl, List.forall_mem_nil _⟩

theorem NodeOf.write_finite (alike : ∀ field ∈ shared ++ own, field.write final = field.write node.body) :
    (schemaOf kind initial shared own).write ⟨node.header.finite, final⟩ = (schemaOf kind initial shared own).write node := by
  refine Schema.write_alike _ _ _ (fun field member => ?_) (Json.finite_fields_again node.header.extras)
  simp only [schemaOf, List.mem_append, List.mem_cons] at member
  rcases member with (header | front) | rfl | back
  · obtain ⟨inner, present, rfl⟩ := List.mem_map.mp header
    exact node.header.finite_alike inner present
  · obtain ⟨inner, present, rfl⟩ := List.mem_map.mp front
    exact alike inner (List.mem_append_left _ present)
  · rfl
  · obtain ⟨inner, present, rfl⟩ := List.mem_map.mp back
    exact alike inner (List.mem_append_right _ present)

theorem Node.write_finite (node : Node) : node.finite.write = node.write := by
  obtain ⟨header, body⟩ := node
  cases body with
  | video video => exact NodeOf.write_finite .video _ _ [] _ ⟨header, video⟩ video.finite_alike
  | task task => exact NodeOf.write_finite .task _ _ [] _ ⟨header, task⟩ task.finite_alike
  | choice choice => exact NodeOf.write_finite .choice _ _ _ _ ⟨header, choice⟩ fun _ _ => rfl
  | card card => exact NodeOf.write_finite .card _ _ _ _ ⟨header, card⟩ fun _ _ => rfl
  | bgm bgm => exact NodeOf.write_finite .bgm _ _ [] _ ⟨header, bgm⟩ fun _ _ => rfl
  | jump jump => exact NodeOf.write_finite .jump _ _ [] _ ⟨header, jump⟩ fun _ _ => rfl
  | tip tip => exact NodeOf.write_finite .tip _ _ [] _ ⟨header, tip⟩ fun _ _ => rfl

end Nodes

section Entries

namespace Variable

-- No extra of a read entry has the key of a field.
def Free (entry : Variable) : Prop :=
  ∀ field ∈ schema.fields, field.key ∉ entry.extras.map (·.1)

theorem read_free (value : Json) (entry : Variable) (read : schema.read value = .ok entry) : entry.Free := by
  obtain ⟨entries, bare, _, rfl⟩ := schema.read_upholds (fun _ => True) trivial (always_upheld _) value entry read
  exact fun field member => schema.unused_free entries field member

theorem written_read (entry : Variable) (free : entry.Free) : schema.read (schema.write entry) = .ok entry.finite :=
  schema.written_read entry (by decide) { entry with extras := [] } entry.fields_restore free

theorem write_finite (entry : Variable) : schema.write entry.finite = schema.write entry := by
  refine schema.write_alike _ _ ?_ (Json.finite_fields_again entry.extras)
  simp only [schema, List.forall_mem_cons]
  exact ⟨rfl, rfl, rfl, rfl, rfl, rfl, rfl, rfl, rfl, rfl, rfl, rfl, rfl, rfl, List.forall_mem_nil _⟩

end Variable

end Entries

namespace Diagnostics

-- Labels that were read are texts.
structure Validated (diagnostics : Diagnostics) : Prop where
  placed : diagnostics.offset.IsFinite
  labelled : ∃ labels : List String, diagnostics.invalid = labels.map .str

theorem read_validated (value : Json) (diagnostics : Diagnostics) (read : schema.read value = .ok diagnostics) :
    diagnostics.Validated := by
  have upheld : ∀ field ∈ schema.fields, field.Upholds Validated := by
    simp only [schema, Schema.closed, List.forall_mem_cons]
    refine ⟨of_upholds fun _ _ _ _ held => ⟨held.placed, held.labelled⟩, of_upholds fun _ _ _ _ held => ⟨held.placed, held.labelled⟩,
      of_upholds fun _ _ _ _ held => ⟨held.placed, held.labelled⟩, of_upholds fun raw labels read _ held => ⟨held.placed, ?_⟩,
      of_upholds fun raw offset read _ held => ⟨Position.read_finite raw offset read, held.labelled⟩, List.forall_mem_nil _⟩
    obtain ⟨texts, _, same⟩ := (attempt_map_ok _ _ _).mp read
    exact ⟨texts, same.symm⟩
  obtain ⟨_, bare, held, rfl⟩ := schema.read_upholds Validated ⟨⟨rfl, rfl⟩, [], rfl⟩ upheld value diagnostics read
  exact held

theorem texts_finite (texts : List String) : Json.finiteItems (texts.map .str) = texts.map .str := by
  induction texts with
  | nil => rfl
  | cons text rest ih =>
      rw [List.map_cons, Json.finiteItems, ih]
      rfl

theorem labels_restored (texts : List String) : labels.Restores (texts.map .str) := by
  change (Record.text.list.read (.arr (Json.finiteItems (texts.map .str)))).map _ = _
  rw [texts_finite, show Record.text.list.read (.arr (texts.map .str)) = .ok texts from Codec.texts_restored texts]
  rfl

theorem restores (diagnostics : Diagnostics) (valid : diagnostics.Validated) : schema.codec.Restores diagnostics := by
  obtain ⟨texts, labelled⟩ := valid.labelled
  exact Schema.closed_restores _ _ (by decide) diagnostics
    (.of (Codec.texts_restored _) <| .of rfl <| .of rfl <| .of (labelled ▸ labels_restored texts) <|
      .of (Position.restores _ valid.placed) <| .nil _)

end Diagnostics

namespace Graph

-- What reading makes sure of around the nodes.
structure Validated (graph : Graph) : Prop where
  table : ∀ entry ∈ graph.table, entry.Free
  supplemental : ∀ entry ∈ graph.supplemental, entry.Free
  diagnostics : graph.diagnostics.Validated

theorem read_validated (document : Json) (graph : Graph) (read : schema.read document = .ok graph) : graph.Validated := by
  have entries (raw : Json) (table : List Variable) (read : variableList.read raw = .ok table) : ∀ entry ∈ table, entry.Free := by
    intro entry member
    obtain ⟨item, same⟩ := Codec.list_read _ raw table read entry member
    exact Variable.read_free item entry same
  have upheld : ∀ field ∈ schema.fields, field.Upholds Validated := by
    simp only [schema, Schema.closed, List.forall_mem_cons]
    exact ⟨of_upholds fun _ _ _ _ held => ⟨held.table, held.supplemental, held.diagnostics⟩,
      of_upholds fun raw table read _ held => ⟨entries raw table read, held.supplemental, held.diagnostics⟩,
      of_upholds fun raw table read _ held => ⟨held.table, entries raw table read, held.diagnostics⟩,
      of_upholds fun _ _ _ _ held => ⟨held.table, held.supplemental, held.diagnostics⟩,
      of_upholds fun _ _ _ _ held => ⟨held.table, held.supplemental, held.diagnostics⟩,
      of_upholds fun raw value read _ held => ⟨held.table, held.supplemental, Diagnostics.read_validated raw value read⟩,
      List.forall_mem_nil _⟩
  have start : Validated {} := ⟨List.forall_mem_nil _, List.forall_mem_nil _, ⟨rfl, rfl⟩, [], rfl⟩
  obtain ⟨_, bare, held, rfl⟩ := schema.read_upholds Validated start upheld document graph read
  exact held

theorem start_restored (start : Option String) : Record.optionalText.Restores start := by
  cases start <;> rfl

theorem written_read (document : Json) (graph : Graph) (read : schema.read document = .ok graph) :
    schema.read (schema.write graph) = .ok graph.finite := by
  have valid := read_validated document graph read
  have nodes : Node.codec.list.read (Node.codec.list.write graph.nodes) = .ok (graph.nodes.map Node.finite) := by
    refine Codec.list_settles Node.codec _ Node.finite _ fun node member => ?_
    obtain ⟨kind, raw, same⟩ := nodes_read document graph read node member
    exact Node.written_read kind raw node same
  have table : variableList.read (variableList.write graph.table) = .ok (graph.table.map Variable.finite) :=
    Codec.list_settles _ _ Variable.finite _ fun entry member => entry.written_read (valid.table entry member)
  have supplemental : variableList.read (variableList.write graph.supplemental) = .ok (graph.supplemental.map Variable.finite) :=
    Codec.list_settles _ _ Variable.finite _ fun entry member => entry.written_read (valid.supplemental entry member)
  have restores : Restores graph schema.fields schema.initial graph.finite :=
    .settled nodes <| .settled table <| .settled supplemental <| .of (start_restored _) <| .of rfl <|
      .of (graph.diagnostics.restores valid.diagnostics) <| .nil _
  exact schema.written_read graph (by decide) graph.finite restores fun _ _ => List.not_mem_nil

theorem write_finite (graph : Graph) : schema.write graph.finite = schema.write graph := by
  have listed {α : Type} (write : α → Json) (finite : α → α) (same : ∀ item, write (finite item) = write item) (items : List α) :
      Json.arr ((items.map finite).map write) = Json.arr (items.map write) := by
    rw [List.map_map]
    exact congrArg Json.arr (List.map_congr_left fun item _ => same item)
  refine schema.write_alike _ _ ?_ rfl
  simp only [schema, Schema.closed, List.forall_mem_cons]
  exact ⟨listed _ _ Node.write_finite _, listed _ _ Variable.write_finite _, listed _ _ Variable.write_finite _, rfl, rfl, rfl,
    List.forall_mem_nil _⟩

end Graph

section Fixed

theorem map_fixed {α : Type} (change : α → α) (items : List α) : items.map change = items ↔ ∀ item ∈ items, change item = item := by
  have same := List.map_inj_left (l := items) (f := change) (g := id)
  rwa [List.map_id] at same

theorem Node.finite_iff (node : Node) : node.finite = node ↔ node.FiniteParts := by
  constructor
  · intro same
    have own : node.body.finite = node.body := congrArg NodeOf.body same
    refine ⟨congrArg (fun node => node.header.extras) same, fun video body => ?_, fun task body => ?_⟩
    · rw [body] at own
      exact congrArg Video.subtitles (Body.video.inj own)
    · rw [body] at own
      exact (map_fixed _ _).mp (congrArg Task.tasks (Body.task.inj own))
  · rintro ⟨extras, subtitles, tasks⟩
    obtain ⟨header, body⟩ := node
    have front : header.finite = header := by rw [Header.finite, extras]
    have own : body.finite = body := by
      cases body with
      | video inner => rw [Body.finite, subtitles inner rfl]
      | task inner => rw [Body.finite, (map_fixed _ _).mpr (tasks inner rfl)]
      | choice _ | card _ | bgm _ | jump _ | tip _ => rfl
    rw [Node.finite, front, own]

-- No infinity and nothing that is no number in the parts of a graph that may hold any value.
structure Graph.FiniteParts (graph : Graph) : Prop where
  nodes : ∀ node ∈ graph.nodes, node.FiniteParts
  table : ∀ entry ∈ graph.table, Json.finiteFields entry.extras = entry.extras
  supplemental : ∀ entry ∈ graph.supplemental, Json.finiteFields entry.extras = entry.extras

theorem Variable.finite_iff (entry : Variable) : entry.finite = entry ↔ Json.finiteFields entry.extras = entry.extras := by
  refine ⟨fun same => congrArg Variable.extras same, fun same => ?_⟩
  rw [Variable.finite, same]

theorem Graph.finite_iff (graph : Graph) : graph.finite = graph ↔ graph.FiniteParts := by
  have entries (table : List Variable) : table.map Variable.finite = table ↔
      ∀ entry ∈ table, Json.finiteFields entry.extras = entry.extras := by
    rw [map_fixed]
    exact forall₂_congr fun entry _ => entry.finite_iff
  have nodes : graph.nodes.map Node.finite = graph.nodes ↔ ∀ node ∈ graph.nodes, node.FiniteParts := by
    rw [map_fixed]
    exact forall₂_congr fun node _ => node.finite_iff
  constructor
  · intro same
    exact ⟨nodes.mp (congrArg Graph.nodes same), (entries _).mp (congrArg Graph.table same),
      (entries _).mp (congrArg Graph.supplemental same)⟩
  · intro finite
    rw [Graph.finite, nodes.mpr finite.nodes, (entries _).mpr finite.table, (entries _).mpr finite.supplemental]

end Fixed

section Spellings

-- The words under which a comparison is known, and those of an operation beside its number.
def Comparison.tokens (comparison : Comparison) : List Json :=
  [.str comparison.symbol, .str comparison.olderName]

def Operation.tokens (operation : Operation) : List Json :=
  [.str operation.symbol, .str operation.word, .int operation.number, .str (String.ofList (Decimal.natText operation.number))]

theorem Comparison.token_known (comparison : Comparison) : ∀ token ∈ comparison.tokens, ofToken token = .ok comparison := by
  simp only [tokens, List.forall_mem_cons]
  cases comparison <;> exact ⟨rfl, rfl, List.forall_mem_nil _⟩

theorem Operation.token_known (operation : Operation) : ∀ token ∈ operation.tokens, ofToken token = .ok operation := by
  simp only [tokens, List.forall_mem_cons]
  cases operation <;> exact ⟨rfl, rfl, rfl, rfl, List.forall_mem_nil _⟩

theorem Condition.read_entries (entries : Json.Fields) : codec.read (.obj entries) = schema.readFields (modernize entries) := rfl

-- A condition of an older editor.
def Condition.olderRecord (token left right : Json) : Json :=
  .obj [("operator", token), ("leftValue", left), ("rightValue", right)]

theorem Condition.older_read (token left right : Json) (comparison : Comparison) (known : Comparison.ofToken token = .ok comparison) :
    codec.read (olderRecord token left right) = .ok ⟨Record.anyText left, comparison, Record.anyText right⟩ := by
  have renamed : modernize [("operator", token), ("leftValue", left), ("rightValue", right)] =
      [("operation", token), ("variableName", left), ("value", right)] := rfl
  have alike : comparisonCodec.read token = comparisonCodec.read (comparisonCodec.write comparison) := by
    rw [show comparisonCodec.read (comparisonCodec.write comparison) = .ok comparison from Comparison.restores comparison]
    change (Comparison.ofToken token).asIssue = _
    rw [known]
    rfl
  have carried : Restores.Carries ⟨Record.anyText left, comparison, Record.anyText right⟩ schema.fields
      [("operation", token), ("variableName", left), ("value", right)] := by
    simp only [Restores.Carries, schema, Schema.closed, List.forall_mem_cons]
    exact ⟨⟨left, rfl, rfl⟩, ⟨token, rfl, of_alike alike⟩, ⟨right, rfl, rfl⟩, List.forall_mem_nil _⟩
  rw [olderRecord, read_entries, renamed]
  exact schema.read_carried _ _ _ (fields_restore _) carried

theorem Effect.spelling_read (name token value : Json) (operation : Operation) (style : Style)
    (known : Operation.ofToken token = .ok operation) :
    schema.codec.read (.obj [("variableName", name), ("operation", token), ("value", value), ("style", .str style.word)]) =
      .ok ⟨Record.anyText name, operation, Record.anyText value, style⟩ := by
  have alike : operationCodec.read token = operationCodec.read (operationCodec.write operation) := by
    rw [show operationCodec.read (operationCodec.write operation) = .ok operation from operation_restores operation]
    change (Operation.ofToken token).asIssue = _
    rw [known]
    rfl
  have carried : Restores.Carries ⟨Record.anyText name, operation, Record.anyText value, style⟩ schema.fields
      [("variableName", name), ("operation", token), ("value", value), ("style", .str style.word)] := by
    simp only [Restores.Carries, schema, Schema.closed, List.forall_mem_cons]
    exact ⟨⟨name, rfl, rfl⟩, ⟨token, rfl, of_alike alike⟩, ⟨value, rfl, rfl⟩, ⟨_, rfl, rfl⟩, List.forall_mem_nil _⟩
  exact schema.read_carried _ _ _ (fields_restore _) carried

end Spellings

-- A graph that was read is read back from its own record with its open parts cut to finite numbers, of which the same
-- record is written; nothing was cut exactly when they were finite before. A condition and an effect come back as they were,
-- in whatever spelling they were first read.
theorem records_read_back (document : Json) (graph : Graph) (read : Graph.schema.read document = .ok graph) :
    (Graph.schema.read (Graph.schema.write graph) = .ok graph.finite ∧
      Graph.schema.write graph.finite = Graph.schema.write graph ∧ (graph.finite = graph ↔ graph.FiniteParts)) ∧
    (∀ input condition, Condition.codec.read input = .ok condition →
      Condition.codec.read (Condition.codec.write condition) = .ok condition) ∧
    (∀ input effect, Effect.schema.codec.read input = .ok effect →
      Effect.schema.codec.read (Effect.schema.codec.write effect) = .ok effect) ∧
    (∀ (comparison : Comparison) (left right : Json), ∀ token ∈ comparison.tokens,
      Condition.codec.read (Condition.olderRecord token left right) =
        .ok ⟨Record.anyText left, comparison, Record.anyText right⟩) ∧
    ∀ (operation : Operation) (style : Style) (name value : Json), ∀ token ∈ operation.tokens,
      Effect.schema.codec.read (.obj [("variableName", name), ("operation", token), ("value", value), ("style", .str style.word)]) =
        .ok ⟨Record.anyText name, operation, Record.anyText value, style⟩ := by
  refine ⟨⟨graph.written_read document read, graph.write_finite, graph.finite_iff⟩, fun _ condition _ => Condition.restores condition,
    fun _ effect _ => Effect.restores effect, fun comparison left right token member => ?_,
    fun operation style name value token member => ?_⟩
  · exact Condition.older_read token left right comparison (comparison.token_known token member)
  · exact Effect.spelling_read name token value operation style (operation.token_known token member)

theorem sketch_reads_back : Graph.schema.read (Graph.schema.write StoryData.sketch) = .ok StoryData.sketch ∧
    Condition.codec.read (Condition.codec.write ⟨"hp", .atLeast, "5"⟩) = .ok ⟨"hp", .atLeast, "5"⟩ ∧
    Effect.schema.codec.read (Effect.schema.codec.write ⟨"coin", .subtract, "5", .normal⟩) =
      .ok ⟨"coin", .subtract, "5", .normal⟩ := by
  obtain ⟨⟨back, _, kept⟩, conditions, effects, _⟩ := records_read_back StoryData.sketchDocument StoryData.sketch rfl
  have finite : StoryData.sketch.FiniteParts := by
    refine ⟨fun node member => ?_, by simp [StoryData.sketch, Json.finiteFields], List.forall_mem_nil _⟩
    rcases List.mem_pair.mp member with rfl | rfl <;> exact Node.finite_extras_suffice _ rfl (by decide)
  rw [kept.mpr finite] at back
  exact ⟨back, conditions (Condition.olderRecord (.str "GreaterOrEqual") (.str "hp") (.int 5)) _ rfl,
    effects (.obj [("variableName", .str "coin"), ("operation", .str "2"), ("value", .int 5)]) _ rfl⟩

-- An infinity in a field that no kind models is written as null and does not come back.
theorem boundless_extra_reread : Graph.schema.read StoryData.boundlessDocument = .ok StoryData.boundless ∧
    ∃ again, Graph.schema.read (Graph.schema.write StoryData.boundless) = .ok again ∧
      again.nodes.map (fun node => node.header.extras) = [[("is_deadpoint", .null)]] ∧ again ≠ StoryData.boundless := by
  have read : Graph.schema.read StoryData.boundlessDocument = .ok StoryData.boundless := rfl
  refine ⟨read, _, Graph.written_read _ _ read, rfl, fun same => ?_⟩
  cases congrArg (fun graph => graph.nodes.map fun node => node.header.extras) same

end TaggedStory
