import TaggedStory.Proofs.Story.Records
/-!
What is known of a node that was read: finite positions, decimals where a number may be of either sort, and no
extra under the key of a field.
-/
set_option autoImplicit false

namespace TaggedStory

open Decimal TaggedStory.Field

theorem finite_or_zero_finite (value : Double) : (finiteOrZero value).isFinite = true := by
  rw [finiteOrZero]
  split
  · assumption
  · rfl

namespace Position

theorem coordinate_read (raw : Json) (value : Double) (read : coordinateCodec.read raw = .ok value) : value.isFinite = true := by
  obtain ⟨found, _, rfl⟩ := (attempt_map_ok _ _ _).mp read
  exact finite_or_zero_finite _

theorem read_finite (raw : Json) (position : Position) (read : codec.read raw = .ok position) : position.IsFinite := by
  have upheld : ∀ field ∈ schema.fields, field.Upholds IsFinite := by
    simp only [schema, Schema.closed, List.forall_mem_cons]
    exact ⟨of_upholds fun raw value read _ held => ⟨coordinate_read raw value read, held.2⟩,
      of_upholds fun raw value read _ held => ⟨held.1, coordinate_read raw value read⟩, List.forall_mem_nil _⟩
  obtain ⟨_, bare, held, rfl⟩ := schema.read_upholds IsFinite ⟨rfl, rfl⟩ upheld raw position read
  exact held

end Position

theorem Record.number_read (raw : Json) (number : Number) (read : Record.number.read raw = .ok number) : number.IsReal := by
  obtain ⟨value, _, rfl⟩ := (attempt_map_ok _ _ _).mp read
  exact ⟨value, rfl⟩

theorem Header.fields_uphold : ∀ field ∈ Header.fields, field.Upholds fun header => header.position.IsFinite := by
  simp only [Header.fields, List.forall_mem_cons]
  exact ⟨of_upholds fun _ _ _ _ held => held, of_upholds fun _ _ _ _ held => held, of_upholds fun _ _ _ _ held => held,
    of_upholds fun _ _ _ _ held => held, of_upholds fun _ _ _ _ held => held,
    of_upholds fun raw value read _ _ => Position.read_finite raw value read, List.forall_mem_nil _⟩

theorem Video.fields_uphold : ∀ field ∈ Video.fields, field.Upholds Video.Validated := by
  simp only [Video.fields, List.forall_mem_cons, List.not_mem_nil, false_implies, implies_true, and_true]
  and_intros
  all_goals first
    | exact of_upholds fun _ _ _ _ held => held
    | exact of_upholds fun raw value read _ held => ⟨Record.number_read raw value read, held.2⟩
    | exact of_upholds fun raw value read _ held => ⟨held.1, Record.number_read raw value read, held.2.2⟩
    | exact of_upholds fun raw value read _ held => ⟨held.1, held.2.1, Position.read_finite raw value read, held.2.2.2⟩
    | exact of_upholds fun raw value read _ held => ⟨held.1, held.2.1, held.2.2.1, Position.read_finite raw value read⟩

theorem Choice.fields_uphold : ∀ field ∈ Choice.fields, field.Upholds fun choice => choice.probability.IsReal := by
  simp only [Choice.fields, List.forall_mem_cons]
  exact ⟨of_upholds fun _ _ _ _ held => held, of_upholds fun _ _ _ _ held => held,
    of_upholds fun raw value read _ _ => Record.number_read raw value read, of_upholds fun _ _ _ _ held => held,
    of_upholds fun _ _ _ _ held => held, of_upholds fun _ _ _ _ held => held, of_upholds fun _ _ _ _ held => held,
    List.forall_mem_nil _⟩

theorem Choice.offer_upholds : ∀ field ∈ Choice.offerFields, field.Upholds fun choice => choice.probability.IsReal := by
  intro field member
  obtain ⟨shared, _, rfl⟩ := List.mem_map.mp member
  have always : shared.Upholds fun _ => True := fun _ _ _ _ held => held
  exact lift_upholds always fun _ _ _ held => held

theorem Bgm.fields_uphold : ∀ field ∈ Bgm.fields, field.Upholds fun bgm => bgm.volume.IsReal := by
  simp only [Bgm.fields, List.forall_mem_cons]
  exact ⟨of_upholds fun _ _ _ _ held => held, of_upholds fun raw value read _ _ => Record.number_read raw value read,
    of_upholds fun _ _ _ _ held => held, List.forall_mem_nil _⟩

theorem kind_upholds {R : Type} {holds : R → Prop} (kind : Kind) : (Kind.field R kind).Upholds holds := by
  intro raw change done record held
  have same : change = id := by
    cases raw with
    | str word =>
        by_cases named : word = kind.word
        · exact (Except.ok.inj ((if_pos named).symm.trans done)).symm
        · cases (if_neg named).symm.trans done
    | _ => cases done
  rw [same]
  exact held

namespace NodeOf

-- What reading makes sure of, in a record whose body upholds a statement of its own.
structure Validated {B : Type} (schema : Schema (NodeOf B)) (holds : B → Prop) (node : NodeOf B) : Prop where
  placed : node.header.position.IsFinite
  body : holds node.body
  free : ∀ field ∈ schema.fields, field.key ∉ node.header.extras.map (·.1)

variable {B : Type} (kind : Kind) (initial : B) (shared own : List (Field B)) (holds : B → Prop)

theorem read_validated (start : holds initial) (front : ∀ field ∈ shared, field.Upholds holds)
    (back : ∀ field ∈ own, field.Upholds holds) (value : Json) (node : NodeOf B)
    (read : (schemaOf kind initial shared own).read value = .ok node) :
    node.Validated (schemaOf kind initial shared own) holds := by
  have body : ∀ fields : List (Field B), (∀ field ∈ fields, field.Upholds holds) → ∀ field ∈ bodyFields fields,
      field.Upholds fun node => node.header.position.IsFinite ∧ holds node.body := by
    intro fields upheld field member
    obtain ⟨inner, present, rfl⟩ := List.mem_map.mp member
    exact lift_upholds (upheld inner present) fun change onward node held => ⟨held.1, onward node.body held.2⟩
  have upheld : ∀ field ∈ (schemaOf kind initial shared own).fields,
      field.Upholds fun node => node.header.position.IsFinite ∧ holds node.body := by
    intro field member
    simp only [schemaOf, List.mem_append, List.mem_cons] at member
    rcases member with (header | inner) | rfl | inner
    · obtain ⟨inner, present, rfl⟩ := List.mem_map.mp header
      exact lift_upholds (Header.fields_uphold inner present) fun change onward node held => ⟨onward node.header held.1, held.2⟩
    · exact body shared front field inner
    · exact kind_upholds kind
    · exact body own back field inner
  obtain ⟨entries, bare, held, rfl⟩ := (schemaOf kind initial shared own).read_upholds _ ⟨⟨rfl, rfl⟩, start⟩ upheld value node read
  exact ⟨held.1, held.2, fun field member => (schemaOf kind initial shared own).unused_free entries field member⟩

end NodeOf

section Kinds

open NodeOf

variable (value : Json)

theorem always_upheld {R : Type} (fields : List (Field R)) : ∀ field ∈ fields, field.Upholds fun _ => True :=
  fun _ _ _ _ _ _ held => held

theorem Video.read_valid (node : NodeOf Video) (read : Video.schema.read value = .ok node) :
    node.Validated Video.schema Video.Validated :=
  read_validated _ _ _ _ _ ⟨⟨_, rfl⟩, ⟨_, rfl⟩, ⟨rfl, rfl⟩, ⟨rfl, rfl⟩⟩ (List.forall_mem_nil _) Video.fields_uphold value node read

theorem Choice.read_valid (node : NodeOf Choice) (read : Choice.schema.read value = .ok node) :
    node.Validated Choice.schema fun choice => choice.probability.IsReal :=
  read_validated _ _ _ _ _ ⟨_, rfl⟩ Choice.offer_upholds Choice.fields_uphold value node read

theorem Card.read_valid (node : NodeOf Card) (read : Card.schema.read value = .ok node) :
    node.Validated Card.schema fun _ => True :=
  read_validated _ _ _ _ _ trivial (always_upheld _) (always_upheld _) value node read

theorem Bgm.read_valid (node : NodeOf Bgm) (read : Bgm.schema.read value = .ok node) :
    node.Validated Bgm.schema fun bgm => bgm.volume.IsReal :=
  read_validated _ _ _ _ _ ⟨_, rfl⟩ (List.forall_mem_nil _) Bgm.fields_uphold value node read

theorem Jump.read_valid (node : NodeOf Jump) (read : Jump.schema.read value = .ok node) :
    node.Validated Jump.schema fun _ => True :=
  read_validated _ _ _ _ _ trivial (List.forall_mem_nil _) (always_upheld _) value node read

theorem Task.read_valid (node : NodeOf Task) (read : Task.schema.read value = .ok node) :
    node.Validated Task.schema fun _ => True :=
  read_validated _ _ _ _ _ trivial (List.forall_mem_nil _) (always_upheld _) value node read

theorem Tip.read_valid (node : NodeOf Tip) (read : Tip.schema.read value = .ok node) :
    node.Validated Tip.schema fun _ => True :=
  read_validated _ _ _ _ _ trivial (List.forall_mem_nil _) (always_upheld _) value node read

end Kinds

end TaggedStory
