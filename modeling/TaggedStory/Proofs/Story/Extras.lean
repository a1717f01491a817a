import TaggedStory.Proofs.Record.Reading
import TaggedStory.Story.NodeRecord
/-!
The record of a node holds the fields of its kind and after them the extras, and no extra of a node that was read has
the name of a field.
-/
set_option autoImplicit false

namespace TaggedStory

open TaggedStory.Field

theorem Json.lookup_finite (key : String) (fields : Json.Fields) :
    Json.lookup? key (Json.finiteFields fields) = (Json.lookup? key fields).map Json.finiteOnly := by
  induction fields with
  | nil => rfl
  | cons entry rest ih =>
      rw [Json.finiteFields, Json.lookup?, Json.lookup?]
      by_cases same : entry.1 = key
      · rw [if_pos same, if_pos same]
        rfl
      · rw [if_neg same, if_neg same, ih]

-- The names under which a record of the kind has its fields.
def Kind.keys : Kind → List String
  | .video => Video.schema.fields.map Field.key
  | .choice => Choice.schema.fields.map Field.key
  | .card => Card.schema.fields.map Field.key
  | .bgm => Bgm.schema.fields.map Field.key
  | .jump => Jump.schema.fields.map Field.key
  | .task => Task.schema.fields.map Field.key
  | .tip => Tip.schema.fields.map Field.key

theorem Kind.keys_distinct (kind : Kind) : kind.keys.Nodup := by
  cases kind <;> decide +kernel

theorem Kind.effects_unmodelled (kind : Kind) (plain : kind ∈ [.bgm, .jump, .task, .tip]) : "effects" ∉ kind.keys := by
  revert plain
  cases kind <;> decide +kernel

theorem Kind.kind_modelled (kind : Kind) : "kind" ∈ kind.keys := by
  cases kind <;> decide +kernel

theorem NodeOf.read_free {B : Type} (kind : Kind) (initial : B) (shared own : List (Field B)) (value : Json) (node : NodeOf B)
    (read : (schemaOf kind initial shared own).read value = .ok node) :
    ∀ key ∈ (schemaOf kind initial shared own).fields.map Field.key, key ∉ node.header.extras.map (·.1) := by
  have upheld : ∀ field ∈ (schemaOf kind initial shared own).fields, field.Upholds fun _ => True :=
    fun _ _ _ _ _ _ _ => trivial
  obtain ⟨entries, bare, _, rfl⟩ := (schemaOf kind initial shared own).read_upholds _ trivial upheld value node read
  intro key member
  obtain ⟨field, present, rfl⟩ := List.mem_map.mp member
  exact (schemaOf kind initial shared own).unused_free entries field present

namespace Node

-- The fields of a record in front of the extras.
def ownFields (node : Node) : Json.Fields :=
  match node.body with
  | .video body => Video.schema.fields.map fun field => (field.key, field.write ⟨node.header, body⟩)
  | .choice body => Choice.schema.fields.map fun field => (field.key, field.write ⟨node.header, body⟩)
  | .card body => Card.schema.fields.map fun field => (field.key, field.write ⟨node.header, body⟩)
  | .bgm body => Bgm.schema.fields.map fun field => (field.key, field.write ⟨node.header, body⟩)
  | .jump body => Jump.schema.fields.map fun field => (field.key, field.write ⟨node.header, body⟩)
  | .task body => Task.schema.fields.map fun field => (field.key, field.write ⟨node.header, body⟩)
  | .tip body => Tip.schema.fields.map fun field => (field.key, field.write ⟨node.header, body⟩)

theorem write_split (node : Node) : node.write = .obj (node.ownFields ++ Json.finiteFields node.header.extras) := by
  rw [write, ownFields]
  cases node.body <;> rfl

theorem own_names (node : Node) : node.ownFields.map (·.1) = node.kind.keys := by
  rw [ownFields, kind]
  cases node.body <;> exact List.map_map

def Free (node : Node) : Prop :=
  ∀ key ∈ node.kind.keys, key ∉ node.header.extras.map (·.1)

theorem read_free (kind : Kind) (value : Json) (node : Node) (read : readAs kind value = .ok node) : node.Free := by
  cases kind with
  | video | choice | card | bgm | jump | task | tip =>
      obtain ⟨inner, same, rfl⟩ := (attempt_map_ok _ _ _).mp read
      exact NodeOf.read_free _ _ _ _ value inner same

theorem extra_fresh (node : Node) (free : node.Free) (name : String) (value : Json)
    (extra : Json.lookup? name node.header.extras = some value) : name ∉ node.kind.keys := by
  intro taken
  rw [Json.lookup_absent name _ (free name taken)] at extra
  cases extra

theorem own_absent (node : Node) (name : String) (fresh : name ∉ node.kind.keys) : Json.lookup? name node.ownFields = none :=
  Json.lookup_absent name _ (own_names node ▸ fresh)

-- An extra is found in the record as it is written, which leaves out infinities.
theorem extra_written (node : Node) (free : node.Free) (name : String) (value : Json)
    (extra : Json.lookup? name node.header.extras = some value) :
    Json.lookup? name (node.ownFields ++ Json.finiteFields node.header.extras) = some value.finiteOnly := by
  have absent := own_absent node name (extra_fresh node free name value extra)
  rw [Json.lookup_append, absent, Option.none_or, Json.lookup_finite, extra, Option.map_some]

end Node

end TaggedStory
