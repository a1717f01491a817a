import Mathlib.Data.List.Nodup
import TaggedStory.Proofs.Json.Fields
import TaggedStory.Proofs.Record.Reading
import TaggedStory.Record.Scalar
/-!
Records that are read back as they were written, field by field.
-/
set_option autoImplicit false

namespace TaggedStory

section Codecs

variable {α : Type}

-- A value that its codec gives back as it was written.
def Codec.Restores (codec : Codec α) (value : α) : Prop :=
  codec.read (codec.write value) = .ok value

namespace Codec

theorem items_settle (codec : Codec α) (form : α → Json) (settled : α → α) (index : Nat) (values : List α)
    (each : ∀ value ∈ values, codec.read (form value) = .ok (settled value)) :
    codec.readItems index (values.map form) = (values.map settled).map .ok := by
  induction values generalizing index with
  | nil => rfl
  | cons value rest ih =>
      rw [List.map_cons, readItems, each value List.mem_cons_self,
        ih (index + 1) fun other member => each other (List.mem_cons_of_mem _ member)]
      rfl

theorem list_settles (codec : Codec α) (form : α → Json) (settled : α → α) (values : List α)
    (each : ∀ value ∈ values, codec.read (form value) = .ok (settled value)) :
    codec.list.read (.arr (values.map form)) = .ok (values.map settled) :=
  (gather_ok _ _).mpr (items_settle codec form settled 0 values each)

-- A list of values in any form from which each is read.
theorem list_given (codec : Codec α) (form : α → Json) (values : List α)
    (each : ∀ value ∈ values, codec.read (form value) = .ok value) :
    codec.list.read (.arr (values.map form)) = .ok values := by
  rw [list_settles codec form id values each, List.map_id]

theorem list_restores (codec : Codec α) (values : List α) (each : ∀ value ∈ values, codec.Restores value) :
    codec.list.Restores values :=
  list_given codec codec.write values each

theorem texts_restored (texts : List String) : Record.text.list.Restores texts :=
  list_restores Record.text texts fun _ _ => rfl

end Codec

end Codecs

section Fields

variable {R S α : Type}

-- What the fields of a record, each read from what it wrote, make of a record they start from.
inductive Restores (record : R) : List (Field R) → R → R → Prop
  | nil (start : R) : Restores record [] start start
  | cons (field : Field R) (change : R → R) (rest : List (Field R)) (start result : R)
      (read : field.read (field.write record) = .ok change) (others : Restores record rest (change start) result) :
      Restores record (field :: rest) start result

-- A part of a whole that can be set and changed on its own.
structure IsPart (get : S → R) (put : R → S → S) (update : (R → R) → S → S) : Prop where
  updates : ∀ change whole, update change whole = put (change (get whole)) whole
  getPut : ∀ part whole, get (put part whole) = part
  putPut : ∀ part other whole, put part (put other whole) = put part whole
  putGet : ∀ whole, put (get whole) whole = whole

namespace Restores

variable {record : R} {rest : List (Field R)} {start result : R}

-- A field of which another value is read than the one that was written.
theorem settled {key name : String} {codec : Codec α} {get : R → α} {set : α → R → R} {value : α}
    (read : codec.read (codec.write (get record)) = .ok value) (others : Restores record rest (set value start) result) :
    Restores record (.of key name codec get set :: rest) start result := by
  refine .cons _ (set value) rest start result ?_ others
  change (codec.read (codec.write (get record))).map set = _
  rw [read]
  rfl

theorem of {key name : String} {codec : Codec α} {get : R → α} {set : α → R → R} (restored : codec.Restores (get record))
    (others : Restores record rest (set (get record) start) result) :
    Restores record (.of key name codec get set :: rest) start result :=
  settled restored others

theorem required {key name : String} {codec : Codec α} {get : R → α} {set : α → R → R} (restored : codec.Restores (get record))
    (others : Restores record rest (set (get record) start) result) :
    Restores record (.required key name codec get set :: rest) start result := by
  refine .cons _ (set (get record)) rest start result ?_ others
  change (codec.read (codec.write (get record))).map set = _
  rw [restored]
  rfl

theorem append {fields others : List (Field R)} {middle : R} (front : Restores record fields start middle)
    (back : Restores record others middle result) : Restores record (fields ++ others) start result := by
  induction front with
  | nil => exact back
  | cons field change rest start _ read _ ih => exact .cons field change _ start result read (ih back)

theorem lift {get : S → R} {put : R → S → S} {update : (R → R) → S → S} (isPart : IsPart get put update) (whole begun : S)
    {fields : List (Field R)} {final : R} (restores : Restores (get whole) fields (get begun) final) :
    Restores whole (fields.map (Field.lift get update)) begun (put final begun) := by
  generalize same : get begun = part at restores
  induction restores generalizing begun with
  | nil start =>
      rw [← same, isPart.putGet]
      exact .nil begun
  | cons field change rest start result read _ ih =>
      have onward := ih (put (change start) begun) (isPart.getPut _ _)
      rw [isPart.putPut] at onward
      refine .cons _ (update change) _ begun _ ?_ ?_
      · change (field.read (field.write (get whole))).map update = _
        rw [read]
        rfl
      · rw [isPart.updates, same]
        exact onward

-- Entries that hold, for each field, what is read like the value that the field writes.
def Carries (record : R) (fields : List (Field R)) (entries : Json.Fields) : Prop :=
  ∀ field ∈ fields, ∃ value, Json.lookup? field.key entries = some value ∧ field.read value = field.read (field.write record)

theorem carries_put {fields : List (Field R)} {entries : Json.Fields} (carried : Carries record fields entries) (key : String)
    (value : Json) (alike : ∀ field ∈ fields, field.key = key → field.read value = field.read (field.write record)) :
    Carries record fields (Json.put key value entries) := by
  intro field member
  rw [Json.lookup_put]
  by_cases same : key = field.key
  · rw [if_pos same]
    exact ⟨value, rfl, alike field member same.symm⟩
  · rw [if_neg same]
    exact carried field member

theorem carries_moved {fields : List (Field R)} {entries : Json.Fields} (carried : Carries record fields entries) (key : String)
    (value : Json) (alike : ∀ field ∈ fields, field.key = key → field.read value = field.read (field.write record)) :
    Carries record fields (Json.put key value (Json.without key entries)) := by
  intro field member
  rw [Json.lookup_put]
  by_cases same : key = field.key
  · rw [if_pos same]
    exact ⟨value, rfl, alike field member same.symm⟩
  · rw [if_neg same, Json.lookup_without key field.key entries (Ne.symm same)]
    exact carried field member

theorem setters {fields : List (Field R)} (restores : Restores record fields start result) (entries : Json.Fields)
    (carried : Carries record fields entries) :
    ∃ changes : List (R → R), fields.map (fun field => field.readFrom entries) = changes.map .ok ∧
      changes.foldl (fun record set => set record) start = result := by
  induction restores with
  | nil start => exact ⟨[], rfl, rfl⟩
  | cons field change rest start result read _ ih =>
      obtain ⟨changes, others, final⟩ := ih fun other member => carried other (List.mem_cons_of_mem _ member)
      obtain ⟨value, here, alike⟩ := carried field List.mem_cons_self
      have own : field.readFrom entries = .ok change := by
        have present : field.keyIn? entries = some field.key := by rw [Field.keyIn?, Json.has, here]; rfl
        simp only [Field.readFrom, present, Json.get, here, Option.getD_some, alike, read, Attempt.within]
      exact ⟨change :: changes, by rw [List.map_cons, own, others, List.map_cons], final⟩

end Restores

end Fields

theorem Field.of_alike {R α : Type} {key name : String} {codec : Codec α} {get : R → α} {set : α → R → R} {given wrote : Json}
    (alike : codec.read given = codec.read wrote) :
    (Field.of key name codec get set).read given = (Field.of key name codec get set).read wrote :=
  congrArg (fun outcome => outcome.map set) alike

namespace Schema

open Restores

variable {R : Type} (schema : Schema R) (record : R) (entries : Json.Fields)

-- The entries whose keys no field has.
def foreign (entries : Json.Fields) : Json.Fields :=
  entries.filter fun entry => !(schema.fields.map Field.key).contains entry.1

theorem foreign_put (key : String) (value : Json) (taken : key ∈ schema.fields.map Field.key) :
    schema.foreign (Json.put key value entries) = schema.foreign entries :=
  Json.filter_put key value entries (fun key => !(schema.fields.map Field.key).contains key) (by simpa using taken)

theorem foreign_without (key : String) (taken : key ∈ schema.fields.map Field.key) :
    schema.foreign (Json.without key entries) = schema.foreign entries :=
  Json.filter_without key entries (fun key => !(schema.fields.map Field.key).contains key) (by simpa using taken)

theorem unused_carried (carried : Carries record schema.fields entries) : schema.unused entries = schema.foreign entries := by
  have used : schema.fields.filterMap (fun field => field.keyIn? entries) = schema.fields.map Field.key := by
    refine List.filterMap_eq_map_iff_forall_eq_some.mpr fun field member => ?_
    obtain ⟨value, here, _⟩ := carried field member
    rw [Field.keyIn?, Json.has, here]
    rfl
  rw [unused, used, foreign]

theorem read_carried (bare : R) (restores : Restores record schema.fields schema.initial bare)
    (carried : Carries record schema.fields entries) :
    schema.readFields entries = .ok (schema.keep (schema.foreign entries) bare) := by
  obtain ⟨changes, read, final⟩ := restores.setters entries carried
  rw [readFields, (gather_ok _ _).mpr read, ← final, ← unused_carried schema record entries carried]
  rfl

-- The entries that a record is written as.
def entriesOf : Json.Fields :=
  schema.fields.map (fun field => (field.key, field.write record)) ++ schema.writtenExtras record

-- Extras that are finite and under no key of a field are taken up again as they are.
theorem foreign_written (free : ∀ field ∈ schema.fields, field.key ∉ (schema.extras record).map (·.1)) :
    schema.foreign (schema.entriesOf record) = schema.writtenExtras record := by
  rw [entriesOf, foreign, List.filter_append, List.filter_eq_nil_iff.mpr, List.nil_append, List.filter_eq_self.mpr]
  · intro entry member
    have named : entry.1 ∈ (schema.extras record).map (·.1) := by
      rw [← Json.finite_names]
      exact List.mem_map_of_mem member
    rw [Bool.not_eq_true', List.contains_eq_mem, decide_eq_false_iff_not]
    intro taken
    obtain ⟨field, present, same⟩ := List.mem_map.mp taken
    exact free field present (same ▸ named)
  · intro entry member
    obtain ⟨field, present, rfl⟩ := List.mem_map.mp member
    have taken : field.key ∈ schema.fields.map Field.key := List.mem_map_of_mem present
    simpa using taken

variable (distinct : (schema.fields.map Field.key).Nodup)

include distinct

theorem written_field (field : Field R) (member : field ∈ schema.fields) :
    Json.lookup? field.key (schema.entriesOf record) = some (field.write record) := by
  rw [entriesOf, Json.lookup_append, Json.lookup_listed Field.key (fun field => field.write record) _ distinct field member]
  rfl

theorem written_carries : Carries record schema.fields (schema.entriesOf record) := fun field member =>
  ⟨field.write record, written_field schema record distinct field member, rfl⟩

-- What is written is read with the extras as they were written.
theorem written_read (bare : R) (restores : Restores record schema.fields schema.initial bare)
    (free : ∀ field ∈ schema.fields, field.key ∉ (schema.extras record).map (·.1)) :
    schema.read (schema.write record) = .ok (schema.keep (schema.writtenExtras record) bare) := by
  have read := schema.read_carried record (schema.entriesOf record) bare restores (schema.written_carries record distinct)
  rw [schema.foreign_written record free] at read
  exact read

-- No two fields have one key, so that one of them speaks for all.
theorem alike_of_member (field : Field R) (member : field ∈ schema.fields) (value : Json)
    (alike : field.read value = field.read (field.write record)) :
    ∀ other ∈ schema.fields, other.key = field.key → other.read value = other.read (other.write record) := by
  intro other present same
  rw [List.inj_on_of_nodup_map distinct present member same]
  exact alike

end Schema

theorem Schema.closed_restores {R : Type} (initial : R) (fields : List (Field R)) (distinct : (fields.map Field.key).Nodup)
    (record : R) (restores : Restores record fields initial record) : (closed initial fields).codec.Restores record :=
  (closed initial fields).written_read record distinct record restores fun _ _ => List.not_mem_nil

theorem Schema.write_alike {R : Type} (schema : Schema R) (record other : R)
    (fields : ∀ field ∈ schema.fields, field.write other = field.write record)
    (extras : schema.writtenExtras other = schema.writtenExtras record) : schema.write other = schema.write record := by
  have same : schema.fields.map (fun field => (field.key, field.write other)) =
      schema.fields.map fun field => (field.key, field.write record) :=
    List.map_congr_left fun field member => by rw [fields field member]
  rw [write, write, same, extras]

end TaggedStory
