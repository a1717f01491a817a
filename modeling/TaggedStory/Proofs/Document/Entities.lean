import Mathlib.Data.List.Dedup
import Mathlib.Data.List.Induction
import TaggedStory.Document.Interchange.Content
import TaggedStory.Proofs.Record.Reading
/-!
The entities of an interchange document: every readable one under the text of its id, and of several with
one id the last.
-/
set_option autoImplicit false

namespace TaggedStory

open Decimal

theorem digits_text_ne_nil (layout : Layout) (value : Digits) : value.text layout ≠ [] := by
  simp only [Digits.text]
  split
  · split
    · simp
    · split <;> simp
  · simp [Digits.exponentText]

theorem double_text_ne_empty (value : Double) : value.text ≠ "" := by
  cases value with
  | nan => decide
  | infinite negative => cases negative <;> decide
  | finite negative mantissa exponent =>
      by_cases zero : mantissa = 0
      · cases negative <;> simp [Double.text, zero]
      · cases negative <;> simp [Double.text, zero, digits_text_ne_nil]

theorem int_text_ne_nil (value : Int) : intText value ≠ [] := by
  unfold intText
  split
  · simp
  · exact Nat.toDigits_ne_nil

namespace Json

theorem text_ne_empty (value : Json) (present : value.isTrue = true) : value.text ≠ "" := by
  cases value with
  | null => simp [isTrue] at present
  | bool value => cases value <;> simp [text, shown, nested]
  | int value => simp [text, shown, nested, int_text_ne_nil]
  | float value => simp [text, shown, nested, double_text_ne_empty]
  | str value => simpa [isTrue, text] using present
  | arr items => simp [text, shown, nested]
  | obj fields => simp [text, shown, nested]

theorem has_of_get (key : String) (fields : Fields) (present : (get key fields).isTrue = true) :
    has key fields = true := by
  cases found : lookup? key fields with
  | none => simp [get, found, isTrue] at present
  | some value => simp [has, found]

end Json

namespace Entity

theorem other_fields_keep_uuid : ∀ field ∈ schema.fields.tail, field.Keeps uuid := by
  simp only [schema, List.tail_cons, List.forall_mem_cons]
  exact ⟨Field.of_keeps fun _ _ => rfl, Field.of_keeps fun _ _ => rfl, Field.of_keeps fun _ _ => rfl,
    Field.of_keeps fun _ _ => rfl, Field.of_keeps fun _ _ => rfl, Field.of_keeps fun _ _ => rfl,
    Field.of_keeps fun _ _ => rfl, Field.of_keeps fun _ _ => rfl, List.forall_mem_nil _⟩

theorem uuid_of_read (entries : Json.Fields) (entity : Entity)
    (present : (Json.get "uuid" entries).isTrue = true) (read : schema.readFields entries = .ok entity) :
    entity.uuid = (Json.get "uuid" entries).text := by
  obtain ⟨setters, gathered, rfl⟩ := (attempt_map_ok _ _ _).mp read
  have all := (gather_ok _ _).mp gathered
  cases setters with
  | nil => simp [schema] at all
  | cons first rest =>
      have own : (Field.required "uuid" "uuid" (.plain (fun value => .ok value.text) .str) uuid
          fun x r => { r with uuid := x }).readFrom entries = .ok first := (List.cons.inj all).1
      have others : schema.fields.tail.map (fun field => field.readFrom entries) = rest.map .ok := (List.cons.inj all).2
      have first_eq : first = fun r => { r with uuid := (Json.get "uuid" entries).text } := by
        simpa [Field.readFrom, Field.keyIn?, Field.required, Field.of, Json.has_of_get "uuid" entries present,
          Attempt.within, Codec.plain, Except.map] using own.symm
      change (rest.foldl (fun record set => set record) (first {})).uuid = _
      rw [setters_keep Entity.uuid entries schema.fields.tail rest other_fields_keep_uuid others, first_eq]

end Entity

namespace Interchange

-- An item of a document that gives an entity.
def readable? : Json → Option Entity
  | .obj entries =>
      if (Json.get "uuid" entries).isTrue then (Entity.schema.readFields entries).toOption else none
  | _ => none

theorem readable_uuid (raw : Json) (entity : Entity) (read : readable? raw = some entity) :
    ∃ entries, raw = .obj entries ∧ (Json.get "uuid" entries).isTrue = true ∧
      entity.uuid = (Json.get "uuid" entries).text := by
  cases raw with
  | obj entries =>
      by_cases present : (Json.get "uuid" entries).isTrue = true
      · rw [readable?, if_pos present] at read
        refine ⟨entries, rfl, present, Entity.uuid_of_read entries entity present ?_⟩
        cases outcome : Entity.schema.readFields entries with
        | error fault => simp [outcome, Except.toOption] at read
        | ok other => simpa [outcome, Except.toOption] using read
      · simp [readable?, present] at read
  | _ => simp [readable?] at read

theorem readable_named (raw : Json) (entity : Entity) (read : readable? raw = some entity) : entity.uuid ≠ "" := by
  obtain ⟨entries, _, present, uuid⟩ := readable_uuid raw entity read
  rw [uuid]
  exact Json.text_ne_empty _ present

theorem add_entity_readable (entities : List Entity) (raw : Json) :
    addEntity entities raw =
      match readable? raw with
      | some entity => (entities.filter fun other => other.uuid ≠ entity.uuid) ++ [entity]
      | none => entities := by
  cases raw with
  | obj entries =>
      by_cases present : (Json.get "uuid" entries).isTrue = true
      · cases outcome : Entity.schema.readFields entries <;>
          simp [addEntity, readable?, present, outcome, Except.toOption]
      · simp [addEntity, readable?, present]
  | _ => rfl

theorem dedup_concat (ids : List String) (id : String) :
    (ids ++ [id]).dedup = (ids.dedup.filter fun other => other ≠ id) ++ [id] := by
  induction ids with
  | nil => rfl
  | cons head rest ih =>
      by_cases again : head ∈ rest
      · rw [List.cons_append, List.dedup_cons_of_mem (List.mem_append_left _ again), ih, List.dedup_cons_of_mem again]
      · by_cases same : head = id
        · subst same
          rw [List.cons_append, List.dedup_cons_of_mem (by simp), ih, List.dedup_cons_of_notMem again]
          simp
        · rw [List.cons_append, List.dedup_cons_of_notMem (by simp [again, same]), ih,
            List.dedup_cons_of_notMem again]
          simp [same]

-- The ids of the readable items in the order of the document, as often as they occur.
def readableIds (items : List Json) : List String :=
  (items.filterMap readable?).map (·.uuid)

theorem add_entities_ids (items : List Json) :
    (items.foldl addEntity []).map (·.uuid) = (readableIds items).dedup := by
  induction items using List.reverseRecOn with
  | nil => rfl
  | append_singleton items raw ih =>
      rw [List.foldl_concat, add_entity_readable, readableIds, List.filterMap_append, List.map_append]
      cases read : readable? raw with
      | none => simpa [read, readableIds] using ih
      | some entity =>
          have ids := dedup_concat (readableIds items) entity.uuid
          rw [← ih] at ids
          simp only [List.filterMap_cons, read, List.filterMap_nil, List.map_cons, List.map_nil]
          rw [← readableIds, ids, List.map_append, List.filter_map]
          rfl

theorem readable_ids_named (items : List Json) : "" ∉ readableIds items := by
  intro member
  obtain ⟨entity, readable, unnamed⟩ := List.mem_map.mp member
  obtain ⟨raw, _, read⟩ := List.mem_filterMap.mp readable
  exact readable_named raw entity read unnamed

-- The items that a document offers as entities.
def entityItems : Json → List Json
  | .obj entries =>
      match Json.get "entities" entries with
      | .arr items => items
      | _ => []
  | _ => []

theorem content_ids (document : Json) (content : Content) (read : readContent document = .ok content) :
    content.entities.map (·.uuid) = (readableIds (entityItems document)).dedup := by
  cases document with
  | obj entries =>
      cases offered : Json.get "entities" entries with
      | arr items =>
          simp only [readContent, offered, attempt_bind_ok, attempt_pure_ok] at read
          obtain ⟨links, _, rfl⟩ := read
          simpa only [entityItems, offered] using add_entities_ids items
      | _ => simp [readContent, offered, malformed] at read
  | _ => simp [readContent, malformed] at read

end Interchange

end TaggedStory
