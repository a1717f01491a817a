import TaggedStory.Proofs.Record.Reading
/-!
Records read from two documents, one of which is the other with the values of some fields changed.
-/
set_option autoImplicit false

namespace TaggedStory

section Following

variable {R : Type} (change : R → R) (entries other : Json.Fields)

-- The setters read from two documents: the second sets a changed record as the first one sets the record.
def Follow (setters others : List (R → R)) : Prop :=
  ∀ record, others.foldl (fun record set => set record) (change record) =
    change (setters.foldl (fun record set => set record) record)

-- A field that fails alike in both documents, or gives setters that follow each other.
def Field.Follows (field : Field R) : Prop :=
  (∃ fault, field.readFrom entries = .error fault ∧ field.readFrom other = .error fault) ∨
    ∃ set next, field.readFrom entries = .ok set ∧ field.readFrom other = .ok next ∧
      ∀ record, next (change record) = change (set record)

theorem gather_follows (fields : List (Field R)) (follow : ∀ field ∈ fields, field.Follows change entries other) :
    (∃ fault, gather (fields.map fun field => field.readFrom entries) = .error fault ∧
      gather (fields.map fun field => field.readFrom other) = .error fault) ∨
    ∃ setters others, gather (fields.map fun field => field.readFrom entries) = .ok setters ∧
      gather (fields.map fun field => field.readFrom other) = .ok others ∧ Follow change setters others := by
  induction fields with
  | nil => exact .inr ⟨[], [], rfl, rfl, fun _ => rfl⟩
  | cons field rest ih =>
      have later := ih fun field member => follow field (List.mem_cons_of_mem _ member)
      simp only [List.map_cons]
      rcases follow field List.mem_cons_self with ⟨fault, first, second⟩ | ⟨set, next, first, second, alike⟩ <;>
        rcases later with ⟨cause, front, back⟩ | ⟨setters, others, front, back, onward⟩
      · exact .inl ⟨fault.merge cause, by simp only [gather, first, front], by simp only [gather, second, back]⟩
      · exact .inl ⟨fault, by simp only [gather, first, front], by simp only [gather, second, back]⟩
      · exact .inl ⟨cause, by simp only [gather, first, front], by simp only [gather, second, back]⟩
      · refine .inr ⟨set :: setters, next :: others, by simp only [gather, first, front],
          by simp only [gather, second, back], fun record => ?_⟩
        rw [List.foldl_cons, List.foldl_cons, alike, onward]

theorem Schema.read_follows (schema : Schema R) (follow : ∀ field ∈ schema.fields, field.Follows change entries other)
    (start : change schema.initial = schema.initial)
    (keep : ∀ record,
      schema.keep (schema.unused other) (change record) = change (schema.keep (schema.unused entries) record)) :
    schema.readFields other = (schema.readFields entries).map change := by
  rcases gather_follows change entries other schema.fields follow with
    ⟨fault, first, second⟩ | ⟨setters, others, first, second, alike⟩
  · rw [readFields, readFields, first, second]
    rfl
  · have finished := alike schema.initial
    rw [start] at finished
    rw [readFields, readFields, first, second]
    simp only [Except.map, finished, keep]

end Following

-- A field that the change of the document leaves alone.
theorem Field.follows_unseen {R : Type} (change : R → R) (edit : String → Json → Json) (entries : Json.Fields)
    (field : Field R) (keyed : ∀ value, edit field.key value = value) (named : ∀ value, edit field.name value = value)
    (commutes : ∀ raw set, field.read raw = .ok set → ∀ record, set (change record) = change (set record)) :
    field.Follows change entries (Json.mapFields edit entries) := by
  have same : field.readFrom (Json.mapFields edit entries) = field.readFrom entries := by
    simp only [readFrom, keyIn?, Json.has_map_fields]
    cases Json.has field.key entries with
    | true => simp only [if_true, Json.get_map_fields edit field.key entries keyed]
    | false =>
        cases Json.has field.name entries with
        | true => simp only [Bool.false_eq_true, if_false, if_true, Json.get_map_fields edit field.name entries named]
        | false => rfl
  cases outcome : field.readFrom entries with
  | error fault => exact .inl ⟨fault, outcome, same.trans outcome⟩
  | ok set =>
      refine .inr ⟨set, set, outcome, same.trans outcome, ?_⟩
      rcases field.read_from_some entries set outcome with rfl | ⟨raw, read⟩
      · exact fun _ => rfl
      · exact commutes raw set read

theorem Schema.unused_map {R : Type} (schema : Schema R) (edit : String → Json → Json) (entries : Json.Fields)
    (free : ∀ key, (∀ field ∈ schema.fields, field.key ≠ key) → ∀ value, edit key value = value) :
    schema.unused (Json.mapFields edit entries) = schema.unused entries := by
  have used : ∀ field : Field R, field.keyIn? (Json.mapFields edit entries) = field.keyIn? entries := fun field => by
    simp only [Field.keyIn?, Json.has_map_fields]
  simp only [unused, used]
  rw [Json.mapFields, List.filter_map]
  refine (List.map_congr_left fun entry left => ?_).trans (List.map_id _)
  have kept := free entry.1 fun field member same =>
    schema.unused_free entries field member (same ▸ List.mem_map_of_mem left)
  rw [kept]
  rfl

end TaggedStory
