import TaggedStory.Proofs.Record.Reading
/-!
Fields whose values are put in before a record is read: the record holds what was put in, and nothing of what stood in its
place.
-/
set_option autoImplicit false

namespace TaggedStory

-- What a field sets stays, if the fields behind it leave that part of the record as it is.
theorem Schema.read_holds {R β : Type} (schema : Schema R) (view : R → β) (front back : List (Field R)) (field : Field R)
    (listed : schema.fields = front ++ field :: back) (kept : ∀ other ∈ back, other.Keeps view)
    (unmoved : ∀ extras record, view (schema.keep extras record) = view record)
    (entries : Json.Fields) (value : Json) (found : Json.lookup? field.key entries = some value) (seen : β)
    (sets : ∀ change, field.read value = .ok change → ∀ record, view (change record) = seen)
    (record : R) (read : schema.readFields entries = .ok record) : view record = seen := by
  obtain ⟨setters, gathered, rfl⟩ := (attempt_map_ok _ _ _).mp read
  have each := (gather_ok _ _).mp gathered
  rw [listed, List.map_append, List.map_cons] at each
  obtain ⟨early, rest, rfl, _, later⟩ := List.map_eq_append_iff.mp each.symm
  obtain ⟨change, late, rfl, own, others⟩ := List.map_eq_cons_iff.mp later
  have here : field.readFrom entries = Attempt.within field.key (field.read value) := by
    have present : field.keyIn? entries = some field.key := by rw [Field.keyIn?, Json.has, found]; rfl
    simp only [Field.readFrom, present, Json.get, found, Option.getD_some]
  rw [unmoved, List.foldl_append, List.foldl_cons, setters_keep view entries back late kept others.symm]
  exact sets change (within_ok _ _ _ (here.symm.trans own.symm)) _

theorem Field.lift_keeps {R S β : Type} {get : S → R} {update : (R → R) → S → S} (field : Field R) (view : S → β)
    (unmoved : ∀ change whole, view (update change whole) = view whole) : (field.lift get update).Keeps view := by
  intro seen raw change done whole same
  obtain ⟨inner, _, rfl⟩ := (attempt_map_ok _ _ _).mp done
  exact (unmoved inner whole).trans same

theorem Json.without_put (key : String) (value : Json) (fields : Fields) : without key (put key value fields) = without key fields :=
  filter_put key value fields (fun name => decide (name ≠ key)) (by simp)

section Alike

variable (key : String) (value : Json) (entries others : Json.Fields) (alike : Json.without key entries = Json.without key others)

include alike

theorem Json.lookup_overwritten (name : String) : lookup? name (put key value entries) = lookup? name (put key value others) := by
  rw [lookup_put, lookup_put]
  by_cases same : key = name
  · rw [if_pos same, if_pos same]
  · rw [if_neg same, if_neg same, ← lookup_without key name entries (Ne.symm same), alike,
      lookup_without key name others (Ne.symm same)]

theorem Json.filter_overwritten (chosen : String → Bool) (unseen : chosen key = false) :
    (put key value entries).filter (fun entry => chosen entry.1) = (put key value others).filter fun entry => chosen entry.1 := by
  rw [filter_put key value entries chosen unseen, ← filter_without key entries chosen unseen, alike,
    filter_without key others chosen unseen, filter_put key value others chosen unseen]

-- Entries that differ under one key alone give the same record once something else is put there.
theorem Schema.read_overwritten {R : Type} (schema : Schema R) (taken : key ∈ schema.fields.map Field.key) :
    schema.readFields (Json.put key value entries) = schema.readFields (Json.put key value others) := by
  have lookups := Json.lookup_overwritten key value entries others alike
  have known (name : String) : Json.has name (Json.put key value entries) = Json.has name (Json.put key value others) := by
    rw [Json.has, lookups, Json.has]
  have keys (field : Field R) : field.keyIn? (Json.put key value entries) = field.keyIn? (Json.put key value others) := by
    rw [Field.keyIn?, known, known, Field.keyIn?]
  have reads (field : Field R) : field.readFrom (Json.put key value entries) = field.readFrom (Json.put key value others) := by
    simp only [Field.readFrom, keys, Json.get, lookups]
  have used : key ∈ schema.fields.filterMap fun field => field.keyIn? (Json.put key value others) := by
    obtain ⟨field, member, rfl⟩ := List.mem_map.mp taken
    have present : Json.has field.key (Json.put field.key value others) = true := by
      rw [Json.has, Json.lookup_put, if_pos rfl]
      rfl
    exact List.mem_filterMap.mpr ⟨field, member, if_pos present⟩
  have unused : schema.unused (Json.put key value entries) = schema.unused (Json.put key value others) := by
    simp only [Schema.unused, keys]
    refine Json.filter_overwritten key value entries others alike
      (fun name => !(schema.fields.filterMap fun field => field.keyIn? (Json.put key value others)).contains name) ?_
    rw [List.contains_iff_mem.mpr used]
    rfl
  simp only [readFields, reads, unused]

end Alike

end TaggedStory
