import TaggedStory.Json.Basic
/-!
Looking up the fields of an object after some were set, dropped or added.
-/
set_option autoImplicit false

namespace TaggedStory.Json

theorem lookup_append (key : String) (front rest : Fields) :
    lookup? key (front ++ rest) = (lookup? key front).or (lookup? key rest) := by
  induction front with
  | nil => rfl
  | cons entry front ih =>
      rw [List.cons_append, lookup?, lookup?, ih]
      split <;> rfl

theorem lookup_listed {α : Type} (name : α → String) (value : α → Json) (items : List α) (distinct : (items.map name).Nodup)
    (item : α) (member : item ∈ items) :
    lookup? (name item) (items.map fun other => (name other, value other)) = some (value item) := by
  induction items with
  | nil => cases member
  | cons head rest ih =>
      obtain ⟨fresh, distinctRest⟩ := List.nodup_cons.mp distinct
      rw [List.map_cons, lookup?]
      rcases List.mem_cons.mp member with rfl | later
      · rw [if_pos rfl]
      · rw [if_neg (show name head ≠ name item from fun same => fresh (same ▸ List.mem_map_of_mem later)), ih distinctRest later]

theorem lookup_put (key other : String) (value : Json) (fields : Fields) :
    lookup? other (put key value fields) = if key = other then some value else lookup? other fields := by
  induction fields with
  | nil => rfl
  | cons entry rest ih =>
      by_cases same : entry.1 = key
      · rw [put, if_pos same, lookup?, lookup?, same]
        split <;> rfl
      · rw [put, if_neg same, lookup?, lookup?, ih]
        by_cases found : entry.1 = other
        · rw [if_pos found, if_pos found, if_neg (fun equal => same (found.trans equal.symm))]
        · rw [if_neg found, if_neg found]

theorem lookup_without (key other : String) (fields : Fields) (different : other ≠ key) :
    lookup? other (without key fields) = lookup? other fields := by
  induction fields with
  | nil => rfl
  | cons entry rest ih =>
      by_cases same : entry.1 = key
      · rw [without, List.filter_cons_of_neg (by simpa using same), lookup?,
          if_neg (fun equal => different (equal.symm.trans same))]
        exact ih
      · rw [without, List.filter_cons_of_pos (by simpa using same), lookup?, lookup?]
        split
        · rfl
        · exact ih

theorem has_of_member (fields : Fields) (entry : String × Json) (member : entry ∈ fields) : has entry.1 fields = true := by
  induction fields with
  | nil => cases member
  | cons head rest ih =>
      rw [has, lookup?]
      split
      · rfl
      · rename_i other
        exact ih ((List.mem_cons.mp member).resolve_left fun same => other (same ▸ rfl))

theorem lookup_absent (key : String) (fields : Fields) (absent : key ∉ fields.map (·.1)) : lookup? key fields = none := by
  induction fields with
  | nil => rfl
  | cons entry rest ih =>
      rw [List.map_cons, List.mem_cons, not_or] at absent
      rw [lookup?, if_neg (Ne.symm absent.1), ih absent.2]

-- A selection that leaves a key out does not see what becomes of it.
theorem filter_put (key : String) (value : Json) (fields : Fields) (chosen : String → Bool) (unseen : chosen key = false) :
    (put key value fields).filter (fun entry => chosen entry.1) = fields.filter fun entry => chosen entry.1 := by
  induction fields with
  | nil => simp [put, unseen]
  | cons entry rest ih =>
      by_cases same : entry.1 = key
      · rw [put, if_pos same, List.filter_cons_of_neg (by simp [same, unseen]), List.filter_cons_of_neg (by simp [same, unseen])]
      · rw [put, if_neg same, List.filter_cons, List.filter_cons, ih]

theorem filter_without (key : String) (fields : Fields) (chosen : String → Bool) (unseen : chosen key = false) :
    (without key fields).filter (fun entry => chosen entry.1) = fields.filter fun entry => chosen entry.1 := by
  rw [without, List.filter_filter]
  refine List.filter_congr fun entry _ => ?_
  by_cases same : entry.1 = key
  · rw [same, unseen, Bool.false_and]
  · rw [decide_eq_true same, Bool.and_true]

theorem without_named (entry : String × Json) (rest : Fields) : without entry.1 (entry :: rest) = without entry.1 rest :=
  List.filter_cons_of_neg (by simp)

theorem without_other (key : String) (entry : String × Json) (rest : Fields) (different : entry.1 ≠ key) :
    without key (entry :: rest) = entry :: without key rest :=
  List.filter_cons_of_pos (by simpa using different)

theorem put_without (key other : String) (value : Json) (fields : Fields) (different : key ≠ other) :
    put key value (without other fields) = without other (put key value fields) := by
  induction fields with
  | nil => exact (without_other other (key, value) [] different).symm
  | cons entry rest ih =>
      by_cases same : entry.1 = key
      · have kept : entry.1 ≠ other := same ▸ different
        rw [without_other other entry rest kept, put, put, if_pos same, if_pos same]
        exact (without_other other (entry.1, value) rest kept).symm
      · rw [put, if_neg same]
        by_cases gone : entry.1 = other
        · subst gone
          rw [without_named, ih, without_named]
        · rw [without_other other entry rest gone, put, if_neg same, ih, without_other other entry _ gone]

theorem finite_names (fields : Fields) : (finiteFields fields).map (·.1) = fields.map (·.1) := by
  induction fields with
  | nil => rfl
  | cons entry rest ih => rw [finiteFields, List.map_cons, List.map_cons, ih]

mutual
theorem finite_only_again (value : Json) : finiteOnly (finiteOnly value) = finiteOnly value := by
  cases value with
  | float value =>
      rw [finiteOnly]
      by_cases finite : value.isFinite = true
      · rw [if_pos finite, finiteOnly, if_pos finite]
      · rw [if_neg finite]
        rfl
  | arr items => rw [finiteOnly, finiteOnly, finite_items_again items]
  | obj fields => rw [finiteOnly, finiteOnly, finite_fields_again fields]
  | null | bool _ | int _ | str _ => rfl

theorem finite_items_again (items : List Json) : finiteItems (finiteItems items) = finiteItems items := by
  cases items with
  | nil => rfl
  | cons item rest => rw [finiteItems, finiteItems, finite_only_again item, finite_items_again rest]

theorem finite_fields_again (fields : List (String × Json)) : finiteFields (finiteFields fields) = finiteFields fields := by
  cases fields with
  | nil => rfl
  | cons field rest =>
      obtain ⟨name, value⟩ := field
      rw [finiteFields, finiteFields, finite_only_again value, finite_fields_again rest]
end

-- An object with the value of each field changed.
def mapFields (change : String → Json → Json) (fields : Fields) : Fields :=
  fields.map fun field => (field.1, change field.1 field.2)

theorem lookup_map_fields (change : String → Json → Json) (key : String) (fields : Fields) :
    lookup? key (mapFields change fields) = (lookup? key fields).map (change key) := by
  induction fields with
  | nil => rfl
  | cons field rest ih =>
      rw [mapFields, List.map_cons, lookup?, lookup?]
      by_cases same : field.1 = key
      · rw [if_pos same, if_pos same, same]
        rfl
      · rw [if_neg same, if_neg same]
        exact ih

theorem has_map_fields (change : String → Json → Json) (key : String) (fields : Fields) :
    has key (mapFields change fields) = has key fields := by
  rw [has, lookup_map_fields, Option.isSome_map, has]

theorem get_map_fields (change : String → Json → Json) (key : String) (fields : Fields)
    (kept : ∀ value, change key value = value) : get key (mapFields change fields) = get key fields := by
  rw [get, get, lookup_map_fields]
  cases lookup? key fields with
  | none => rfl
  | some value => exact kept value

end TaggedStory.Json
