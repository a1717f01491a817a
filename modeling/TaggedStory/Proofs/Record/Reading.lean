import TaggedStory.Proofs.Attempt
import TaggedStory.Proofs.Json.Fields
import TaggedStory.Record.Codec
/-!
What a record holds after its fields were read.
-/
set_option autoImplicit false

namespace TaggedStory

theorem gather_ok {α : Type} (attempts : List (Attempt α)) (values : List α) :
    gather attempts = .ok values ↔ attempts = values.map .ok := by
  induction attempts generalizing values with
  | nil => cases values <;> simp [gather]
  | cons first rest ih =>
      cases first with
      | error fault =>
          cases values <;> cases gathered : gather rest <;> simp [gather, gathered]
      | ok value =>
          cases gathered : gather rest with
          | error fault =>
              have unread : ∀ values : List α, rest ≠ values.map .ok := by
                intro values same
                simpa [gathered] using (ih values).mpr same
              cases values <;> simp [gather, gathered, unread]
          | ok others =>
              have read := (ih others).mp gathered
              cases values with
              | nil => simp [gather, gathered]
              | cons head tail =>
                  simp only [gather, gathered, List.map_cons, Except.ok.injEq, List.cons.injEq, and_congr_right_iff]
                  intro _
                  rw [← ih tail, gathered, Except.ok.injEq]

theorem within_ok {α : Type} (key : String) (attempt : Attempt α) (value : α)
    (done : Attempt.within key attempt = .ok value) : attempt = .ok value := by
  cases attempt with
  | error fault => cases done
  | ok other => exact done

namespace Codec

variable {α : Type} (codec : Codec α)

theorem items_read (index : Nat) (items : List Json) (values : List α)
    (read : codec.readItems index items = values.map .ok) (value : α) (member : value ∈ values) :
    ∃ item, codec.read item = .ok value := by
  induction items generalizing index values with
  | nil =>
      have none : values = [] := by simpa [readItems] using read.symm
      rw [none] at member
      cases member
  | cons item rest ih =>
      cases values with
      | nil => cases member
      | cons first others =>
          rw [readItems, List.map_cons, List.cons.injEq] at read
          rcases List.mem_cons.mp member with rfl | later
          · exact ⟨item, within_ok _ _ _ read.1⟩
          · exact ih (index + 1) others read.2 later

theorem list_read (raw : Json) (values : List α) (read : codec.list.read raw = .ok values) (value : α)
    (member : value ∈ values) : ∃ item, codec.read item = .ok value := by
  cases raw with
  | arr items => exact codec.items_read 0 items values ((gather_ok _ _).mp read) value member
  | _ => cases read

end Codec

namespace Field

variable {R S α β : Type}

theorem read_from_some (field : Field R) (entries : Json.Fields) (change : R → R)
    (done : field.readFrom entries = .ok change) : change = id ∨ ∃ raw, field.read raw = .ok change := by
  unfold readFrom at done
  split at done
  · rename_i found _
    cases outcome : field.read (Json.get found entries) with
    | error fault => simp [outcome, Attempt.within] at done
    | ok other =>
        rw [outcome] at done
        exact .inr ⟨_, outcome.trans (congrArg Except.ok (Except.ok.inj done))⟩
  · split at done
    · cases done
    · exact .inl (Except.ok.inj done).symm

-- A field that keeps up a statement about the record.
def Upholds (holds : R → Prop) (field : Field R) : Prop :=
  ∀ raw change, field.read raw = .ok change → ∀ record, holds record → holds (change record)

theorem of_upholds {holds : R → Prop} {key name : String} {codec : Codec α} {get : R → α} {set : α → R → R}
    (upheld : ∀ raw value, codec.read raw = .ok value → ∀ record, holds record → holds (set value record)) :
    Upholds holds (of key name codec get set) := by
  intro raw change done record held
  obtain ⟨value, read, rfl⟩ := (attempt_map_ok _ _ _).mp done
  exact upheld raw value read record held

theorem lift_upholds {holds : R → Prop} {whole : S → Prop} {get : S → R} {update : (R → R) → S → S} {field : Field R}
    (upheld : field.Upholds holds)
    (updates : ∀ change, (∀ record, holds record → holds (change record)) → ∀ record, whole record → whole (update change record)) :
    (field.lift get update).Upholds whole := by
  intro raw change done record held
  obtain ⟨inner, read, rfl⟩ := (attempt_map_ok _ _ _).mp done
  exact updates inner (upheld raw inner read) record held

-- A field that leaves a part of the record as it is.
def Keeps (view : R → β) (field : Field R) : Prop :=
  ∀ seen, Upholds (fun record => view record = seen) field

theorem of_keeps {view : R → β} {key name : String} {codec : Codec α} {get : R → α} {set : α → R → R}
    (keeps : ∀ value record, view (set value record) = view record) : Keeps view (of key name codec get set) :=
  fun _ => of_upholds fun _ value _ record same => (keeps value record).trans same

end Field

theorem setters_uphold {R : Type} (holds : R → Prop) (entries : Json.Fields) (fields : List (Field R))
    (setters : List (R → R)) (upheld : ∀ field ∈ fields, field.Upholds holds)
    (read : fields.map (fun field => field.readFrom entries) = setters.map .ok) (record : R) (held : holds record) :
    holds (setters.foldl (fun record set => set record) record) := by
  induction fields generalizing setters record with
  | nil =>
      have none : setters = [] := by simpa using read.symm
      rw [none]
      exact held
  | cons field rest ih =>
      cases setters with
      | nil => simp at read
      | cons change others =>
          simp only [List.map_cons, List.cons.injEq] at read
          refine ih others (fun other member => upheld other (List.mem_cons_of_mem _ member)) read.2 (change record) ?_
          rcases field.read_from_some entries change read.1 with rfl | ⟨raw, done⟩
          · exact held
          · exact upheld field List.mem_cons_self raw change done record held

theorem setters_keep {R β : Type} (view : R → β) (entries : Json.Fields) (fields : List (Field R))
    (setters : List (R → R)) (keep : ∀ field ∈ fields, field.Keeps view)
    (read : fields.map (fun field => field.readFrom entries) = setters.map .ok) (record : R) :
    view (setters.foldl (fun record set => set record) record) = view record :=
  setters_uphold (fun other => view other = view record) entries fields setters (fun field member => keep field member _)
    read record rfl

theorem Schema.read_upholds {R : Type} (schema : Schema R) (holds : R → Prop) (start : holds schema.initial)
    (upheld : ∀ field ∈ schema.fields, field.Upholds holds) (value : Json) (record : R) (read : schema.read value = .ok record) :
    ∃ entries bare, holds bare ∧ record = schema.keep (schema.unused entries) bare := by
  cases value with
  | obj entries =>
      obtain ⟨setters, gathered, rfl⟩ := (attempt_map_ok _ _ _).mp read
      exact ⟨entries, _, setters_uphold holds entries schema.fields setters upheld ((gather_ok _ _).mp gathered) _ start, rfl⟩
  | _ => cases read

-- What is left over has no key of a field.
theorem Schema.unused_free {R : Type} (schema : Schema R) (entries : Json.Fields) (field : Field R) (member : field ∈ schema.fields) :
    field.key ∉ (schema.unused entries).map (·.1) := by
  intro taken
  obtain ⟨entry, left, same⟩ := List.mem_map.mp taken
  obtain ⟨present, unused⟩ := List.mem_filter.mp left
  have found : Json.has field.key entries = true := same ▸ Json.has_of_member entries entry present
  have used : field.key ∈ schema.fields.filterMap fun field => field.keyIn? entries :=
    List.mem_filterMap.mpr ⟨field, member, if_pos found⟩
  rw [same, Bool.not_eq_true', List.contains_eq_mem, decide_eq_false_iff_not] at unused
  exact unused used

end TaggedStory
