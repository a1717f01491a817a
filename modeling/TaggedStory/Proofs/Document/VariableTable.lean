import TaggedStory.Document.VariableTable
import TaggedStory.Proofs.Record.Restoring
/-!
A written variable table is read back: the entries that have a name, each without its extras and with a
bound on both sides.
-/
set_option autoImplicit false

namespace TaggedStory

-- An entry as a document carries it.
def Variable.settled (entry : Variable) : Variable :=
  { entry with
    minValue := VariableTable.orElse entry.minValue factoryMin
    maxValue := VariableTable.orElse entry.maxValue factoryMax
    extras := [] }

theorem VariableKind.word_restores (kind : VariableKind) :
    (Record.member VariableKind.ofWord? VariableKind.word).Restores kind := by
  cases kind <;> rfl

theorem Persistence.word_restores (persistence : Persistence) :
    (Record.member Persistence.ofWord? Persistence.word).Restores persistence := by
  cases persistence <;> rfl

theorem Variable.fields_restore (entry : Variable) :
    Restores entry Variable.schema.fields {} { entry with extras := [] } :=
  .required rfl <| .of rfl <| .of rfl <| .of (VariableKind.word_restores _) <| .of (Persistence.word_restores _) <|
    .of rfl <| .of rfl <| .of rfl <| .of rfl <| .of rfl <| .of rfl <| .of rfl <| .of rfl <| .of rfl <| .nil _

namespace VariableTable

theorem written_kind_read (kind : VariableKind) :
    member VariableKind.ofWord? VariableKind.ofNumber? .integer (.int kind.number) = .ok kind := by
  cases kind <;> rfl

theorem written_persistence_read (persistence : Persistence) :
    member Persistence.ofWord? Persistence.ofNumber? .chapterConstant (.int persistence.number) = .ok persistence := by
  cases persistence <;> rfl

-- The fields of a written entry once its kind and persistence are words again.
def carried (entry : Variable) : Json.Fields := [
  ("name", .str entry.name), ("displayName", .str entry.displayName), ("description", .str entry.description),
  ("type", .str entry.kind.word), ("persistenceType", .str entry.persistence.word),
  ("defaultValue", .str entry.defaultValue), ("minValue", .str (orElse entry.minValue factoryMin)),
  ("maxValue", .str (orElse entry.maxValue factoryMax)), ("usePlayerPrefs", .bool entry.usePlayerPrefs),
  ("showAsProgress", .bool entry.showAsProgress), ("iconPath", .str entry.iconPath), ("priority", .int entry.priority),
  ("isHidden", .bool entry.isHidden), ("order", .int entry.order)]

theorem carried_read (entry : Variable) : Variable.schema.readFields (carried entry) = .ok entry.settled := by
  have found : ∀ field ∈ Variable.schema.fields, Json.lookup? field.key (carried entry) = some (field.write entry.settled) := by
    simp only [Variable.schema, List.forall_mem_cons]
    exact ⟨rfl, rfl, rfl, rfl, rfl, rfl, rfl, rfl, rfl, rfl, rfl, rfl, rfl, rfl, List.forall_mem_nil _⟩
  rw [Variable.schema.read_carried entry.settled _ _ (Variable.fields_restore entry.settled) fun field member =>
    ⟨_, found field member, rfl⟩]
  rfl

theorem written_entry_read (entry : Variable) :
    readEntry (writeEntry entry) = .ok (if entry.name = "" then none else some entry.settled) := by
  obtain ⟨entries, shape⟩ : ∃ entries, writeEntry entry = .obj entries := ⟨_, rfl⟩
  have name : Json.get "name" entries = .str entry.name := by cases shape; rfl
  have kind : kindOf entries = .ok entry.kind := by cases shape; exact written_kind_read entry.kind
  have persistence : persistenceOf entries = .ok entry.persistence := by
    cases shape
    exact written_persistence_read entry.persistence
  have fields : recordFields entries entry.kind entry.persistence = carried entry := by cases shape; rfl
  rw [shape, readEntry, name, kind, persistence]
  by_cases empty : entry.name = ""
  · rw [if_pos empty, if_neg (by simp [Json.isTrue, empty])]
  · rw [if_neg empty, if_pos (by simpa [Json.isTrue] using empty)]
    change Except.ok (Variable.schema.readFields (recordFields entries entry.kind entry.persistence)).toOption = _
    rw [fields, carried_read]
    rfl

theorem written_read (table : List Variable) :
    VariableTable.read (write table) = .ok ((table.filter fun entry => entry.name ≠ "").map Variable.settled) := by
  induction table with
  | nil => rfl
  | cons entry rest ih =>
      have later : readEntries (rest.map writeEntry) =
          .ok ((rest.filter fun entry => entry.name ≠ "").map Variable.settled) := ih
      change readEntries (writeEntry entry :: rest.map writeEntry) = _
      rw [readEntries, written_entry_read, later]
      by_cases empty : entry.name = ""
      · rw [if_pos empty, List.filter_cons_of_neg (by simpa using empty)]
        rfl
      · rw [if_neg empty, List.filter_cons_of_pos (by simpa using empty)]
        rfl

theorem or_else_again (text fallback : String) : orElse (orElse text fallback) fallback = orElse text fallback := by
  by_cases empty : text = ""
  · simp only [orElse, if_pos empty, ite_self]
  · simp only [orElse, if_neg empty]

theorem settled_written (entry : Variable) : writeEntry entry.settled = writeEntry entry := by
  simp only [writeEntry, Variable.settled, or_else_again]

theorem settled_again (table : List Variable) : write (table.map Variable.settled) = write table := by
  rw [write, write, List.map_map]
  exact congrArg Json.arr (List.map_congr_left fun entry _ => settled_written entry)

-- A table is read from its document but for nameless entries, extras and empty bounds, and what was read is written as it was.
theorem variable_table_returns (table : List Variable) : ∃ again,
    VariableTable.read (write table) = .ok again ∧
    again = (table.filter fun entry => entry.name ≠ "").map (fun entry => { entry with
      minValue := if entry.minValue = "" then "0" else entry.minValue
      maxValue := if entry.maxValue = "" then "1000000" else entry.maxValue
      extras := [] }) ∧
    write again = write (table.filter fun entry => entry.name ≠ "") ∧
    VariableTable.read (write again) = .ok again := by
  have kept : (table.filter fun entry => entry.name ≠ "").filter (fun entry => entry.name ≠ "") =
      table.filter fun entry => entry.name ≠ "" := by
    rw [List.filter_filter]
    simp only [Bool.and_self]
  refine ⟨_, written_read table, rfl, settled_again _, ?_⟩
  rw [settled_again, written_read, kept]

end VariableTable

end TaggedStory
