import Mathlib.Data.List.Basic
import TaggedStory.Catalog.Collector
import TaggedStory.Proofs.Attempt
/-!
The names that a collector has entered: those of the nodes it read, and those that the texts mention.
-/
set_option autoImplicit false

namespace TaggedStory

def Body.conditions : Body → List Condition
  | .video body => body.conditions
  | .choice body => body.offer.conditions
  | .card body => body.offer.conditions
  | _ => []

def Body.effects : Body → List Effect
  | .video body => body.effects
  | .choice body => body.offer.effects
  | .card body => body.offer.effects
  | _ => []

-- The variables that the conditions and effects of a node name.
def Body.required (body : Body) : List String :=
  body.conditions.map (·.name) ++ body.effects.map (·.name)

namespace Collector

open Text Catalog

variable (collector : Collector)

theorem has_name (name : String) : collector.has name = true ↔ name ∈ collector.names := by
  simp [has, find?, names, List.find?_isSome]

theorem mem_enter (name other : String) : other ∈ (collector.enter name).names ↔ other ∈ collector.names ∨ other = name := by
  rw [enter]
  split
  case isTrue present =>
    refine ⟨.inl, ?_⟩
    rintro (old | rfl)
    · exact old
    · exact (has_name collector other).mp present
  case isFalse => simp [names]

theorem names_update (name : String) (change : Entry → Entry) (keeps : ∀ entry, (change entry).name = entry.name) :
    (collector.update name change).names = collector.names := by
  rw [names, update, List.map_map, names]
  refine List.map_congr_left fun entry _ => ?_
  rw [Function.comp_apply]
  split
  · exact keeps entry
  · rfl

theorem mem_register (raw : List Char) (other : String) :
    other ∈ (collector.register raw).names ↔ other ∈ collector.names ∨ nameOf? raw = some other := by
  rw [register]
  cases nameOf? raw with
  | none => simp
  | some name => simpa [eq_comm] using mem_enter collector name other

theorem mem_note (raw : List Char) (change : Entry → Entry) (keeps : ∀ entry, (change entry).name = entry.name)
    (other : String) : other ∈ (collector.note raw change).names ↔ other ∈ collector.names ∨ nameOf? raw = some other := by
  rw [note]
  cases nameOf? raw with
  | none => simp
  | some name =>
      simp only [names_update _ name change keeps, mem_enter, Option.some.injEq, eq_comm]

-- A run of steps each of which may enter one name.
theorem mem_fold {α : Type} (step : Collector → α → Collector) (raw : α → List Char)
    (enters : ∀ collector item other,
      other ∈ (step collector item).names ↔ other ∈ collector.names ∨ nameOf? (raw item) = some other)
    (items : List α) (other : String) :
    other ∈ (items.foldl step collector).names ↔ other ∈ collector.names ∨ ∃ item ∈ items, nameOf? (raw item) = some other := by
  induction items generalizing collector with
  | nil => simp
  | cons item rest ih => simp only [List.foldl_cons, ih, enters, List.mem_cons, exists_eq_or_imp, or_assoc]

theorem mem_register_all (found : List (List Char)) (other : String) :
    other ∈ (collector.registerAll found).names ↔ other ∈ collector.names ∨ ∃ raw ∈ found, nameOf? raw = some other :=
  mem_fold collector register id mem_register found other

theorem accumulate_name (entry : Entry) : (accumulate entry).name = entry.name := rfl

theorem mem_accumulate_all (found : List (List Char)) (other : String) :
    other ∈ (collector.accumulateAll found).names ↔ other ∈ collector.names ∨ ∃ raw ∈ found, nameOf? raw = some other := by
  rw [accumulateAll]
  exact mem_fold collector _ (fun raw => raw) (fun c name => mem_note c name accumulate accumulate_name) found other

theorem mem_add_conditions (conditions : List Condition) (other : String) :
    other ∈ (collector.addConditions conditions).names ↔
      other ∈ collector.names ∨ ∃ condition ∈ conditions, nameOf? condition.name.toList = some other := by
  rw [addConditions]
  refine mem_fold collector _ (fun condition : Condition => condition.name.toList) ?_ conditions other
  intro c condition name
  exact mem_register c condition.name.toList name

theorem mem_add_effects (effects : List Effect) (other : String) :
    other ∈ (collector.addEffects effects).names ↔
      other ∈ collector.names ∨ ∃ effect ∈ effects, nameOf? effect.name.toList = some other := by
  rw [addEffects]
  refine mem_fold collector addEffect (fun effect => effect.name.toList) (fun c effect other => ?_) effects other
  rw [addEffect]
  split
  · exact mem_note c effect.name.toList accumulate accumulate_name other
  · exact mem_register c effect.name.toList other

theorem mem_note_first (scanner : Scanner (List Char)) (text : List Char) (change : Entry → Entry)
    (keeps : ∀ entry, (change entry).name = entry.name) (other : String) :
    other ∈ (collector.noteFirst scanner text change).names ↔
      other ∈ collector.names ∨ ∃ raw ∈ ((scanner.first? text).map (·.value)).toList, nameOf? raw = some other := by
  rw [noteFirst]
  cases scanner.first? text with
  | none => simp
  | some found => simp [mem_note _ _ change keeps]

theorem mem_note_limit (scanner : Scanner (List Char × List Char)) (text : List Char) (change : String → Entry → Entry)
    (keeps : ∀ value entry, (change value entry).name = entry.name) (other : String) :
    other ∈ (collector.noteLimit scanner text change).names ↔
      other ∈ collector.names ∨ ∃ raw ∈ ((scanner.first? text).map (·.value.1)).toList, nameOf? raw = some other := by
  rw [noteLimit]
  cases scanner.first? text with
  | none => simp
  | some found => simp [mem_note _ _ _ (keeps _)]

-- The raw names of which a text makes entries.
def mentioned (text : List Char) : List (List Char) :=
  ((barName.first? text).map (·.value)).toList ++ ((maxLimit.first? text).map (·.value.1)).toList ++
  ((minLimit.first? text).map (·.value.1)).toList ++ (increment.all text).map (·.value) ++ (assignment.all text).map (·.value) ++
  (accumulated.all text).map (·.value) ++ guillemetNames text ++ randomNames text ++ braceNames text

theorem mem_add_text (text : List Char) (other : String) :
    other ∈ (collector.addText text).names ↔
      other ∈ collector.names ∨ ∃ raw ∈ mentioned text, nameOf? raw = some other := by
  have bar : ∀ entry : Entry, ({ entry with isOnBar := true } : Entry).name = entry.name := fun _ => rfl
  have upper : ∀ (value : String) (entry : Entry), ({ entry with maxValue := some value } : Entry).name = entry.name :=
    fun _ _ => rfl
  have lower : ∀ (value : String) (entry : Entry), ({ entry with minValue := some value } : Entry).name = entry.name :=
    fun _ _ => rfl
  simp only [addText, mem_register_all, mem_accumulate_all, mem_note_limit _ _ _ _ upper, mem_note_limit _ _ _ _ lower,
    mem_note_first _ _ _ _ bar, mentioned, List.mem_append, or_and_right, exists_or, or_assoc]

theorem mem_add_required (conditions : List Condition) (effects : List Effect) (other : String) :
    other ∈ ((collector.addConditions conditions).addEffects effects).names ↔ other ∈ collector.names ∨
      ∃ name ∈ conditions.map Condition.name ++ effects.map Effect.name, nameOf? name.toList = some other := by
  simp only [mem_add_effects, mem_add_conditions, or_assoc, List.mem_append, List.mem_map, or_and_right, exists_or,
    exists_exists_and_eq_and]

theorem mem_add_node (node : Node) (next : Collector) (added : collector.addNode node = .ok next) (other : String) :
    other ∈ next.names ↔ other ∈ collector.names ∨ ∃ name ∈ node.body.required, nameOf? name.toList = some other := by
  cases kind : node.body with
  | video body | choice body | card body =>
      simp only [addNode, kind, Except.ok.injEq] at added
      rw [← added]
      exact mem_add_required collector _ _ other
  | _ =>
      simp only [addNode, kind, attempt_bind_ok, attempt_pure_ok] at added
      obtain ⟨_, _, _, _, rfl⟩ := added
      simp [Body.required, Body.conditions, Body.effects]

-- The names that a node and its text bring in.
theorem mem_add (text : List Char) (node : Node) (next : Collector) (added : collector.add text (some node) = .ok next)
    (other : String) :
    other ∈ next.names ↔ other ∈ collector.names ∨
      (∃ name ∈ node.body.required, nameOf? name.toList = some other) ∨ ∃ raw ∈ mentioned text, nameOf? raw = some other := by
  obtain ⟨middle, first, rfl⟩ := (attempt_map_ok _ _ _).mp added
  rw [mem_add_text, mem_add_node collector node middle first, or_assoc]

theorem variables_names (order : Nat) (entries : List Entry) :
    (variablesFrom order entries).map Variable.name = entries.map Entry.name := by
  induction entries generalizing order with
  | nil => rfl
  | cons entry rest ih => rw [variablesFrom, List.map_cons, List.map_cons, ih]; rfl

end Collector

end TaggedStory
