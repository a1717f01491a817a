import TaggedStory.Proofs.Json.Fields
import TaggedStory.Record.Scalar
/-!
Reading collects the issues of a record. The only other fault it comes to is a whole number that no decimal can hold,
in the place of a coordinate.
-/
set_option autoImplicit false

namespace TaggedStory

-- The fault that stops an attempt, where it is no issue of a record.
def Attempt.stop? {α : Type} : Attempt α → Option Fault
  | .ok _ => none
  | .error (.invalid _) => none
  | .error fault => some fault

section Attempts

variable {α β : Type}

theorem stop_map (attempt : Attempt α) (change : α → β) : Attempt.stop? (attempt.map change) = attempt.stop? := by
  cases attempt with
  | ok value => rfl
  | error fault => cases fault <;> rfl

theorem stop_within (key : String) (attempt : Attempt α) : (Attempt.within key attempt).stop? = attempt.stop? := by
  cases attempt with
  | ok value => rfl
  | error fault => cases fault <;> rfl

theorem stop_issue (attempt : Attempt α) : attempt.asIssue.stop? = none := by
  cases attempt <;> rfl

theorem stop_gather (attempts : List (Attempt α)) : (gather attempts).stop? = attempts.findSome? Attempt.stop? := by
  induction attempts with
  | nil => rfl
  | cons first rest ih =>
      rw [List.findSome?_cons, ← ih]
      cases first with
      | ok value => cases gathered : gather rest <;> simp only [gather, gathered] <;> rfl
      | error fault =>
          cases gathered : gather rest with
          | ok values =>
              simp only [gather, gathered]
              cases fault <;> rfl
          | error faults =>
              simp only [gather, gathered]
              cases fault <;> cases faults <;> rfl

end Attempts

-- A codec that finds nothing but issues.
class Codec.Calm {α : Type} (codec : Codec α) : Prop where
  calm : ∀ value, (codec.read value).stop? = none

namespace Codec

variable {α : Type}

theorem stop_items (codec : Codec α) [calm : Calm codec] (index : Nat) (items : List Json) :
    (codec.readItems index items).findSome? Attempt.stop? = none := by
  induction items generalizing index with
  | nil => rfl
  | cons item rest ih => rw [readItems, List.findSome?_cons, stop_within, calm.calm, ih]

instance (codec : Codec α) [Calm codec] : Calm codec.list where
  calm value := by
    cases value with
    | arr items => exact (stop_gather _).trans (codec.stop_items 0 items)
    | _ => rfl

end Codec

namespace Record

open Codec (Calm)

theorem stop_attempt {α : Type} (outcome : Except Cause α) : (attempt outcome).stop? = none := by
  cases outcome <;> rfl

instance : Calm text where
  calm value := by cases value <;> rfl

instance : Calm looseText where
  calm _ := rfl

instance : Calm integer where
  calm _ := stop_attempt _

instance : Calm decimal where
  calm _ := stop_attempt _

instance : Calm number where
  calm _ := (stop_map _ _).trans (stop_attempt _)

instance : Calm flag where
  calm _ := stop_attempt _

instance : Calm object where
  calm value := by cases value <;> rfl

instance {α : Type} (ofWord? : String → Option α) (word : α → String) : Calm (member ofWord? word) where
  calm value := by
    cases value with
    | str text =>
        change ((ofWord? text).elim (cause .unknownMember) .ok).stop? = none
        cases ofWord? text <;> rfl
    | _ => rfl

end Record

-- A place in a record, with the values there that stop the reading.
structure Trap where
  key : String
  name : String
  holds : Json → Bool

def Trap.isIn (trap : Trap) (entries : Json.Fields) : Bool :=
  ((Json.lookup? trap.key entries).or (Json.lookup? trap.name entries)).any trap.holds

-- The traps among some fields, in their order.
inductive Traps {R : Type} : List (Field R) → List Trap → Prop
  | nil : Traps [] []
  | cons (field : Field R) {fields : List (Field R)} {traps : List Trap}
      (calm : ∀ value, (field.read value).stop? = none) (rest : Traps fields traps) : Traps (field :: fields) traps
  | trap (field : Field R) (holds : Json → Bool) {fields : List (Field R)} {traps : List Trap}
      (stops : ∀ value, (field.read value).stop? = if holds value then some .tooLarge else none)
      (rest : Traps fields traps) : Traps (field :: fields) (⟨field.key, field.name, holds⟩ :: traps)

namespace Traps

variable {R S α : Type} {fields others : List (Field R)} {traps further : List Trap}

theorem calm {key name : String} {codec : Codec α} [calm : Codec.Calm codec] {get : R → α} {set : α → R → R}
    (rest : Traps fields traps) : Traps (.of key name codec get set :: fields) traps :=
  .cons _ (fun value => (stop_map _ _).trans (calm.calm value)) rest

theorem required {key name : String} {codec : Codec α} [calm : Codec.Calm codec] {get : R → α} {set : α → R → R}
    (rest : Traps fields traps) : Traps (.required key name codec get set :: fields) traps :=
  .cons _ (fun value => (stop_map _ _).trans (calm.calm value)) rest

theorem stopping {key name : String} {codec : Codec α} {get : R → α} {set : α → R → R} {holds : Json → Bool}
    (stops : ∀ value, (codec.read value).stop? = if holds value then some .tooLarge else none)
    (rest : Traps fields traps) : Traps (.of key name codec get set :: fields) (⟨key, name, holds⟩ :: traps) :=
  .trap (.of key name codec get set) holds (fun value => (stop_map _ _).trans (stops value)) rest

theorem append (first : Traps fields traps) (second : Traps others further) : Traps (fields ++ others) (traps ++ further) := by
  induction first with
  | nil => exact second
  | cons field calm _ ih => exact .cons field calm ih
  | trap field holds stops _ ih => exact .trap field holds stops ih

theorem lift (get : S → R) (update : (R → R) → S → S) (inner : Traps fields traps) :
    Traps (fields.map (Field.lift get update)) traps := by
  induction inner with
  | nil => exact .nil
  | cons field calm _ ih => exact .cons _ (fun value => (stop_map _ _).trans (calm value)) ih
  | trap field holds stops _ ih => exact .trap (field.lift get update) holds (fun value => (stop_map _ _).trans (stops value)) ih

end Traps

namespace Field

variable {R : Type} (field : Field R) (entries : Json.Fields)

theorem read_from_stop : (field.readFrom entries).stop? =
    ((Json.lookup? field.key entries).or (Json.lookup? field.name entries)).bind fun value => (field.read value).stop? := by
  rw [readFrom, keyIn?, Json.has, Json.has]
  cases found : Json.lookup? field.key entries with
  | some value =>
      simp only [Option.isSome_some, if_true, stop_within, Json.get, found, Option.getD_some]
      rfl
  | none =>
      cases named : Json.lookup? field.name entries with
      | some value =>
          simp only [Option.isSome_some, Option.isSome_none, Bool.false_eq_true, if_false, if_true, stop_within, Json.get, named,
            Option.getD_some]
          rfl
      | none => cases required : field.isRequired <;> rfl

end Field

theorem Traps.fields_stop {R : Type} {fields : List (Field R)} {traps : List Trap} (trapped : Traps fields traps)
    (entries : Json.Fields) : fields.findSome? (fun field => (field.readFrom entries).stop?) =
      if traps.any fun trap => trap.isIn entries then some .tooLarge else none := by
  induction trapped with
  | nil => rfl
  | cons field calm _ ih =>
      have passed : (field.readFrom entries).stop? = none := by
        rw [Field.read_from_stop]
        cases (Json.lookup? field.key entries).or (Json.lookup? field.name entries) with
        | none => rfl
        | some value => exact calm value
      rw [List.findSome?_cons, passed]
      exact ih
  | trap field holds stops _ ih =>
      rw [List.findSome?_cons, Field.read_from_stop, List.any_cons, Trap.isIn]
      cases (Json.lookup? field.key entries).or (Json.lookup? field.name entries) with
      | none => exact ih
      | some value =>
          rw [Option.bind_some, stops, Option.any_some]
          by_cases held : holds value = true
          · simp [held]
          · simpa [held] using ih

theorem Schema.read_stop {R : Type} (schema : Schema R) {traps : List Trap} (trapped : Traps schema.fields traps)
    (entries : Json.Fields) : (schema.readFields entries).stop? =
      if traps.any fun trap => trap.isIn entries then some .tooLarge else none := by
  rw [readFields, stop_map, stop_gather, List.findSome?_map]
  exact trapped.fields_stop entries

theorem Schema.calm {R : Type} {schema : Schema R} (trapped : Traps schema.fields []) : Codec.Calm schema.codec where
  calm value := by
    cases value with
    | obj entries => exact schema.read_stop trapped entries
    | _ => rfl

end TaggedStory
