import TaggedStory.Proofs.Record.Stops
import TaggedStory.Story.NodeRecord
/-!
A node is read, or gives issues, unless one of its places has a coordinate beyond every decimal.
-/
set_option autoImplicit false

namespace TaggedStory

open Decimal Codec NodeFields

-- A whole number that no decimal can hold.
def Json.isBeyond : Json → Bool
  | .int value => !(Double.ofInt value).isFinite
  | _ => false

-- A place with such a coordinate.
def Json.isBeyondPlace : Json → Bool
  | .obj entries => (Json.get "x" entries).isBeyond || (Json.get "y" entries).isBeyond
  | _ => false

theorem coordinate_stop (value : Json) : (coordinate? value).stop? = if value.isBeyond then some .tooLarge else none := by
  cases value with
  | int whole =>
      by_cases finite : (Double.ofInt whole).isFinite = true
      · simp [coordinate?, Json.isBeyond, finite, Attempt.stop?]
      · simp [coordinate?, Json.isBeyond, finite, Attempt.stop?]
  | _ => rfl

namespace Position

def traps : List Trap :=
  [⟨"x", "x", Json.isBeyond⟩, ⟨"y", "y", Json.isBeyond⟩]

theorem fields_trap : Traps schema.fields traps :=
  .stopping (fun value => (stop_map _ _).trans (coordinate_stop value)) <|
    .stopping (fun value => (stop_map _ _).trans (coordinate_stop value)) .nil

theorem read_stop (value : Json) : (codec.read value).stop? = if value.isBeyondPlace then some .tooLarge else none := by
  cases value with
  | obj entries =>
      refine (schema.read_stop fields_trap entries).trans ?_
      have found : ∀ key, ((Json.lookup? key entries).or (Json.lookup? key entries)).any Json.isBeyond =
          (Json.get key entries).isBeyond := by
        intro key
        rw [Json.get]
        cases Json.lookup? key entries <;> rfl
      simp only [traps, List.any_cons, List.any_nil, Trap.isIn, found, Bool.or_false, Json.isBeyondPlace]
      rfl
  | _ => rfl

end Position

instance : Calm Condition.comparisonCodec where
  calm _ := stop_issue _

instance : Calm Effect.operationCodec where
  calm _ := stop_issue _

theorem Condition.fields_trap : Traps Condition.schema.fields [] :=
  .calm <| .calm <| .calm .nil

instance : Calm Condition.codec where
  calm value := by
    cases value with
    | obj entries => exact Condition.schema.read_stop Condition.fields_trap _
    | _ => rfl

instance : Calm Effect.schema.codec :=
  Schema.calm (.calm <| .calm <| .calm <| .calm .nil)

instance : Calm Rate.schema.codec :=
  Schema.calm (.required <| .calm .nil)

instance : Calm Override.schema.codec :=
  Schema.calm (.required <| .calm .nil)

instance : Calm textList := inferInstanceAs (Calm Record.text.list)
instance : Calm objectList := inferInstanceAs (Calm Record.object.list)
instance : Calm conditionList := inferInstanceAs (Calm Condition.codec.list)
instance : Calm effectList := inferInstanceAs (Calm Effect.schema.codec.list)
instance : Calm rateList := inferInstanceAs (Calm Rate.schema.codec.list)
instance : Calm overrideList := inferInstanceAs (Calm Override.schema.codec.list)

theorem Header.fields_trap : Traps Header.fields [⟨"position", "position", Json.isBeyondPlace⟩] := by
  repeat refine .calm ?_
  exact .stopping Position.read_stop .nil

def Video.traps : List Trap :=
  [⟨"showcasePosition", "showcase_position", Json.isBeyondPlace⟩, ⟨"showcaseSize", "showcase_size", Json.isBeyondPlace⟩]

theorem Video.fields_trap : Traps Video.fields Video.traps := by
  repeat refine .calm ?_
  refine .stopping Position.read_stop (.stopping Position.read_stop ?_)
  repeat refine .calm ?_
  exact .nil

theorem Offer.fields_trap : Traps Offer.fields [] := by
  repeat refine .calm ?_
  exact .nil

theorem Choice.fields_trap : Traps Choice.fields [] := by
  repeat refine .calm ?_
  exact .nil

theorem Card.fields_trap : Traps Card.fields [] := by
  repeat refine .calm ?_
  exact .nil

theorem Bgm.fields_trap : Traps Bgm.fields [] := by
  repeat refine .calm ?_
  exact .nil

theorem Jump.fields_trap : Traps Jump.fields [] := by
  repeat refine .calm ?_
  exact .nil

theorem Task.fields_trap : Traps Task.fields [] := by
  repeat refine .calm ?_
  exact .nil

theorem Tip.fields_trap : Traps Tip.fields [] := by
  repeat refine .calm ?_
  exact .nil

theorem kind_calm {R : Type} (kind : Kind) (value : Json) : ((Kind.field R kind).read value).stop? = none := by
  cases value with
  | str word =>
      change Attempt.stop? (if word = kind.word then (.ok id : Attempt (R → R)) else .error (.one [] .wrongKind)) = none
      by_cases same : word = kind.word
      · rw [if_pos same]
        rfl
      · rw [if_neg same]
        rfl
  | _ => rfl

theorem NodeOf.fields_trap {B : Type} (kind : Kind) (initial : B) {shared own : List (Field B)} {traps : List Trap}
    (front : Traps shared []) (back : Traps own traps) :
    Traps (schemaOf kind initial shared own).fields (⟨"position", "position", Json.isBeyondPlace⟩ :: traps) :=
  ((Header.fields_trap.lift _ _).append (front.lift _ _)).append (.cons _ (kind_calm kind) (back.lift _ _))

namespace Node

-- The places in a record of a kind.
def trapsOf (kind : Kind) : List Trap :=
  ⟨"position", "position", Json.isBeyondPlace⟩ :: if kind = .video then Video.traps else []

theorem read_stop (kind : Kind) (entries : Json.Fields) : (readAs kind (.obj entries)).stop? =
    if (trapsOf kind).any fun trap => trap.isIn entries then some .tooLarge else none := by
  cases kind with
  | video => exact (stop_map _ _).trans (Video.schema.read_stop (NodeOf.fields_trap _ _ .nil Video.fields_trap) entries)
  | choice =>
      have offer : Traps Choice.offerFields [] := Offer.fields_trap.lift _ _
      exact (stop_map _ _).trans (Choice.schema.read_stop (NodeOf.fields_trap _ _ offer Choice.fields_trap) entries)
  | card =>
      have offer : Traps Card.offerFields [] := Offer.fields_trap.lift _ _
      exact (stop_map _ _).trans (Card.schema.read_stop (NodeOf.fields_trap _ _ offer Card.fields_trap) entries)
  | bgm => exact (stop_map _ _).trans (Bgm.schema.read_stop (NodeOf.fields_trap _ _ .nil Bgm.fields_trap) entries)
  | jump => exact (stop_map _ _).trans (Jump.schema.read_stop (NodeOf.fields_trap _ _ .nil Jump.fields_trap) entries)
  | task => exact (stop_map _ _).trans (Task.schema.read_stop (NodeOf.fields_trap _ _ .nil Task.fields_trap) entries)
  | tip => exact (stop_map _ _).trans (Tip.schema.read_stop (NodeOf.fields_trap _ _ .nil Tip.fields_trap) entries)

end Node

end TaggedStory
