import TaggedStory.Proofs.Record.Restoring
import TaggedStory.Story.NodeRecord
/-!
The records inside a node are read back as they were written: conditions, effects, rates, overrides and finite
positions.
-/
set_option autoImplicit false

namespace TaggedStory

open Decimal

namespace Position

def IsFinite (position : Position) : Prop :=
  position.x.isFinite = true ∧ position.y.isFinite = true

theorem coordinate_restores (value : Double) (finite : value.isFinite = true) : coordinateCodec.Restores value := by
  rw [Codec.Restores]
  change Except.ok (finiteOrZero value) = _
  rw [finiteOrZero, if_pos finite]

theorem restores (position : Position) (finite : position.IsFinite) : codec.Restores position :=
  Schema.closed_restores _ _ (by decide) position
    (.of (coordinate_restores _ finite.1) <| .of (coordinate_restores _ finite.2) <| .nil _)

end Position

namespace Comparison

theorem restores (comparison : Comparison) : Condition.comparisonCodec.Restores comparison := by
  cases comparison <;> rfl

end Comparison

namespace Condition

theorem fields_restore (condition : Condition) : Restores condition schema.fields schema.initial condition :=
  .of rfl <| .of (Comparison.restores _) <| .of rfl <| .nil _

theorem restores (condition : Condition) : codec.Restores condition :=
  Schema.closed_restores _ _ (by decide) condition (fields_restore condition)

end Condition

namespace Effect

theorem operation_restores (operation : Operation) : operationCodec.Restores operation := by
  cases operation <;> rfl

theorem style_restores (style : Style) : (Record.member Style.ofWord? Style.word).Restores style := by
  cases style <;> rfl

theorem fields_restore (effect : Effect) : Restores effect schema.fields schema.initial effect :=
  .of rfl <| .of (operation_restores _) <| .of rfl <| .of (style_restores _) <| .nil _

theorem restores (effect : Effect) : schema.codec.Restores effect :=
  Schema.closed_restores _ _ (by decide) effect (fields_restore effect)

end Effect

theorem Rate.restores (rate : Rate) : Rate.schema.codec.Restores rate :=
  Schema.closed_restores _ _ (by decide) rate (.required rfl <| .of rfl <| .nil _)

theorem Override.restores (override : Override) : Override.schema.codec.Restores override :=
  Schema.closed_restores _ _ (by decide) override (.required rfl <| .of rfl <| .nil _)

end TaggedStory
