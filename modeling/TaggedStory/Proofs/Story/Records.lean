import TaggedStory.Proofs.Story.Parts
/-!
The record of a node is read back as it was written: the fields of the header, those that are shared, the kind and
the rest.
-/
set_option autoImplicit false

namespace TaggedStory

open Decimal NodeFields

def Decimal.Number.IsReal (number : Number) : Prop :=
  ∃ value, number = .real value

theorem Record.number_restores (number : Number) (real : number.IsReal) : Record.number.Restores number := by
  obtain ⟨value, rfl⟩ := real
  rfl

namespace NodeFields

theorem conditions_restored (conditions : List Condition) : conditionList.Restores conditions :=
  Codec.list_restores _ _ fun condition _ => condition.restores

theorem effects_restored (effects : List Effect) : effectList.Restores effects :=
  Codec.list_restores _ _ fun effect _ => effect.restores

theorem rates_restored (rates : List Rate) : rateList.Restores rates :=
  Codec.list_restores _ _ fun rate _ => rate.restores

theorem overrides_restored (overrides : List Override) : overrideList.Restores overrides :=
  Codec.list_restores _ _ fun override _ => override.restores

end NodeFields

-- What reading leaves in the fields that hold more than their codec gives back.
namespace Video

def Validated (video : Video) : Prop :=
  video.randomTimeMin.IsReal ∧ video.randomTimeMax.IsReal ∧ video.showcasePosition.IsFinite ∧ video.showcaseSize.IsFinite

theorem fields_settle (video : Video) (valid : video.Validated) :
    Restores video fields {} { video with subtitles := Json.finiteFields video.subtitles } :=
  .of rfl <| .of rfl <| .of rfl <| .of rfl <| .of rfl <| .of rfl <| .of rfl <| .of rfl <| .of rfl <|
    .settled rfl <| .of rfl <| .of rfl <| .of rfl <| .of (conditions_restored _) <|
    .of (effects_restored _) <| .of (rates_restored _) <| .of rfl <| .of rfl <| .of rfl <| .of rfl <| .of rfl <| .of rfl <|
    .of rfl <| .of rfl <| .of rfl <| .of rfl <| .of rfl <| .of rfl <| .of rfl <| .of rfl <| .of rfl <| .of rfl <| .of rfl <|
    .of rfl <| .of rfl <| .of rfl <| .of (Record.number_restores _ valid.1) <| .of (Record.number_restores _ valid.2.1) <|
    .of rfl <| .of rfl <| .of rfl <| .of rfl <| .of rfl <| .of rfl <| .of rfl <| .of rfl <| .of rfl <|
    .of (Codec.texts_restored _) <| .of rfl <| .of rfl <| .of (Position.restores _ valid.2.2.1) <|
    .of (Position.restores _ valid.2.2.2) <| .of rfl <| .of rfl <| .of rfl <| .of (overrides_restored _) <|
    .of (overrides_restored _) <| .nil _

theorem fields_restore (video : Video) (valid : video.Validated)
    (finite : Json.finiteFields video.subtitles = video.subtitles) : Restores video fields {} video := by
  have settled := fields_settle video valid
  rw [finite] at settled
  exact settled

end Video

theorem Offer.fields_restore (offer : Offer) : Restores offer Offer.fields {} offer :=
  .of (conditions_restored _) <| .of (effects_restored _) <| .of rfl <| .of rfl <| .of rfl <| .of rfl <| .of rfl <|
    .of rfl <| .of rfl <| .of rfl <| .of rfl <| .of rfl <| .of rfl <| .of rfl <| .of rfl <| .of rfl <| .nil _

theorem Choice.fields_restore (choice : Choice) (real : choice.probability.IsReal) :
    Restores choice Choice.fields { offer := choice.offer } choice :=
  .of rfl <| .of rfl <| .of (Record.number_restores _ real) <| .of rfl <| .of rfl <| .of rfl <| .of rfl <| .nil _

theorem Choice.offer_restores (choice : Choice) : Restores choice Choice.offerFields {} { offer := choice.offer } := by
  have isPart : IsPart Choice.offer (fun offer choice => { choice with offer := offer })
      (fun change choice => { choice with offer := change choice.offer }) :=
    ⟨fun _ _ => rfl, fun _ _ => rfl, fun _ _ _ => rfl, fun _ => rfl⟩
  exact .lift isPart choice {} choice.offer.fields_restore

theorem Card.fields_restore (card : Card) : Restores card Card.fields { offer := card.offer } card :=
  .of rfl <| .of rfl <| .of rfl <| .of rfl <| .nil _

theorem Card.offer_restores (card : Card) : Restores card Card.offerFields {} { offer := card.offer } := by
  have isPart : IsPart Card.offer (fun offer card => { card with offer := offer })
      (fun change card => { card with offer := change card.offer }) :=
    ⟨fun _ _ => rfl, fun _ _ => rfl, fun _ _ _ => rfl, fun _ => rfl⟩
  exact .lift isPart card {} card.offer.fields_restore

theorem Bgm.fields_restore (bgm : Bgm) (real : bgm.volume.IsReal) : Restores bgm Bgm.fields {} bgm :=
  .of rfl <| .of (Record.number_restores _ real) <| .of rfl <| .nil _

theorem Jump.fields_restore (jump : Jump) : Restores jump Jump.fields {} jump :=
  .of rfl <| .of rfl <| .of rfl <| .of rfl <| .of rfl <| .of rfl <| .nil _

theorem Task.fields_settle (task : Task) :
    Restores task Task.fields {} { task with tasks := task.tasks.map Json.finiteFields } :=
  .of rfl <| .settled (Codec.list_settles Record.object _ Json.finiteFields _ fun _ _ => rfl) <| .of rfl <| .nil _

theorem Task.fields_restore (task : Task) (finite : ∀ item ∈ task.tasks, Json.finiteFields item = item) :
    Restores task Task.fields {} task := by
  have settled := Task.fields_settle task
  rw [List.map_congr_left finite, List.map_id'] at settled
  exact settled

theorem Tip.fields_restore (tip : Tip) : Restores tip Tip.fields {} tip :=
  .of rfl <| .of rfl <| .of rfl <| .of rfl <| .nil _

theorem Header.fields_restore (header : Header) (placed : header.position.IsFinite) :
    Restores header Header.fields {} { header with extras := [] } :=
  .of rfl <| .of rfl <| .of rfl <| .of (Codec.texts_restored _) <| .of rfl <| .of (Position.restores _ placed) <| .nil _

namespace NodeOf

variable {B : Type} {final : B} (kind : Kind) (initial middle : B) (shared own : List (Field B)) (node : NodeOf B)

theorem header_is_part : IsPart (fun node : NodeOf B => node.header) (fun header node => { node with header := header }) mapHeader :=
  ⟨fun _ _ => rfl, fun _ _ => rfl, fun _ _ _ => rfl, fun _ => rfl⟩

theorem body_is_part : IsPart (fun node : NodeOf B => node.body) (fun body node => { node with body := body }) updateBody :=
  ⟨fun _ _ => rfl, fun _ _ => rfl, fun _ _ _ => rfl, fun _ => rfl⟩

theorem fields_restore (placed : node.header.position.IsFinite) (front : Restores node.body shared initial middle)
    (back : Restores node.body own middle final) :
    Restores node (schemaOf kind initial shared own).fields ⟨{}, initial⟩ ⟨{ node.header with extras := [] }, final⟩ := by
  have header : Restores node headerFields ⟨{}, initial⟩ ⟨{ node.header with extras := [] }, initial⟩ :=
    .lift header_is_part node ⟨{}, initial⟩ (node.header.fields_restore placed)
  have body : ∀ fields (header : Header) (first last : B), Restores node.body fields first last →
      Restores node (bodyFields fields) ⟨header, first⟩ ⟨header, last⟩ := fun fields header first last restores =>
    .lift body_is_part node ⟨header, first⟩ restores
  have fixed : (Kind.field (NodeOf B) kind).read ((Kind.field (NodeOf B) kind).write node) = .ok id := if_pos rfl
  exact (header.append (body shared _ _ _ front)).append (.cons _ id _ _ _ fixed (body own _ _ _ back))

end NodeOf

end TaggedStory
