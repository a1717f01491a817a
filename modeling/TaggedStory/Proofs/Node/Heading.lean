import TaggedStory.Node.Text
import TaggedStory.Proofs.Tag.Keeping
/-!
A text decides the name and the title of its node. The rest of the header stands before the text is read.
-/
set_option autoImplicit false

namespace TaggedStory

open Tag Mark Decimal

-- A header without what a text decides.
def Header.bare (header : Header) : Header := named "" "" header

namespace Mark

variable {B : Type}

def heading (node : NodeOf B) : Header := node.header.bare

theorem on_body_keeps {α : Type} {name : String} {scanner : Text.Scanner α} {change : α → B → B} :
    Rule.Keeps heading (onBody name scanner change) :=
  Rule.keeps_set fun _ _ => rfl

theorem flag_body_keeps {name word : String} {change : B → B} :
    Rule.Keeps heading (flagBody name word change) :=
  Rule.keeps_literal fun _ => rfl

theorem mapped_keeps {α : Type} (attempt : Attempt α) (change : α → B → B) (node changed : NodeOf B)
    (accepted : (attempt.map fun value => some (node.updateBody (change value))) = .ok (some changed)) :
    heading changed = heading node := by
  obtain ⟨value, _, same⟩ := (attempt_map_ok _ _ _).mp accepted
  rw [← Option.some.inj same]
  rfl

theorem offer_tier_keeps {update : (Offer → Offer) → B → B} : Rule.Keeps heading (offerTier update) :=
  Rule.keeps_first fun node value changed accepted =>
    mapped_keeps (wholeFrom value) _ node changed accepted

end Mark

namespace Video

theorem set_random_time_shape (node : NodeOf Video) (bounds : List Char × List Char) (changed : NodeOf Video)
    (accepted : setRandomTime node bounds = .ok (some changed)) : ∃ low high, changed = node.updateBody fun video =>
      { video with hasRandomTime := true, randomTimeMin := low, randomTimeMax := high } := by
  rw [setRandomTime, attempt_bind_ok] at accepted
  obtain ⟨low, _, accepted⟩ := accepted
  rw [attempt_bind_ok] at accepted
  obtain ⟨high, _, accepted⟩ := accepted
  rw [attempt_pure_ok, Option.some.injEq] at accepted
  exact ⟨low, high, accepted.symm⟩

theorem set_random_shape (node : NodeOf Video) (expression : List Char) (changed : NodeOf Video)
    (accepted : setRandom node expression = some changed) : changed = node.updateBody fun video =>
      { video with isRandom := true, probabilityExpression := trimmedText expression } := by
  by_cases random : node.body.isRandom = true
  · simp [setRandom, random] at accepted
  · rw [setRandom, if_neg random, Option.some.injEq] at accepted
    exact accepted.symm

theorem add_rate_shape (node : NodeOf Video) (change : Change) (changed : NodeOf Video)
    (accepted : addRate node change = .ok (some changed)) : ∃ perSecond, changed = node.updateBody fun video =>
      { video with rates := video.rates ++ [⟨trimmedText change.name, perSecond⟩] } := by
  rw [addRate, attempt_bind_ok] at accepted
  obtain ⟨amount, _, accepted⟩ := accepted
  rw [attempt_pure_ok, Option.some.injEq] at accepted
  exact ⟨_, accepted.symm⟩

section Random

variable {β : Type} {view : NodeOf Video → β}

theorem random_time_keeps (ignores : ∀ node low high, view (NodeOf.updateBody (fun video =>
      { video with hasRandomTime := true, randomTimeMin := low, randomTimeMax := high }) node) = view node) :
    (Rule.first "random_time" randomTime setRandomTime).Keeps view := by
  refine Rule.keeps_first fun node bounds changed accepted => ?_
  obtain ⟨low, high, rfl⟩ := set_random_time_shape node bounds changed accepted
  exact ignores node low high

variable (ignores : ∀ node expression, view (NodeOf.updateBody (fun video =>
  { video with isRandom := true, probabilityExpression := expression }) node) = view node)

include ignores

theorem random_bracket_keeps :
    (Rule.first "random_bracket" (valued "[随机") fun node body => .ok (setRandom node body)).Keeps view := by
  refine Rule.keeps_first fun node body changed accepted => ?_
  rw [set_random_shape node body changed (Except.ok.inj accepted)]
  exact ignores node _

theorem random_probability_keeps : (Rule.every "random_probability" guillemet fun node content =>
    .ok (if isRandomExpression content then setRandom node content else none)).Keeps view := by
  refine Rule.keeps_every fun node content changed accepted => ?_
  by_cases expression : isRandomExpression content = true
  · rw [set_random_shape node content changed (by simpa [expression] using accepted)]
    exact ignores node _
  · simp [expression] at accepted

end Random

theorem rules_keep : ∀ rule ∈ rules, rule.Keeps heading := by
  simp only [rules, List.forall_mem_cons]
  refine ⟨Rule.keeps_drop, Rule.keeps_literal fun _ => rfl, Rule.keeps_set fun _ _ => rfl,
    Rule.keeps_literal fun _ => rfl, flag_body_keeps, random_time_keeps fun _ _ _ => rfl,
    on_body_keeps, on_body_keeps, flag_body_keeps, Rule.keeps_set_every fun _ _ => rfl,
    on_body_keeps, Rule.keeps_keeping flag_body_keeps, flag_body_keeps, on_body_keeps, flag_body_keeps,
    random_bracket_keeps fun _ _ => rfl, random_probability_keeps fun _ _ => rfl, on_body_keeps, on_body_keeps,
    on_body_keeps, on_body_keeps, Rule.keeps_set_every fun _ _ => rfl,
    Rule.keeps_every fun node change changed accepted => ?rate, Rule.keeps_conditions fun _ _ => rfl,
    Rule.keeps_effects fun _ _ => rfl, List.forall_mem_nil _⟩
  case rate =>
    obtain ⟨perSecond, rfl⟩ := add_rate_shape node change changed accepted
    rfl

theorem finish_keeps (remainder : List Char) (node : NodeOf Video) :
    heading (finish remainder node) = heading node := by
  simp only [finish, heading, NodeOf.mapHeader, settleName]
  split <;> rfl

end Video

namespace Choice

theorem once_keeps {α : Type} {name : String} {scanner : Text.Scanner α} {change : Choice → α → Attempt Choice} :
    (once name scanner change).Keeps heading := by
  refine Rule.keeps_first fun node value changed accepted => ?_
  by_cases taken : node.body.isProbability = true
  · simp [taken] at accepted
  · rw [if_neg taken, attempt_map_ok] at accepted
    obtain ⟨choice, _, same⟩ := accepted
    rw [← Option.some.inj same]
    rfl

theorem rules_keep : ∀ rule ∈ rules, rule.Keeps heading := by
  simp only [rules, List.forall_mem_cons]
  exact ⟨on_body_keeps, offer_tier_keeps, on_body_keeps, flag_body_keeps, Rule.keeps_drop,
    Rule.keeps_drop, on_body_keeps, Rule.keeps_set_every fun _ _ => rfl, flag_body_keeps,
    once_keeps, once_keeps, once_keeps, Rule.keeps_conditions fun _ _ => rfl,
    Rule.keeps_effects fun _ _ => rfl, Rule.keeps_keeping on_body_keeps, List.forall_mem_nil _⟩

end Choice

namespace Card

theorem rules_keep : ∀ rule ∈ rules, rule.Keeps heading := by
  simp only [rules, List.forall_mem_cons]
  exact ⟨on_body_keeps, offer_tier_keeps, on_body_keeps, flag_body_keeps, Rule.keeps_drop,
    on_body_keeps, flag_body_keeps, flag_body_keeps, Rule.keeps_conditions fun _ _ => rfl,
    Rule.keeps_effects fun _ _ => rfl, List.forall_mem_nil _⟩

end Card

namespace Bgm

theorem rules_keep : ∀ rule ∈ rules, rule.Keeps heading := by
  simp only [rules, List.forall_mem_cons]
  exact ⟨Rule.keeps_drop, Rule.keeps_drop, Rule.keeps_drop, Rule.keeps_first fun node amount =>
    mapped_keeps (numberFrom amount fullVolume) _ node, List.forall_mem_nil _⟩

end Bgm

namespace Jump

theorem rules_keep : ∀ rule ∈ rules, rule.Keeps heading := by
  simp only [rules, List.forall_mem_cons]
  exact ⟨Rule.keeps_drop, on_body_keeps, flag_body_keeps, flag_body_keeps,
    Rule.keeps_effects fun _ _ => rfl, List.forall_mem_nil _⟩

theorem finish_keeps (remainder : List Char) (node : NodeOf Jump) :
    heading (finish remainder node) = heading node := by
  simp only [finish]
  split <;> rfl

end Jump

namespace Task

theorem rules_keep : ∀ rule ∈ rules, rule.Keeps heading := by
  simp only [rules, List.forall_mem_singleton]
  exact Rule.keeps_first fun node count => mapped_keeps (wholeFrom count) _ node

end Task

namespace Tip

theorem rules_keep : ∀ rule ∈ rules, rule.Keeps heading := by
  simp only [rules, List.forall_mem_cons]
  exact ⟨on_body_keeps, on_body_keeps, flag_body_keeps, List.forall_mem_nil _⟩

end Tip

namespace Node

theorem parse_with_keeps {B : Type} (rules : List (Rule (NodeOf B))) (finish : List Char → NodeOf B → NodeOf B)
    (wrap : B → Body) (start : NodeOf B) (text : List Char) (parsed : Parsed)
    (rulesKeep : ∀ rule ∈ rules, rule.Keeps heading)
    (finishKeeps : ∀ remainder node, heading (finish remainder node) = heading node)
    (done : parseWith rules finish wrap start text = .ok parsed) : parsed.node.header.bare = start.header.bare := by
  obtain ⟨state, applied, rfl⟩ := (attempt_map_ok _ _ _).mp done
  exact (finishKeeps state.1 state.2).trans (Rule.apply_all_keeps rules rulesKeep _ _ applied)

theorem parse_as_keeps (kind : Kind) (text : String) (header : Header) (parsed : Parsed)
    (done : parseAs kind text header = .ok parsed) : parsed.node.header.bare = header.bare := by
  cases kind with
  | video => exact parse_with_keeps Video.rules Video.finish _ _ _ parsed Video.rules_keep Video.finish_keeps done
  | choice => exact parse_with_keeps Choice.rules Choice.finish _ _ _ parsed Choice.rules_keep (fun _ _ => rfl) done
  | card => exact parse_with_keeps Card.rules Card.finish _ _ _ parsed Card.rules_keep (fun _ _ => rfl) done
  | bgm => exact parse_with_keeps Bgm.rules Bgm.finish _ _ _ parsed Bgm.rules_keep (fun _ _ => rfl) done
  | jump => exact parse_with_keeps Jump.rules Jump.finish _ _ _ parsed Jump.rules_keep Jump.finish_keeps done
  | task => exact parse_with_keeps Task.rules Task.finish _ _ _ parsed Task.rules_keep (fun _ _ => rfl) done
  | tip => exact parse_with_keeps Tip.rules (fun _ => Tip.finish) _ _ _ parsed Tip.rules_keep (fun _ _ => rfl) done

theorem of_image_keeps (path : String) (header : Header) : (ofImage path header).header.bare = header.bare :=
  Video.finish_keeps _ _

end Node

end TaggedStory
