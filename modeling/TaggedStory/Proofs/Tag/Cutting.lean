import TaggedStory.Proofs.Tag.Cleaning
import TaggedStory.Proofs.Tag.Effects
import TaggedStory.Proofs.Tag.Keeping
import TaggedStory.Proofs.Text.Places
/-!
A run of rules that cut tags out of a text: what a rule sees is the text before the run, thinned, and
what every rule upholds of the record holds at the end.
-/
set_option autoImplicit false

namespace TaggedStory.Tag

open Text Scanner

theorem effect_view_thinned (text : List Char) : Thinned (isOpening · = true) text (effectView text) := by
  have tags := erase_thinned (isOpening · = true) guillemets '《' opens_guillemets (by decide) [] text
  have colors := erase_thinned (isOpening · = true) (openMark "color") '<' (opens_open_mark "color") (by decide) []
  have plains := erase_thinned (isOpening · = true) plainMark '<' opens_plain_mark (by decide) []
  have sizes := erase_thinned (isOpening · = true) (openMark "size") '<' (opens_open_mark "size") (by decide) []
  exact .chain _ _ _ tags (.chain _ _ _ (colors _) (.chain _ _ _ (plains _) (sizes _)))

-- The effect view of a text is the text without some tags, so that it has none either.
theorem Clean.no_effect_seen {text : List Char} (clear : Clean text) : angle.all (effectView text) = [] := by
  refine angle.all_none _ (spanless_misses '<' '>' angle _ (span_encloses '<' '>') (fun _ filled => filled) _ ?_)
  exact spanless_thinned '<' '>' (by decide) _ _ (effect_view_thinned text) (clear.spanless ('<', '>') (by decide))

theorem Rule.no_effects {R : Type} {text : List Char} (clear : Clean text) (add : Effect → R → R) (record : R) :
    (effectRule add).apply (text, record) = .ok (text, record) := by
  simp only [Rule.apply, effectRule, clear.no_effect_seen]
  rfl

end TaggedStory.Tag

namespace TaggedStory.Tag.Rule

open Text Scanner

variable {R α β : Type}

-- A tag that the rule cuts out begins with an opening sign.
def Cuts (rule : Rule R) : Prop :=
  rule.consumes = true → ∀ text, ∀ move ∈ rule.moves text, ∀ c ∈ move.token.head?, isOpening c = true

section Cuts

variable {name : String} {s : Scanner α} {act : R → α → Attempt (Option R)} {sign : Char}

theorem cuts_first (opens : Opens s sign) (opening : isOpening sign = true) : Cuts (first name s act) := by
  intro _ text move member c head
  obtain ⟨found, present, rfl⟩ := Option.map_eq_some_iff.mp (Option.mem_toList.mp member)
  rwa [stands_opened s sign opens text found (first_stands s text found present) c head]

theorem cuts_every (opens : Opens s sign) (opening : isOpening sign = true) : Cuts (every name s act) := by
  intro _ text move member c head
  obtain ⟨found, present, rfl⟩ := List.mem_map.mp member
  rwa [stands_opened s sign opens text found (all_stands s text found present) c head]

theorem cuts_literal {word : String} {change : R → R} (first : word.toList.head? = some '[') : Cuts (literal name word change) :=
  cuts_first (opens_word word '[' first) (by decide)

theorem cuts_keeping {rule : Rule R} : Cuts rule.keeping :=
  fun consumes => by cases consumes

theorem cuts_conditions {add : Condition → R → R} : Cuts (conditionRule add) :=
  cuts_every (opens_span '《' '》') (by decide)

theorem cuts_effects {add : Effect → R → R} : Cuts (effectRule add) := by
  intro _ text move member c head
  obtain ⟨found, present, rfl⟩ := List.mem_map.mp member
  have opened := stands_opened angle '<' (opens_span '<' '>') _ found (all_stands _ _ found present) c head
  rw [opened]
  decide

end Cuts

theorem take_thinned (token text : List Char) (opened : ∀ c ∈ token.head?, isOpening c = true) :
    Thinned (isOpening · = true) text (take token text) :=
  .chain _ _ _ (remove_first_thinned token text opened) (.part _ _ (trim_inside _))

-- Whatever the rules before have left of the text, the rule upholds it.
def Upholds (raw : List Char) (holds : R → Prop) (rule : Rule R) : Prop :=
  ∀ text, Thinned (isOpening · = true) raw text → ∀ move ∈ rule.moves text, ∀ record changed,
    holds record → move.act record = .ok (some changed) → holds changed

section Upholds

variable {raw : List Char} {holds : R → Prop} {name : String} {s : Scanner α} {act : R → α → Attempt (Option R)}

theorem upholds_first (acts : ∀ text, Thinned (isOpening · = true) raw text → ∀ found, s.Stands text found →
    ∀ record changed, holds record → act record found.value = .ok (some changed) → holds changed) :
    Upholds raw holds (first name s act) := by
  intro text thinned move member
  obtain ⟨found, present, rfl⟩ := Option.map_eq_some_iff.mp (Option.mem_toList.mp member)
  exact acts text thinned found (first_stands s text found present)

theorem upholds_every (acts : ∀ text, Thinned (isOpening · = true) raw text → ∀ found, s.Stands text found →
    ∀ record changed, holds record → act record found.value = .ok (some changed) → holds changed) :
    Upholds raw holds (every name s act) := by
  intro text thinned move member
  obtain ⟨found, present, rfl⟩ := List.mem_map.mp member
  exact acts text thinned found (all_stands s text found present)

theorem upholds_set {change : α → R → R} (changes : ∀ text, Thinned (isOpening · = true) raw text → ∀ found,
    s.Stands text found → ∀ record, holds record → holds (change found.value record)) :
    Upholds raw holds (set name s change) := by
  refine upholds_first fun text thinned found stands record changed held accepted => ?_
  simp only [Except.ok.injEq, Option.some.injEq] at accepted
  exact accepted ▸ changes text thinned found stands record held

theorem upholds_literal {word : String} {change : R → R} (changes : ∀ record, holds record → holds (change record)) :
    Upholds raw holds (literal name word change) :=
  upholds_set fun _ _ _ _ => changes

theorem upholds_drop : Upholds raw holds (drop name s) :=
  upholds_set fun _ _ _ _ _ held => held

-- A rule that leaves alone what the statement is about.
theorem upholds_kept (view : R → β) {rule : Rule R} (keeps : Keeps view rule) (about : β → Prop) :
    Upholds raw (fun record => about (view record)) rule := by
  intro text _ move member record changed held accepted
  exact keeps text move member record changed accepted ▸ held

end Upholds

theorem apply_upholds (raw : List Char) (holds : R → Prop) (rule : Rule R) (cuts : rule.Cuts)
    (upholds : Upholds raw holds rule) (state result : List Char × R)
    (start : Thinned (isOpening · = true) raw state.1 ∧ holds state.2) (done : rule.apply state = .ok result) :
    Thinned (isOpening · = true) raw result.1 ∧ holds result.2 := by
  refine attempt_fold_upholds (step rule.consumes) (fun state => Thinned (isOpening · = true) raw state.1 ∧ holds state.2)
    (rule.moves state.1) (fun now held move member next moved => ?_) state result start done
  rw [step, attempt_map_ok] at moved
  obtain ⟨outcome, acted, rfl⟩ := moved
  cases outcome with
  | none => exact held
  | some changed =>
      refine ⟨?_, upholds state.1 start.1 move member now.2 changed held.2 acted⟩
      cases consumes : rule.consumes with
      | false => exact held.1
      | true => exact .chain _ _ _ held.1 (take_thinned move.token now.1 (cuts consumes state.1 move member))

theorem apply_all_upholds (raw : List Char) (holds : R → Prop) (rules : List (Rule R)) (cuts : ∀ rule ∈ rules, rule.Cuts)
    (upholds : ∀ rule ∈ rules, Upholds raw holds rule) (record : R) (result : List Char × R) (start : holds record)
    (done : applyAll rules (raw, record) = .ok result) : Thinned (isOpening · = true) raw result.1 ∧ holds result.2 :=
  attempt_fold_upholds (fun state (rule : Rule R) => rule.apply state)
    (fun state => Thinned (isOpening · = true) raw state.1 ∧ holds state.2) rules
    (fun now held rule member next first =>
      apply_upholds raw holds rule (cuts rule member) (upholds rule member) now next held first)
    (raw, record) result ⟨thinned_same raw, start⟩ done

-- Where the rule stops, it stops with such a fault.
def Faults (known : Fault → Prop) (rule : Rule R) : Prop :=
  ∀ text, ∀ move ∈ rule.moves text, ∀ record fault, move.act record = .error fault → known fault

section Faults

variable {known : Fault → Prop} {name : String} {s : Scanner α}

theorem faults_first {act : R → α → Attempt (Option R)}
    (acts : ∀ text found, s.Stands text found → ∀ record fault, act record found.value = .error fault → known fault) :
    Faults known (first name s act) := by
  intro text move member
  obtain ⟨found, present, rfl⟩ := Option.map_eq_some_iff.mp (Option.mem_toList.mp member)
  exact acts text found (first_stands s text found present)

theorem faults_set {change : α → R → R} : Faults known (set name s change) :=
  faults_first fun _ _ _ _ _ stopped => by cases stopped

theorem faults_effects {add : Effect → R → R} : Faults known (effectRule add) := by
  intro text move member record fault stopped
  obtain ⟨found, _, rfl⟩ := List.mem_map.mp member
  cases stopped

end Faults

theorem apply_all_faults (known : Fault → Prop) (rules : List (Rule R)) (faults : ∀ rule ∈ rules, Faults known rule)
    (state : List Char × R) (fault : Fault) (stopped : applyAll rules state = .error fault) : known fault := by
  obtain ⟨now, rule, member, refused⟩ := attempt_fold_stops _ rules state fault stopped
  obtain ⟨later, move, present, failed⟩ := attempt_fold_stops _ _ _ fault refused
  exact faults rule member now.1 move present later.2 fault ((attempt_map_stops _ _ _).mp failed)

end TaggedStory.Tag.Rule
