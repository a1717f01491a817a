import TaggedStory.Proofs.Attempt
import TaggedStory.Proofs.Tag.Figures
/-!
Every text with few enough digits is read as a node, whatever tags it has: a rule can stop only at a
number that is too long, and what rules leave of a text has no digits that it did not have before.
-/
set_option autoImplicit false

namespace TaggedStory.Tag.Rule

open Text Scanner Decimal

variable {R α : Type}

theorem remove_first_sublist (word text : List Char) : (removeFirst word text).Sublist text := by
  induction text with
  | nil => exact List.Sublist.refl _
  | cons c text ih =>
      rw [removeFirst]
      cases dropped : dropWord? word (c :: text) with
      | none => exact ih.cons_cons c
      | some rest =>
          have shape := (drop_word_some _ _ _).mp dropped
          rw [shape]
          exact List.sublist_append_right word rest

theorem take_sublist (token text : List Char) : (take token text).Sublist text :=
  (trim_sublist _).trans (remove_first_sublist token text)

-- The rule answers for every tag that it finds in a legible text.
def Answers (rule : Rule R) : Prop :=
  ∀ text, Legible text → ∀ move ∈ rule.moves text, ∀ record, ∃ outcome, move.act record = .ok outcome

section Answering

variable {name : String} {scanner : Scanner α} {act : R → α → Attempt (Option R)}

theorem answers_first (answers : ∀ text, Legible text → ∀ found, scanner.first? text = some found →
    ∀ record, ∃ outcome, act record found.value = .ok outcome) : Answers (first name scanner act) := by
  intro text legible tried member record
  obtain ⟨found, present, rfl⟩ := Option.map_eq_some_iff.mp (Option.mem_toList.mp member)
  exact answers text legible found present record

theorem answers_every (answers : ∀ text, Legible text → ∀ found ∈ scanner.all text,
    ∀ record, ∃ outcome, act record found.value = .ok outcome) : Answers (every name scanner act) := by
  intro text legible tried member record
  obtain ⟨found, present, rfl⟩ := List.mem_map.mp member
  exact answers text legible found present record

theorem answers_set {change : α → R → R} : Answers (set name scanner change) :=
  answers_first fun _ _ _ _ _ => ⟨_, rfl⟩

theorem answers_set_every {change : α → R → R} : Answers (setEvery name scanner change) :=
  answers_every fun _ _ _ _ _ => ⟨_, rfl⟩

theorem answers_literal {word : String} {change : R → R} : Answers (literal name word change) :=
  answers_set

theorem answers_drop : Answers (drop (R := R) name scanner) :=
  answers_set

theorem answers_keeping {rule : Rule R} (answers : Answers rule) : Answers rule.keeping :=
  answers

theorem answers_conditions {add : Condition → R → R} : Answers (conditionRule add) :=
  answers_every fun _ _ _ _ _ => ⟨_, rfl⟩

theorem answers_effects {add : Effect → R → R} : Answers (effectRule add) := by
  intro text _ tried member record
  obtain ⟨found, _, rfl⟩ := List.mem_map.mp member
  exact ⟨_, rfl⟩

-- A rule that takes a number: the digits of the number are digits of the text.
theorem answers_number {size : α → Nat} (draws : Draws 0 scanner size)
    (answers : ∀ record value, size value ≤ digitLimit → ∃ outcome, act record value = .ok outcome) :
    Answers (first name scanner act) :=
  answers_first fun text legible found present record =>
    answers record found.value (Nat.le_trans (first_draws scanner size draws text found present) legible)

end Answering

theorem steps_answer (consumes : Bool) (moves : List (Move R))
    (answers : ∀ move ∈ moves, ∀ record, ∃ outcome, move.act record = .ok outcome) (state : List Char × R) :
    ∃ result, moves.foldlM (step consumes) state = .ok result ∧ result.1.Sublist state.1 := by
  induction moves generalizing state with
  | nil => exact ⟨state, rfl, List.Sublist.refl _⟩
  | cons move moves ih =>
      obtain ⟨outcome, acted⟩ := answers move List.mem_cons_self state.2
      obtain ⟨next, moved, shorter⟩ : ∃ next, step consumes state move = .ok next ∧ next.1.Sublist state.1 := by
        rw [step, acted]
        cases outcome with
        | none => exact ⟨state, rfl, List.Sublist.refl _⟩
        | some record =>
            refine ⟨_, rfl, ?_⟩
            cases consumes with
            | false => exact List.Sublist.refl _
            | true => exact take_sublist move.token state.1
      obtain ⟨result, run, within⟩ := ih (fun other member => answers other (List.mem_cons_of_mem _ member)) next
      refine ⟨result, ?_, within.trans shorter⟩
      rw [List.foldlM_cons, moved]
      exact run

theorem apply_all_answer (rules : List (Rule R)) (answers : ∀ rule ∈ rules, rule.Answers) (state : List Char × R)
    (legible : Legible state.1) : ∃ result, applyAll rules state = .ok result := by
  induction rules generalizing state with
  | nil => exact ⟨state, rfl⟩
  | cons rule rules ih =>
      obtain ⟨next, applied, within⟩ := steps_answer rule.consumes (rule.moves state.1)
        (answers rule List.mem_cons_self state.1 legible) state
      obtain ⟨result, run⟩ := ih (fun other member => answers other (List.mem_cons_of_mem _ member)) next
        (legible_sublist _ _ within legible)
      refine ⟨result, ?_⟩
      rw [applyAll, List.foldlM_cons, show rule.apply state = .ok next from applied]
      exact run

end TaggedStory.Tag.Rule

namespace TaggedStory

open Text Tag Mark Decimal

theorem mapped_answers {α β : Type} (attempt : Attempt α) (change : α → β) (answers : ∃ value, attempt = .ok value) :
    ∃ outcome, attempt.map change = .ok outcome := by
  obtain ⟨value, rfl⟩ := answers
  exact ⟨_, rfl⟩

theorem Mark.tier_answers {B : Type} {update : (Offer → Offer) → B → B} : (offerTier update).Answers :=
  Rule.answers_number tier_draws fun _ value short => mapped_answers _ _ (whole_from_legible value short)

theorem Video.rules_answer : ∀ rule ∈ Video.rules, rule.Answers := by
  have rate : ∀ node change, figures change.amount ≤ digitLimit → ∃ outcome, addRate node change = .ok outcome := by
    intro node change short
    obtain ⟨amount, read⟩ := number_from_legible change.amount (.whole 0) short
    rw [addRate, read]
    exact ⟨_, rfl⟩
  have time : ∀ node bounds, pairFigures bounds ≤ digitLimit → ∃ outcome, setRandomTime node bounds = .ok outcome := by
    intro node bounds short
    obtain ⟨low, readLow⟩ := number_from_legible bounds.1 (.real .zero) (Nat.le_trans (Nat.le_add_right _ _) short)
    obtain ⟨high, readHigh⟩ := number_from_legible bounds.2 (.real .zero) (Nat.le_trans (Nat.le_add_left _ _) short)
    rw [setRandomTime, readLow, readHigh]
    exact ⟨_, rfl⟩
  simp only [Video.rules, List.forall_mem_cons]
  exact ⟨Rule.answers_drop, Rule.answers_literal, Rule.answers_set, Rule.answers_literal, Rule.answers_literal,
    Rule.answers_number random_time_draws time, Rule.answers_set, Rule.answers_set, Rule.answers_literal,
    Rule.answers_set_every, Rule.answers_set, Rule.answers_keeping Rule.answers_literal, Rule.answers_literal,
    Rule.answers_set, Rule.answers_literal, Rule.answers_first fun _ _ _ _ _ => ⟨_, rfl⟩, Rule.answers_every fun _ _ _ _ _ => ⟨_, rfl⟩,
    Rule.answers_set, Rule.answers_set, Rule.answers_set, Rule.answers_set, Rule.answers_set_every,
    Rule.answers_every fun text legible found present node => rate node found.value
      (Nat.le_trans (Scanner.all_draws _ _ rate_draws text found present) legible),
    Rule.answers_conditions, Rule.answers_effects, List.forall_mem_nil _⟩

theorem Choice.rules_answer : ∀ rule ∈ Choice.rules, rule.Answers := by
  have declines : ∀ {α : Type} (change : Choice → α → Attempt Choice) (value : α),
      (∀ choice, ∃ changed, change choice value = .ok changed) → ∀ node : NodeOf Choice, ∃ outcome,
        (if node.body.isProbability then .ok none
        else (change { node.body with isProbability := true } value).map fun choice =>
          some { node with body := choice } : Attempt (Option (NodeOf Choice))) = .ok outcome := by
    intro α change value answers node
    by_cases taken : node.body.isProbability = true
    · exact ⟨none, if_pos taken⟩
    · rw [if_neg taken]
      exact mapped_answers _ _ (answers _)
  have counted : ∀ choice found, pairFigures found ≤ digitLimit → ∃ changed, setCounted choice found = .ok changed := by
    intro choice found short
    obtain ⟨amount, readAmount⟩ := number_from_legible found.1 (.whole 0) (Nat.le_trans (Nat.le_add_right _ _) short)
    obtain ⟨count, readCount⟩ := whole_from_legible found.2 (Nat.le_trans (Nat.le_add_left _ _) short)
    rw [setCounted, readAmount, readCount]
    exact ⟨_, rfl⟩
  simp only [Choice.rules, List.forall_mem_cons]
  exact ⟨Rule.answers_set, tier_answers, Rule.answers_set, Rule.answers_literal, Rule.answers_drop, Rule.answers_drop,
    Rule.answers_set, Rule.answers_set_every, Rule.answers_literal,
    Rule.answers_number counted_draws fun node found short => declines _ found (fun choice => counted choice found short) node,
    Rule.answers_number plain_draws fun node found short => declines _ found (fun choice =>
      mapped_answers _ _ (number_from_legible found (.whole 0) short)) node,
    Rule.answers_first fun _ _ found _ node => declines (fun choice name =>
      .ok { choice with probabilityExpression := trimmedText name }) found.value (fun _ => ⟨_, rfl⟩) node,
    Rule.answers_conditions, Rule.answers_effects, Rule.answers_keeping Rule.answers_set, List.forall_mem_nil _⟩

theorem Card.rules_answer : ∀ rule ∈ Card.rules, rule.Answers := by
  simp only [Card.rules, List.forall_mem_cons]
  exact ⟨Rule.answers_set, tier_answers, Rule.answers_set, Rule.answers_literal, Rule.answers_drop, Rule.answers_set,
    Rule.answers_literal, Rule.answers_literal, Rule.answers_conditions, Rule.answers_effects, List.forall_mem_nil _⟩

theorem Bgm.rules_answer : ∀ rule ∈ Bgm.rules, rule.Answers := by
  simp only [Bgm.rules, List.forall_mem_cons]
  exact ⟨Rule.answers_drop, Rule.answers_drop, Rule.answers_drop, Rule.answers_number volume_draws fun _ amount short =>
    mapped_answers _ _ (number_from_legible amount fullVolume short), List.forall_mem_nil _⟩

theorem Jump.rules_answer : ∀ rule ∈ Jump.rules, rule.Answers := by
  simp only [Jump.rules, List.forall_mem_cons]
  exact ⟨Rule.answers_drop, Rule.answers_set, Rule.answers_literal, Rule.answers_literal, Rule.answers_effects,
    List.forall_mem_nil _⟩

theorem Task.rules_answer : ∀ rule ∈ Task.rules, rule.Answers := by
  simp only [Task.rules, List.forall_mem_singleton]
  exact Rule.answers_number count_draws fun _ count short => mapped_answers _ _ (whole_from_legible count short)

theorem Tip.rules_answer : ∀ rule ∈ Tip.rules, rule.Answers := by
  simp only [Tip.rules, List.forall_mem_cons]
  exact ⟨Rule.answers_set, Rule.answers_set, Rule.answers_literal, List.forall_mem_nil _⟩

theorem Node.parse_legible (kind : Kind) (text : String) (header : Header) (legible : Legible text.toList) :
    ∃ parsed, Node.parseAs kind text header = .ok parsed := by
  cases kind with
  | video => exact mapped_answers _ _ (Rule.apply_all_answer _ Video.rules_answer _ legible)
  | choice => exact mapped_answers _ _ (Rule.apply_all_answer _ Choice.rules_answer _ legible)
  | card => exact mapped_answers _ _ (Rule.apply_all_answer _ Card.rules_answer _ legible)
  | bgm => exact mapped_answers _ _ (Rule.apply_all_answer _ Bgm.rules_answer _ legible)
  | jump => exact mapped_answers _ _ (Rule.apply_all_answer _ Jump.rules_answer _ legible)
  | task => exact mapped_answers _ _ (Rule.apply_all_answer _ Task.rules_answer _ legible)
  | tip => exact mapped_answers _ _ (Rule.apply_all_answer _ Tip.rules_answer _ legible)

end TaggedStory
