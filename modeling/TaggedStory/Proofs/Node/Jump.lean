import TaggedStory.Proofs.Node.Rereading
import TaggedStory.Proofs.Tag.Cutting
import TaggedStory.Proofs.Tag.Scattered
/-!
A jump that was read from any text is written as a text that reads back as the same jump. What is left of
the first text is clean, so that nothing in it joins with the tags that follow it.
-/
set_option autoImplicit false

namespace TaggedStory.Mark

open Text Tag Scanner

theorem flag_body_takes {B : Type} (name mark : String) (flag : Bool) (change : B → B) (nonempty : mark.toList ≠ []) :
    (flagBody name mark change).Takes (word mark) (if flag then mark else "").toList
      (NodeOf.updateBody fun so => if flag then change so else so) := by
  refine ⟨name, _, rfl, ?_⟩
  cases flag with
  | false => exact .inl ⟨rfl, fun _ => rfl⟩
  | true => exact .inr ⟨nonempty, (), reads_word mark, fun _ => rfl⟩

end TaggedStory.Mark

namespace TaggedStory.Jump

open Text Tag Mark Scanner

-- A target as it stands behind the mark, without the blanks around it.
structure Target (point : List Char) : Prop where
  tight : Tight point
  chars : ∀ c ∈ point, isTargetChar c = true
  half : ∀ c ∈ point, isWide c = false

theorem Target.lacks {point : List Char} (target : Target point) (c : Char) (other : isTargetChar c = false) :
    c ∉ point := by
  intro member
  rw [target.chars c member] at other
  cases other

def marked (header : Header) (point : List Char) (dead reset : Bool) : NodeOf Jump :=
  ⟨header, { point := String.ofList point, isDeadpoint := dead, isReset := reset }⟩

def Marked (header : Header) (node : NodeOf Jump) : Prop :=
  ∃ point dead reset, Target point ∧ node = marked header point dead reset

theorem target_succeeds (text rest value : List Char) (done : StateT.run target text = some (value, rest)) :
    text = jumpWord.toList ++ (value ++ rest) ∧ ∀ c ∈ value, isTargetChar c = true := by
  rw [target] at done
  obtain ⟨_, worded, done⟩ := word_then done
  obtain ⟨shape, accepted, _⟩ := many_succeeds _ _ _ _ done
  exact ⟨by rw [worded, shape], accepted⟩

theorem target_trimmed (value : List Char) (accepted : ∀ c ∈ value, isTargetChar c = true)
    (half : ∀ c ∈ value, isWide c = false) : Target (trim value) where
  tight := trim_tightens value
  chars := fun c member => accepted c ((trim_inside value).subset member)
  half := fun c member => half c ((trim_inside value).subset member)

theorem rules_cut : ∀ rule ∈ rules, rule.Cuts := by
  simp only [rules, List.forall_mem_cons]
  exact ⟨Rule.cuts_first opens_ad (by decide),
    Rule.cuts_first (opens_bind _ _ '[' (opens_word jumpWord '[' (by decide))) (by decide),
    Rule.cuts_literal (by decide), Rule.cuts_literal (by decide), Rule.cuts_effects, List.forall_mem_nil _⟩

theorem rules_uphold (raw : List Char) (half : ∀ c ∈ raw, isWide c = false) (header : Header) :
    ∀ rule ∈ rules, rule.Upholds raw (Marked header) := by
  simp only [rules, List.forall_mem_cons]
  refine ⟨Rule.upholds_drop, Rule.upholds_set ?_, Rule.upholds_literal ?_, Rule.upholds_literal ?_, ?_, List.forall_mem_nil _⟩
  · rintro text thinned found ⟨before, rest, shape, here⟩ _ ⟨point, dead, reset, _, rfl⟩
    obtain ⟨after, run⟩ := here_run target rest found here
    obtain ⟨spelled, accepted⟩ := target_succeeds rest after found.value run
    refine ⟨trim found.value, dead, reset, target_trimmed found.value accepted fun c member => half c ?_, rfl⟩
    refine (thinned_sublist raw text thinned).subset ?_
    rw [shape, spelled]
    exact List.mem_append_right _ (List.mem_append_right _ (List.mem_append_left _ member))
  · rintro _ ⟨point, dead, reset, target, rfl⟩
    exact ⟨point, true, reset, target, rfl⟩
  · rintro _ ⟨point, dead, reset, target, rfl⟩
    exact ⟨point, dead, true, target, rfl⟩
  · exact Rule.upholds_kept id (Rule.keeps_effects fun _ _ => rfl) (Marked header)

def deathPiece (dead : Bool) : List Char := (if dead then deathWord else "").toList
def resetPiece (reset : Bool) : List Char := (if reset then resetWord else "").toList

-- What follows the description of a jump.
def pieces (dead reset : Bool) : List (List Char) :=
  [deathPiece dead, resetPiece reset, jumpWord.toList]

def leads : List String := [deathWord, resetWord, jumpWord]

theorem pieces_bracketed (dead reset : Bool) : List.Forall₂ Bracketed leads (pieces dead reset) :=
  .cons (bracketed_flag dead deathWord (by decide) (by decide)) <|
    .cons (bracketed_flag reset resetWord (by decide) (by decide)) <|
      .cons (bracketed_literal jumpWord (by decide) (by decide)) .nil

theorem target_empty : Target [] :=
  ⟨tight_nil, by simp, by simp⟩

theorem rules_return (state : List Char × NodeOf Jump) : ∃ result, Rule.applyAll rules state = .ok result := by
  have faults : ∀ rule ∈ rules, rule.Faults fun _ => False := by
    simp only [rules, List.forall_mem_cons]
    exact ⟨Rule.faults_set, Rule.faults_set, Rule.faults_set, Rule.faults_set, Rule.faults_effects, List.forall_mem_nil _⟩
  cases done : Rule.applyAll rules state with
  | ok result => exact ⟨result, rfl⟩
  | error fault => exact (Rule.apply_all_faults _ rules faults state fault done).elim

theorem target_run (point : List Char) (aimed : Target point) :
    StateT.run target (jumpWord.toList ++ point) = some (point, []) := by
  have all : ∀ c ∈ point, isTargetChar c = true := aimed.chars
  rw [target, StateT.run_bind, reads_word jumpWord point]
  change some (point.takeWhile isTargetChar, point.dropWhile isTargetChar) = _
  rw [List.takeWhile_eq_self_iff.mpr all, List.dropWhile_eq_nil_iff.mpr all]

section Written

variable {told : List Char} (clear : Clean told) (dead reset : Bool)

include clear

theorem jump_word_misses (point : List Char) :
    (word jumpWord).Misses (told ++ (deathPiece dead ++ resetPiece reset)) (jumpWord.toList ++ point) := by
  have flags : List.Forall₂ Bracketed [deathWord, resetWord] [deathPiece dead, resetPiece reset] :=
    .cons (bracketed_flag dead deathWord (by decide) (by decide)) <|
      .cons (bracketed_flag reset resetWord (by decide) (by decide)) .nil
  have skips := row_skips _ _ flags (word jumpWord) (opens_word jumpWord '[' (by decide))
    (begins_refuses _ jumpWord (begins_word jumpWord) _ (by decide))
  rw [show [deathPiece dead, resetPiece reset].flatten = deathPiece dead ++ resetPiece reset by simp] at skips
  refine (misses_append _ _ _ _).mpr ⟨clear.mark_misses jumpWord (by decide) _ ?_, skips _⟩
  cases dead <;> cases reset <;> intro c head <;> exact (Option.some.inj head).symm

theorem flags_tight : Tight (told ++ (deathPiece dead ++ resetPiece reset)) := by
  refine tight_append _ _ clear.tight (tight_append _ _ ?_ ?_)
  · exact (bracketed_tame _ _ (bracketed_flag dead deathWord (by decide) (by decide))).tight
  · exact (bracketed_tame _ _ (bracketed_flag reset resetWord (by decide) (by decide))).tight

-- One flag in front of what is left of the other.
theorem flag_applied (name mark : String) (flag : Bool) (change : Jump → Jump) (bracketed : IsMark mark) (rest : List Char)
    (opened : ∀ c ∈ rest.head?, c = '[') (absent : (word mark).first? rest = none) (tight : Tight (told ++ rest))
    (record : NodeOf Jump) :
    (flagBody name mark change).apply (told ++ ((if flag then mark else "").toList ++ rest), record) =
      .ok (told ++ rest, record.updateBody fun jump => if flag then change jump else jump) := by
  have nonempty : mark.toList ≠ [] := by
    rw [bracketed.1]
    exact List.cons_ne_nil _ _
  refine Rule.takes_among _ _ _ _ (flag_body_takes name mark flag change nonempty) record told rest ?_ absent tight
  refine clear.mark_misses mark bracketed _ ?_
  cases flag with
  | false => exact opened
  | true =>
      intro c head
      rw [if_pos rfl, bracketed.1] at head
      exact (Option.some.inj head).symm

variable {point : List Char} (aimed : Target point)

include aimed

theorem ad_absent : ad.first? (told ++ ((pieces dead reset).flatten ++ point)) = none := by
  refine ad.first_none _ (spanless_misses '《' '》' ad _ ad_filled (fun _ filled => filled) _ ?_)
  refine spanless_append '《' '》' told _ (clear.spanless ('《', '》') (by decide)) ?_
  rw [List.mem_append]
  rintro (member | member)
  · cases dead <;> cases reset <;> revert member <;> decide
  · exact aimed.lacks '》' (by decide) member

-- The target runs to the end of the text.
theorem target_applied (record : NodeOf Jump) :
    (onBody "jump" target fun name (jump : Jump) => { jump with point := trimmedText name }).apply
      (told ++ ((pieces dead reset).flatten ++ point), record) =
      .ok (told ++ (deathPiece dead ++ resetPiece reset),
        record.updateBody fun jump => { jump with point := String.ofList point }) := by
  have shape : told ++ ((pieces dead reset).flatten ++ point) =
      (told ++ (deathPiece dead ++ resetPiece reset)) ++ (jumpWord.toList ++ point) := by simp [pieces]
  have misses := jump_word_misses clear dead reset point
  have found : target.first? (told ++ ((pieces dead reset).flatten ++ point)) = some ⟨jumpWord.toList ++ point, point⟩ := by
    rw [shape, first_misses _ _ _ (misses_begins target jumpWord (begins_bind _ _ _ (begins_word jumpWord)) _ _ misses)]
    have here : here? target (jumpWord.toList ++ point) = some ⟨jumpWord.toList ++ point, point⟩ := by
      rw [here?, target_run point aimed]
      exact congrArg (fun token => some (Found.mk token point)) (List.take_of_length_le (Nat.le_refl _))
    rw [show jumpWord.toList ++ point = '[' :: (jumpWord.toList.tail ++ point) from rfl] at here ⊢
    rw [first?, here]
  have token : (String.ofList (jumpWord.toList ++ point)).toList = jumpWord.toList ++ point := String.toList_ofList
  have removed := remove_first_misses (String.ofList (jumpWord.toList ++ point)) _ _
    (misses_begins _ jumpWord (begins_longer jumpWord _ (by rw [token]; exact List.prefix_append _ _)) _ _ misses)
  have front := remove_first_front (jumpWord.toList ++ point) [] (List.append_ne_nil_of_left_ne_nil (by decide) _)
  rw [List.append_nil] at front
  rw [token, front, List.append_nil] at removed
  refine (Rule.first_found _ _ _ _ record _ _ found rfl).trans ?_
  simp only [Rule.take, shape, removed, trim_tight _ (flags_tight clear dead reset), trimmedText, trim_tight point aimed.tight]

theorem rules_run (header : Header) : Rule.applyAll rules (told ++ ((pieces dead reset).flatten ++ point), ⟨header, {}⟩) =
    .ok (told, marked header point dead reset) := by
  have resetTight : Tight (told ++ resetPiece reset) := flags_tight clear false reset
  have resetOpened : ∀ c ∈ (resetPiece reset).head?, c = '[' := by cases reset <;> decide
  have deathAbsent : (word deathWord).first? (resetPiece reset) = none := by cases reset <;> rfl
  refine (Rule.apply_all_cons _ _ _ _ (Rule.first_absent _ _ _ _ _ (ad_absent clear dead reset aimed))).trans ?_
  refine (Rule.apply_all_cons _ _ _ _ (target_applied clear dead reset aimed _)).trans ?_
  refine (Rule.apply_all_cons _ _ _ _
    (flag_applied clear _ _ dead _ (by decide) _ resetOpened deathAbsent resetTight _)).trans ?_
  have last := flag_applied clear "reset_to_checkpoint" resetWord reset (fun jump => { jump with isReset := true })
    (by decide) [] (by simp) rfl (by simpa using clear.tight)
  simp only [List.append_nil] at last
  refine (Rule.apply_all_cons _ _ _ _ (last _)).trans ((Rule.apply_all_cons _ [] _ _ (Rule.no_effects clear _ _)).trans ?_)
  cases dead <;> cases reset <;> rfl

-- The stronger marks are nowhere in the text.
theorem classified : Kind.ofMarks (told ++ ((pieces dead reset).flatten ++ point)) = .jump := by
  have opened : ∀ c ∈ ((pieces dead reset).flatten ++ point).head?, c = '[' := by
    cases dead <;> cases reset <;> intro c head <;> exact (Option.some.inj head).symm
  have absent : ∀ mark, IsMark mark → (∀ lead ∈ leads, clash mark.toList lead.toList = true) →
      occurs mark.toList (told ++ ((pieces dead reset).flatten ++ point)) = false := by
    intro mark bracketed clashes
    have nonempty : mark.toList ≠ [] := by
      rw [bracketed.1]
      exact List.cons_ne_nil _ _
    have sign : mark.toList.head? = some '[' := by
      rw [bracketed.1]
      rfl
    refine not_occurs mark nonempty _ (first_none _ _ ((misses_append _ _ _ _).mpr ⟨?_, ?_⟩))
    · rw [List.append_nil]
      exact clear.mark_misses mark bracketed _ opened
    · exact row_missed leads _ (pieces_bracketed dead reset) _ (opens_word mark '[' sign)
        (begins_refuses _ mark (begins_word mark) _ clashes) point (aimed.lacks '[' (by decide))
  have present : occurs jumpWord.toList (told ++ ((pieces dead reset).flatten ++ point)) = true := by
    rw [occurs_inside]
    refine ⟨told ++ (deathPiece dead ++ resetPiece reset), point, ?_⟩
    simp [pieces]
  have tip := absent tipWord (by decide) (by decide)
  have card := absent cardWord (by decide) (by decide)
  simp [Kind.ofMarks, Kind.marks, tip, card, present]

end Written

theorem finish_cleaned (remainder : List Char) (node : NodeOf Jump) : finish (clean remainder) node = finish remainder node := by
  rw [finish, clean_clean]
  rfl

theorem finish_point (remainder : List Char) (node : NodeOf Jump) : (finish remainder node).body.point = node.body.point := by
  simp only [finish]
  split <;> rfl

theorem written_half (told point : List Char) (dead reset : Bool) (half : ∀ c ∈ told, isWide c = false) (aimed : Target point) :
    ∀ c ∈ told ++ ((pieces dead reset).flatten ++ point), isWide c = false := by
  intro c member
  simp only [List.mem_append] at member
  rcases member with member | member | member
  · exact half c member
  · exact (row_tame _ _ (pieces_bracketed dead reset)).half c member
  · exact aimed.half c member

theorem tag_text_written (header : Header) (remainder point : List Char) (dead reset : Bool)
    (told : String.ofList (clean remainder) ≠ "" → String.ofList (clean remainder) ≠ plainDescription (String.ofList point)) :
    (tagText (finish remainder (marked header point dead reset)).body).toList =
      clean remainder ++ ((pieces dead reset).flatten ++ point) := by
  by_cases empty : String.ofList (clean remainder) = ""
  · have none : clean remainder = [] := by simpa using empty
    simp [finish, tagText, marked, pieces, deathPiece, resetPiece, none]
  · simp [finish, tagText, marked, pieces, deathPiece, resetPiece, empty, told empty]

end TaggedStory.Jump

namespace TaggedStory

open Text Tag Scanner

theorem jump_text_fixed (text : String) (header : Header) (isStart : Bool) :
    ∃ parsed jump, Node.parseAs .jump (narrowed text) header = .ok parsed ∧
      Node.parse text (some .jump) textEntity header = .ok parsed.node ∧ parsed.node.body = .jump jump ∧
      (¬ (cleaned (String.ofList parsed.remainder) ≠ "" ∧
          cleaned (String.ofList parsed.remainder) = Jump.plainDescription jump.point) →
        ∃ written, parsed.node.text isStart = .ok written ∧
          ∀ kind ∈ [none, some Kind.jump], Node.parse written kind textEntity header = .ok parsed.node) := by
  have half := narrow_is_half text.toList
  obtain ⟨⟨remainder, node⟩, done⟩ := Jump.rules_return (narrow text.toList, ⟨header, {}⟩)
  obtain ⟨thinned, point, dead, reset, aimed, rfl⟩ := Rule.apply_all_upholds _ (Jump.Marked header) Jump.rules Jump.rules_cut
    (Jump.rules_uphold _ half header) ⟨header, {}⟩ _ ⟨[], false, false, Jump.target_empty, rfl⟩ done
  have parsed : Node.parseAs .jump (narrowed text) header = .ok
      { node := (Jump.finish remainder (Jump.marked header point dead reset)).mapBody .jump
        remainder := remainder
        leftover := Tag.count remainder } := by
    simp only [Node.parseAs, Node.parseWith, narrowed, String.toList_ofList, done]
    rfl
  refine ⟨_, (Jump.finish remainder (Jump.marked header point dead reset)).body, parsed,
    congrArg (Except.map Node.Parsed.node) parsed, rfl, fun told => ?_⟩
  have clear := clean_is_clean remainder
  have letters : (Jump.tagText (Jump.finish remainder (Jump.marked header point dead reset)).body).toList =
      clean remainder ++ ((Jump.pieces dead reset).flatten ++ point) := by
    refine Jump.tag_text_written header remainder point dead reset fun filled same => told ⟨?_, ?_⟩
    · rwa [cleaned, String.toList_ofList]
    · rw [cleaned, String.toList_ofList, same, Jump.finish_point]
      rfl
  have told_half : ∀ c ∈ clean remainder, isWide c = false := fun c member =>
    half c ((thinned_sublist _ _ thinned).subset ((clean_sublist remainder).subset member))
  have halfWidth := Jump.written_half _ point dead reset told_half aimed
  obtain ⟨written, wrote⟩ : ∃ written, Jump.tagText (Jump.finish remainder (Jump.marked header point dead reset)).body = written :=
    ⟨_, rfl⟩
  rw [wrote] at letters
  have run := Jump.rules_run clear dead reset aimed header
  rw [← letters] at run
  refine ⟨written, congrArg Except.ok wrote, Node.parse_again .jump written header _ ?_ ?_ ?_⟩
  · rwa [letters]
  · rw [letters, Jump.classified clear dead reset aimed]
  · simp only [Node.parseAs, Node.parseWith, run]
    rw [← Jump.finish_cleaned remainder]
    rfl

end TaggedStory
