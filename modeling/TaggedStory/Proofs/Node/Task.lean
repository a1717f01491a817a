import TaggedStory.Proofs.Decimal.Reread
import TaggedStory.Proofs.Node.Rereading
import TaggedStory.Proofs.Tag.Cutting
import TaggedStory.Proofs.Tag.Decimals
/-!
A task that was read from any text: its count comes from digits, and its text reads back as the same task.
-/
set_option autoImplicit false

namespace TaggedStory.Mark

open Decimal

theorem number_from_read (text : List Char) (fallback number : Number) (read : numberFrom text fallback = .ok number) :
    readNumber text fallback = .ok number := by
  rw [numberFrom] at read
  split at read
  · cases read
    assumption
  · cases read

-- A number had more digits than a whole number may have.
def LongNumber (fault : Fault) : Prop :=
  ∃ word count, digitLimit < count ∧ fault = .unreadableWhole word (.tooLong count)

theorem number_from_stops (text : List Char) (signs : ∀ c ∈ text, isAmountSign c = true) (fallback : Number) (fault : Fault)
    (stopped : numberFrom text fallback = .error fault) : LongNumber fault := by
  rw [numberFrom] at stopped
  split at stopped
  · cases stopped
  · rename_i cause refused
    cases stopped
    obtain ⟨count, long, rfl⟩ := amount_refused text signs fallback cause refused
    exact ⟨_, count, long, rfl⟩

end TaggedStory.Mark

namespace TaggedStory.Task

open Text Tag Mark Scanner Decimal

def counted (header : Header) (most : Nat) : NodeOf Task :=
  ⟨header, { maxDisplayCount := most }⟩

def Counted (header : Header) (node : NodeOf Task) : Prop :=
  ∃ most : Nat, node = counted header most ∧ (Double.ofDecimal false most 0).isFinite = true

theorem task_count_succeeds (text rest count : List Char) (done : StateT.run taskCount text = some (count, rest)) :
    count ≠ [] ∧ ∀ c ∈ count, isDigit c = true := by
  rw [taskCount] at done
  obtain ⟨_, _, done⟩ := word_then done
  obtain ⟨_, _, _, _, done⟩ := colon_then done
  obtain ⟨found, _, _, filled, digits, done⟩ := many1_then done
  obtain ⟨_, _, done⟩ := char_then done
  obtain ⟨rfl, _⟩ := (pure_succeeds _ _ _ _).mp done
  exact ⟨filled, digits⟩

theorem digits_signs (count : List Char) (digits : ∀ c ∈ count, isDigit c = true) : ∀ c ∈ count, isAmountSign c = true :=
  fun c member => by rw [isAmountSign, digits c member, Bool.true_or]

theorem digits_whole (count : List Char) (filled : count ≠ []) (digits : ∀ c ∈ count, isDigit c = true) :
    isWholeText count = true := by
  rw [isWholeText, amount_unsigned count (digits_signs count digits)]
  simpa [filled] using digits

theorem count_read (count : List Char) (filled : count ≠ []) (digits : ∀ c ∈ count, isDigit c = true) (most : Int)
    (read : wholeFrom count = .ok most) : ∃ n : Nat, most = n ∧ (Double.ofDecimal false n 0).isFinite = true := by
  rw [wholeFrom, attempt_map_ok] at read
  obtain ⟨number, read, rfl⟩ := read
  rcases amount_read count (digits_signs count digits) _ number (number_from_read _ _ _ read) with
    rfl | ⟨n, rfl, finite⟩ | ⟨_, _, _, impossible⟩
  · exact ⟨0, rfl, rfl⟩
  · exact ⟨n, rfl, finite⟩
  · rw [digits_whole count filled digits] at impossible
    cases impossible

theorem rules_cut : ∀ rule ∈ rules, rule.Cuts := by
  simp only [rules, List.forall_mem_singleton]
  exact Rule.cuts_first (opens_bind _ _ '[' (opens_word "[任务节点" '[' (by decide))) (by decide)

theorem rules_uphold (raw : List Char) (header : Header) : ∀ rule ∈ rules, rule.Upholds raw (Counted header) := by
  simp only [rules, List.forall_mem_singleton]
  refine Rule.upholds_first ?_
  rintro text _ found ⟨_, rest, _, here⟩ _ changed ⟨_, rfl, _⟩ accepted
  obtain ⟨after, run⟩ := here_run taskCount rest found here
  obtain ⟨filled, digits⟩ := task_count_succeeds rest after found.value run
  obtain ⟨most, read, same⟩ := (attempt_map_ok _ _ _).mp accepted
  obtain ⟨n, rfl, finite⟩ := count_read found.value filled digits most read
  exact ⟨n, (Option.some.inj same).symm, finite⟩

theorem rules_stop : ∀ rule ∈ rules, rule.Faults LongNumber := by
  simp only [rules, List.forall_mem_singleton]
  refine Rule.faults_first ?_
  rintro text found ⟨_, rest, _, here⟩ record fault stopped
  obtain ⟨after, run⟩ := here_run taskCount rest found here
  obtain ⟨_, digits⟩ := task_count_succeeds rest after found.value run
  rw [attempt_map_stops, wholeFrom, attempt_map_stops] at stopped
  exact number_from_stops found.value (digits_signs _ digits) _ fault stopped

def countPiece (most : Nat) : List Char :=
  ("[任务节点:" ++ String.ofList (natText most) ++ "]").toList

theorem count_shape (most : Nat) : countPiece most = "[任务节点:".toList ++ (natText most ++ [']']) := by
  have letters : (String.ofList (natText most)).toList = natText most := String.toList_ofList
  rw [countPiece, String.toList_append, String.toList_append, letters, List.append_assoc]
  rfl

theorem count_filled (most : Nat) : countPiece most ≠ [] := by
  rw [count_shape]
  exact List.cons_ne_nil _ _

theorem reads_digits (digits : List Char) (filled : digits ≠ []) (all : ∀ c ∈ digits, isDigit c = true) :
    taskCount.Reads ("[任务节点:".toList ++ (digits ++ [']'])) digits := by
  intro rest
  have run := run_many1 isDigit digits ']' rest filled all (by decide)
  rw [List.append_assoc, List.append_assoc, List.singleton_append]
  refine (bind_succeeds _ _ _ _ _).mpr ⟨(), ':' :: (digits ++ ']' :: rest), rfl, ?_⟩
  refine (bind_succeeds _ _ _ _ _).mpr ⟨(), digits ++ ']' :: rest, rfl, ?_⟩
  exact (bind_succeeds _ _ _ _ _).mpr ⟨digits, ']' :: rest, run, rfl⟩

theorem reads_count (most : Nat) : taskCount.Reads (countPiece most) (natText most) := by
  rw [count_shape]
  exact reads_digits _ (nat_text_nonempty most) fun c member => digit_is_digit c (nat_text_digits most c member)

theorem count_bracketed (most : Nat) : Bracketed "[任务节点:" (countPiece most) := by
  rw [count_shape]
  exact bracketed_valued "[任务节点:" (natText most) (by decide) (by decide) fun c member =>
    digit_quiet c (nat_text_digits most c member)

section Written

variable {told : List Char} (clear : Clean told) (most : Nat) (finite : (Double.ofDecimal false most 0).isFinite = true)

include clear

theorem classified : Kind.ofMarks (countPiece most ++ told) = .task := by
  have absent : ∀ mark, IsMark mark → clash mark.toList "[任务节点:".toList = true →
      occurs mark.toList (countPiece most ++ told) = false := by
    intro mark bracketed clashes
    have sign := is_mark_opens mark bracketed
    have skips := bracketed_skips _ _ (count_bracketed most) (word mark) (opens_word mark '[' sign)
      (begins_refuses _ mark (begins_word mark) ["[任务节点:"] (by simpa using clashes) _ (by simp))
    refine not_occurs mark (List.ne_nil_of_mem (List.mem_of_mem_head? sign)) _ (first_none _ _ ?_)
    exact (misses_append _ _ _ _).mpr ⟨skips _, clear.mark_misses mark bracketed [] (by simp)⟩
  have tip := absent tipWord (by decide) (by decide)
  have card := absent cardWord (by decide) (by decide)
  have jump := absent jumpWord (by decide) (by decide)
  have bgm := absent bgmWord (by decide) (by decide)
  have present := taskCount.first_reads (countPiece most) _ (count_filled most) (reads_count most) told
  simp [Kind.ofMarks, Kind.marks, tip, card, jump, bgm, present]

include finite

theorem rules_run (header : Header) : Rule.applyAll rules (countPiece most ++ told, ⟨header, {}⟩) =
    .ok (told, counted header most) := by
  have read : wholeFrom (natText most) = .ok (most : Int) := by
    rw [wholeFrom, numberFrom, reads_finite most finite]
    rfl
  refine Rule.apply_all_cons _ [] _ _ ?_
  refine Rule.first_tag _ taskCount _ (countPiece most) told (natText most) _ _ clear.tight
    (.inr ⟨count_filled most, reads_count most, ?_⟩)
  rw [read]
  rfl

end Written

-- The name that a task takes from what is left of its text.
def label (remainder : List Char) : List Char :=
  if clean remainder = [] then "任务节点".toList else clean remainder

theorem label_clean (remainder : List Char) : Clean (label remainder) := by
  rw [label]
  split
  · exact clean_is_clean "任务节点".toList
  · exact clean_is_clean remainder

theorem label_filled (remainder : List Char) : label remainder ≠ [] := by
  rw [label]
  split
  · exact List.cons_ne_nil _ _
  · assumption

theorem finish_labelled (remainder : List Char) (node : NodeOf Task) :
    finish remainder node = node.mapHeader (named (String.ofList (label remainder)) (String.ofList (label remainder))) := by
  rw [finish, orElse, label]
  by_cases empty : clean remainder = []
  · simp [empty]
  · simp [empty]

theorem label_label (remainder : List Char) : label (label remainder) = label remainder := by
  rw [label, (label_clean remainder).unchanged, if_neg (label_filled remainder)]

theorem finish_label (remainder : List Char) (node : NodeOf Task) : finish (label remainder) node = finish remainder node := by
  rw [finish_labelled, finish_labelled, label_label]

theorem text_written (header : Header) (remainder : List Char) (most : Nat) :
    (tagText (finish remainder (counted header most))).toList = countPiece most ++ label remainder := by
  have count : (finish remainder (counted header most)).body.maxDisplayCount = most := rfl
  have name : (finish remainder (counted header most)).header.name = String.ofList (label remainder) := by
    rw [finish_labelled]
    rfl
  rw [tagText, count, name, int_text_nat, String.toList_append, String.toList_ofList, countPiece]

theorem label_half (raw remainder : List Char) (half : ∀ c ∈ raw, isWide c = false) (within : remainder.Sublist raw) :
    ∀ c ∈ label remainder, isWide c = false := by
  rw [label]
  split
  · decide
  · exact fun c member => half c (within.subset ((clean_sublist remainder).subset member))

end TaggedStory.Task

namespace TaggedStory

open Text Tag Mark Scanner

theorem task_text_fixed (text : String) (header : Header) (isStart : Bool) :
    (∃ fault, Node.parse text (some .task) textEntity header = .error fault ∧ LongNumber fault) ∨
      ∃ node, Node.parse text (some .task) textEntity header = .ok node ∧ ∃ written, node.text isStart = .ok written ∧
        ∀ kind ∈ [none, some Kind.task], Node.parse written kind textEntity header = .ok node := by
  cases done : Rule.applyAll Task.rules (narrow text.toList, ⟨header, {}⟩) with
  | error fault =>
      refine .inl ⟨fault, ?_, Rule.apply_all_faults LongNumber Task.rules Task.rules_stop _ fault done⟩
      simp only [Node.parse, Option.getD_some, Node.parseAs, Node.parseWith, narrowed, String.toList_ofList, done]
      rfl
  | ok state =>
      obtain ⟨remainder, node⟩ := state
      obtain ⟨thinned, most, rfl, finite⟩ := Rule.apply_all_upholds _ (Task.Counted header) Task.rules Task.rules_cut
        (Task.rules_uphold _ header) ⟨header, {}⟩ _ ⟨0, rfl, rfl⟩ done
      have letters := Task.text_written header remainder most
      obtain ⟨written, wrote⟩ : ∃ written, Task.tagText (Task.finish remainder (Task.counted header most)) = written := ⟨_, rfl⟩
      rw [wrote] at letters
      have clear := Task.label_clean remainder
      have half : ∀ c ∈ Task.countPiece most ++ Task.label remainder, isWide c = false := by
        intro c member
        rcases List.mem_append.mp member with member | member
        · exact (bracketed_tame _ _ (Task.count_bracketed most)).half c member
        · exact Task.label_half _ remainder (narrow_is_half _) (thinned_sublist _ _ thinned) c member
      have run := Task.rules_run clear most finite header
      rw [← letters] at run
      refine .inr ⟨(Task.finish remainder (Task.counted header most)).mapBody .task, ?_, written, congrArg Except.ok wrote,
        Node.parse_again .task written header _ ?_ ?_ ?_⟩
      · simp only [Node.parse, Option.getD_some, Node.parseAs, Node.parseWith, narrowed, String.toList_ofList, done]
        rfl
      · rwa [letters]
      · rw [letters, Task.classified clear most]
      · simp only [Node.parseAs, Node.parseWith, run]
        rw [← Task.finish_label remainder]
        rfl

end TaggedStory
