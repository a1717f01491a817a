import TaggedStory.Proofs.Document.Topology
import TaggedStory.Proofs.Node.Task
/-!
A graph that can be exported, but not imported again: a task under whose count stands a longer one.
-/
set_option autoImplicit false

namespace TaggedStory.Interchange

open Text Decimal

theorem added_text_read (placement : Placement) (successors : List (String × List String)) (state next : Import)
    (entity : Entity) (added : addNode placement successors state entity = .ok next) (shown : entity.isImage = false) :
    ∃ header parsed, Node.parseAs (Kind.classify (narrowed entity.text) entity.type) (narrowed entity.text) header =
      .ok parsed := by
  rw [addNode, attempt_bind_ok] at added
  obtain ⟨position, _, added⟩ := added
  simp only [shown, Bool.false_eq_true, if_false] at added
  obtain ⟨parsed, read, _⟩ := (attempt_bind_ok _ _ _).mp added
  exact ⟨_, parsed, read⟩

def countOpening : List Char := ['[', '任', '务', '节', '点', ':']

-- A count that is written, but not read as one.
def signedCount : List Char := countOpening ++ ['-', '1', ']']

def longCount (digits : List Char) : List Char := countOpening ++ (digits ++ [']'])

-- A task whose name looks like a count of its own.
def crowdedTask (digits : List Char) : Node :=
  ⟨{ id := "a", name := String.ofList (longCount digits) }, .task { maxDisplayCount := -1 }⟩

def crowdedGraph (digits : List Char) : Graph :=
  { nodes := [crowdedTask digits] }

def crowdedText (digits : List Char) : List Char :=
  signedCount ++ longCount digits

section Crowded

variable (digits : List Char) (all : AllDigits digits)

theorem crowded_text (isStart : Bool) : (crowdedTask digits).text isStart = .ok (String.ofList (crowdedText digits)) := by
  have count : "[任务节点:" ++ String.ofList (intText (-1)) ++ "]" = String.ofList signedCount := by decide
  have shape : "[任务节点:" ++ String.ofList (intText (-1)) ++ "]" ++ String.ofList (longCount digits) =
      String.ofList (crowdedText digits) := by
    rw [count, crowdedText, String.ofList_append]
  exact congrArg Except.ok shape

include all

theorem crowded_chars (c : Char) (member : c ∈ crowdedText digits) : c ∈ signedCount ∨ c.isDigit = true := by
  rw [crowdedText, longCount, List.mem_append, List.mem_append, List.mem_append, List.mem_singleton] at member
  rcases member with count | opening | digit | rfl
  · exact .inl count
  · exact .inl (List.mem_append_left _ opening)
  · exact .inr (all c digit)
  · exact .inl (by decide)

theorem crowded_lacks (word : String) (sign : Char) (needed : sign ∈ word.toList) (other : sign.isDigit = false)
    (foreign : sign ∉ signedCount) : occurs word.toList (crowdedText digits) = false := by
  have absent : sign ∉ crowdedText digits := fun member =>
    (crowded_chars digits all sign member).elim foreign fun digit => by rw [other] at digit; cases digit
  rw [Bool.eq_false_iff, ne_eq, occurs_inside]
  exact fun inside => absent (inside.subset needed)

theorem crowded_exportable : Exportable (crowdedGraph digits) := by
  refine ⟨by simp [Graph.ids, crowdedGraph, crowdedTask, Node.id], List.nodup_singleton _, ?_⟩
  intro node member _ text speaks
  rw [List.mem_singleton.mp member, crowded_text] at speaks
  rw [← Except.ok.inj speaks, String.toList_ofList]
  exact ⟨trim_solid '[' _ (by decide), crowded_lacks digits all ignoreMark 'X' (by decide) (by decide) (by decide)⟩

theorem crowded_half : ∀ c ∈ crowdedText digits, isWide c = false := by
  intro c member
  rcases crowded_chars digits all c member with sign | digit
  · have signs : ∀ c ∈ signedCount, isWide c = false := by decide
    exact signs c sign
  · have range := digit_range c digit
    simp only [isWide, Bool.or_eq_false_iff, Bool.and_eq_false_iff, decide_eq_false_iff_not, beq_eq_false_iff_ne]
    omega

variable (nonempty : digits ≠ [])

include nonempty

theorem reads_count : Task.taskCount.Reads (longCount digits) digits :=
  Task.reads_digits digits nonempty fun c member => digit_is_digit c (all c member)

theorem crowded_count : Task.taskCount.first? (crowdedText digits) = some ⟨longCount digits, digits⟩ := by
  have missed : Task.taskCount.Misses signedCount (longCount digits) :=
    ⟨rfl, rfl, rfl, rfl, rfl, rfl, rfl, rfl, rfl, trivial⟩
  have found := Scanner.first_reads Task.taskCount (longCount digits) digits (by simp [longCount, countOpening])
    (reads_count digits all nonempty) []
  rw [List.append_nil] at found
  rw [crowdedText, Scanner.first_misses _ _ _ missed, found]

theorem crowded_kind : Kind.classify (String.ofList (crowdedText digits)) textEntity = .task := by
  have tip := crowded_lacks digits all Mark.tipWord '提' (by decide) (by decide) (by decide)
  have card := crowded_lacks digits all Mark.cardWord '卡' (by decide) (by decide) (by decide)
  have jump := crowded_lacks digits all Mark.jumpWord '跳' (by decide) (by decide) (by decide)
  have bgm := crowded_lacks digits all Mark.bgmWord 'B' (by decide) (by decide) (by decide)
  rw [Kind.classify, if_neg (by decide), String.toList_ofList, Kind.ofMarks]
  simp only [Kind.marks, List.find?_cons, tip, card, jump, bgm, List.find?_nil, crowded_count digits all nonempty,
    Option.isSome_some, if_true]

variable (long : digitLimit < digits.length)
variable (finite : (Double.ofDecimal false (natOfDigits (digits.map digitOf)) 0).isFinite = true)

include long finite

theorem crowded_refused (header : Header) (parsed : Node.Parsed) :
    Node.parseAs .task (String.ofList (crowdedText digits)) header ≠ .ok parsed := by
  intro done
  obtain ⟨state, applied, _⟩ := (attempt_map_ok _ _ _).mp done
  rw [Tag.Rule.applyAll, Task.rules, List.foldlM_cons, attempt_bind_ok, String.toList_ofList] at applied
  obtain ⟨next, first, _⟩ := applied
  have moves : ∀ act : NodeOf Task → List Char → Attempt (Option (NodeOf Task)),
      (Tag.Rule.first "task" Task.taskCount act).moves (crowdedText digits) =
        [⟨longCount digits, fun record => act record digits⟩] := by
    intro act
    change ((Task.taskCount.first? (crowdedText digits)).map (Tag.Rule.move act)).toList = _
    rw [crowded_count digits all nonempty]
    rfl
  rw [Tag.Rule.apply, moves, List.foldlM_cons, attempt_bind_ok] at first
  obtain ⟨taken, act, _⟩ := first
  obtain ⟨outcome, accepted, _⟩ := (attempt_map_ok _ _ _).mp act
  rw [Mark.whole_from_illegible digits all long finite] at accepted
  cases accepted

theorem crowded_graph_refused : ∃ document, write (crowdedGraph digits) = .ok document ∧
    ∀ template again, load document template ≠ .ok again := by
  have exportable := crowded_exportable digits all
  obtain ⟨document, written⟩ : ∃ document, write (crowdedGraph digits) = .ok document := ⟨_, rfl⟩
  refine ⟨document, written, fun template again loaded => ?_⟩
  obtain ⟨entries, content, parts⟩ := written_read _ exportable.named exportable.distinct document written
  obtain ⟨imported, steps⟩ := parts.loaded template again loaded
  have none := parts.passes_over_none exportable
  obtain ⟨placement, placed⟩ := steps.placed
  have single : (crowdedGraph digits).nodes.map (exported (crowdedGraph digits)) =
      [entityOf (crowdedTask digits) textEntity (spoken (crowdedGraph digits) (crowdedTask digits)) ""] := rfl
  have text : spoken (crowdedGraph digits) (crowdedTask digits) = String.ofList (crowdedText digits) := by
    rw [spoken, crowded_text]
    rfl
  rw [all_retained _ none, parts.entities, single, List.foldlM_cons, attempt_bind_ok] at placed
  obtain ⟨next, added, _⟩ := placed
  obtain ⟨header, parsed, read⟩ := added_text_read _ _ _ _ _ added rfl
  have plain : narrowed (String.ofList (crowdedText digits)) = String.ofList (crowdedText digits) := by
    rw [narrowed, String.toList_ofList, narrow_half _ (crowded_half digits all)]
  change Node.parseAs (Kind.classify (narrowed (spoken _ _)) textEntity) (narrowed (spoken _ _)) header = _ at read
  rw [text, plain, crowded_kind digits all nonempty] at read
  exact crowded_refused digits all nonempty long finite header parsed read

end Crowded

-- One zero more than a whole number may have.
def manyZeros : List Char := List.replicate (digitLimit + 1) '0'

theorem many_zeros_value : natOfDigits (manyZeros.map digitOf) = 0 := by
  have nothing : ∀ count, natOfDigits (List.replicate count 0) = 0 := by
    intro count
    induction count with
    | zero => rfl
    | succ count ih => exact ih
  rw [manyZeros, List.map_replicate]
  exact nothing (digitLimit + 1)

theorem many_zeros_refused : Exportable (crowdedGraph manyZeros) ∧ ∃ document,
    write (crowdedGraph manyZeros) = .ok document ∧ ∀ template again, load document template ≠ .ok again := by
  have all : AllDigits manyZeros := by
    intro c member
    rw [List.eq_of_mem_replicate member]
    rfl
  have long : digitLimit < manyZeros.length := by simp [manyZeros]
  refine ⟨crowded_exportable manyZeros all, crowded_graph_refused manyZeros all ?_ long (by rw [many_zeros_value]; rfl)⟩
  exact List.ne_nil_of_length_pos (Nat.lt_of_le_of_lt (Nat.zero_le _) long)

end TaggedStory.Interchange
