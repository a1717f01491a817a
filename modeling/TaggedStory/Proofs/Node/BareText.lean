import TaggedStory.Proofs.Node.Bgm
import TaggedStory.Proofs.Node.Legible
import TaggedStory.Proofs.Node.Probability
import TaggedStory.Proofs.Node.Task
import TaggedStory.Proofs.Tag.Idling
/-!
What is left of a text when all its tags are gone. Choices, cards, music and tasks take their names from it, and such a
name, read as a text of the same kind, gives itself again.
-/
set_option autoImplicit false

namespace TaggedStory

open Text Scanner Tag Mark

namespace Mark

theorem tier_reads_tags : ReadsTags tier := by
  have spaced : Avoids ']' blanks := avoids_blanks (by decide)
  have number : Avoids ']' tierDigits := avoids_bind (avoids_optional (avoids_char (by decide))) fun _ =>
    avoids_bind (avoids_many1 (by decide)) fun _ => avoids_pure
  refine ⟨('[', ']'), by decide, closes_encloses (by decide) (opens_bind _ _ '[' (opens_char '[')) ?_ fun rest => rfl⟩
  exact closes_behind (avoids_char (by decide)) fun _ => closes_behind spaced fun _ =>
    closes_behind (avoids_word "层级" (by decide)) fun _ => closes_behind spaced fun _ =>
    closes_behind (avoids_colon (by decide)) fun _ => closes_behind spaced fun _ => closes_behind number fun _ =>
    closes_behind spaced fun _ => closes_returning closes_char

theorem achievement_reads_tags : ReadsTags achievement := by
  refine ⟨('[', ']'), by decide, closes_encloses (by decide) (opens_bind _ _ '[' (opens_word _ '[' (by decide))) ?_ fun rest => rfl⟩
  exact closes_behind (avoids_word "[解锁成就" (by decide)) fun _ => closes_behind (avoids_colon (by decide)) fun _ => closes_up_to

theorem overlay_reads_tags : ReadsTags overlay := by
  have spaced : Avoids ']' blanks := avoids_blanks (by decide)
  have image : Closes ']' (colon >>= fun _ => upTo ']') := closes_behind (avoids_colon (by decide)) fun _ => closes_up_to
  refine ⟨('[', ']'), by decide, closes_encloses (by decide) (opens_bind _ _ '[' (opens_char '[')) ?_ fun rest => rfl⟩
  exact closes_behind (avoids_char (by decide)) fun _ => closes_behind spaced fun _ =>
    closes_behind (avoids_word "叠加图片选项" (by decide)) fun _ => closes_behind spaced fun _ =>
    closes_optional trim image (fun _ => rfl) (closes_returning closes_char)

theorem ad_reads_tags : ReadsTags ad :=
  ⟨('《', '》'), by decide, ad_filled⟩

end Mark

theorem Choice.rules_idle : ∀ rule ∈ Choice.rules, rule.Idle := by
  have hidden : ReadsTags Choice.hidden :=
    ⟨('[', ']'), by decide, encloses_either (mark_encloses _ (by decide)) (mark_encloses _ (by decide))⟩
  have counted : ReadsTags Choice.countedProbability :=
    ⟨('《', '》'), by decide, encloses_more Choice.counted_encloses fun body ⟨_, _, _, shape, _⟩ => by simp [shape]⟩
  have plain : ReadsTags Choice.plainProbability :=
    ⟨('《', '》'), by decide, encloses_more Choice.plain_encloses fun body ⟨_, _, shape⟩ => by simp [shape]⟩
  have named : ReadsTags Choice.probabilityName :=
    ⟨('《', '》'), by decide, encloses_more Choice.name_encloses fun body percent => List.ne_nil_of_mem percent⟩
  simp only [Choice.rules, List.forall_mem_cons]
  exact ⟨Rule.idle_first ad_reads_tags, Rule.idle_first tier_reads_tags, Rule.idle_first achievement_reads_tags,
    Rule.idle_literal (by decide), Rule.idle_literal (by decide), Rule.idle_literal (by decide),
    Rule.idle_first overlay_reads_tags, Rule.idle_every hidden, Rule.idle_literal (by decide), Rule.idle_first counted,
    Rule.idle_first plain, Rule.idle_first named, Rule.idle_conditions, Rule.idle_effects,
    Rule.idle_keeping (Rule.idle_first (reads_tags_span ('\x7b', '\x7d') (by decide))), List.forall_mem_nil _⟩

theorem Card.rules_idle : ∀ rule ∈ Card.rules, rule.Idle := by
  simp only [Card.rules, List.forall_mem_cons]
  exact ⟨Rule.idle_first ad_reads_tags, Rule.idle_first tier_reads_tags, Rule.idle_first achievement_reads_tags,
    Rule.idle_literal (by decide), Rule.idle_literal (by decide), Rule.idle_first overlay_reads_tags,
    Rule.idle_literal (by decide), Rule.idle_literal (by decide), Rule.idle_conditions, Rule.idle_effects,
    List.forall_mem_nil _⟩

theorem Bgm.rules_idle : ∀ rule ∈ Bgm.rules, rule.Idle := by
  simp only [Bgm.rules, List.forall_mem_cons]
  exact ⟨Rule.idle_first ad_reads_tags, Rule.idle_literal (by decide), Rule.idle_literal (by decide),
    Rule.idle_first ⟨('<', '>'), by decide, Bgm.volume_encloses⟩, List.forall_mem_nil _⟩

theorem Task.rules_idle : ∀ rule ∈ Task.rules, rule.Idle := by
  simp only [Task.rules, List.forall_mem_singleton]
  refine Rule.idle_first ⟨('[', ']'), by decide,
    closes_encloses (by decide) (opens_bind _ _ '[' (opens_word _ '[' (by decide))) ?_ fun rest => rfl⟩
  exact closes_behind (avoids_word "[任务节点" (by decide)) fun _ => closes_behind (avoids_colon (by decide)) fun _ =>
    closes_behind (avoids_many1 (by decide)) fun _ => closes_returning closes_char

namespace Node

-- The name that a node takes from what is left of its text.
def bareName? (node : Node) : Option String :=
  match node.body with
  | .choice choice => some choice.text
  | .card card => some card.name
  | .bgm bgm => some bgm.audioFile
  | .task _ => some node.header.name
  | _ => none

def bareKinds : List Kind :=
  [.choice, .card, .bgm, .task]

section Reading

variable {B : Type} {rules : List (Rule (NodeOf B))} {finish : List Char → NodeOf B → NodeOf B} {wrap : B → Body}
  {keep : List Char → List Char}

-- The name is clean and is what a text gives that is left of it already.
theorem bare_again (idle : ∀ rule ∈ rules, rule.Idle)
    (named : ∀ remainder node, bareName? ((finish remainder node).mapBody wrap) = some (String.ofList (keep remainder)))
    (clear : ∀ remainder, Clean (keep remainder)) (kept : ∀ remainder, keep (keep remainder) = keep remainder)
    (text : List Char) (start : NodeOf B) (parsed : Parsed) (done : parseWith rules finish wrap start text = .ok parsed) :
    ∃ name, parsed.node.bareName? = some name ∧ Clean name.toList ∧ ∀ fresh, ∃ again,
      parseWith rules finish wrap fresh name.toList = .ok again ∧ again.node.bareName? = some name := by
  obtain ⟨⟨remainder, node⟩, _, rfl⟩ := (attempt_map_ok _ _ _).mp done
  refine ⟨_, named remainder node, ?_, fun fresh => ?_⟩
  · rw [String.toList_ofList]
    exact clear remainder
  · rw [String.toList_ofList, parseWith, Rule.apply_all_idle rules idle _ (clear remainder) fresh]
    refine ⟨_, rfl, ?_⟩
    rw [named, kept]

end Reading

theorem bare_name_again (kind : Kind) (known : kind ∈ bareKinds) (text : String) (header : Header) (parsed : Parsed)
    (done : parseAs kind text header = .ok parsed) : ∃ name, parsed.node.bareName? = some name ∧ Clean name.toList ∧
      ∀ other, ∃ again, parseAs kind name other = .ok again ∧ again.node.bareName? = some name := by
  simp only [bareKinds, List.mem_cons, List.not_mem_nil, or_false] at known
  rcases known with rfl | rfl | rfl | rfl
  · obtain ⟨name, own, clear, again⟩ := bare_again Choice.rules_idle (fun _ _ => rfl) clean_is_clean clean_clean _ _ parsed done
    exact ⟨name, own, clear, fun other => again ⟨other, {}⟩⟩
  · obtain ⟨name, own, clear, again⟩ := bare_again Card.rules_idle (fun _ _ => rfl) clean_is_clean clean_clean _ _ parsed done
    exact ⟨name, own, clear, fun other => again ⟨other, {}⟩⟩
  · obtain ⟨name, own, clear, again⟩ := bare_again Bgm.rules_idle (fun _ _ => rfl) clean_is_clean clean_clean _ _ parsed done
    exact ⟨name, own, clear, fun other => again ⟨other, {}⟩⟩
  · have named : ∀ remainder node, bareName? ((Task.finish remainder node).mapBody .task) =
        some (String.ofList (Task.label remainder)) := fun remainder node => by
      rw [Task.finish_labelled]
      rfl
    obtain ⟨name, own, clear, again⟩ := bare_again Task.rules_idle named Task.label_clean Task.label_label _ _ parsed done
    exact ⟨name, own, clear, fun other => again ⟨other, {}⟩⟩

end Node

theorem Tag.clean_uncounted (text : List Char) : count (clean text) = 0 := by
  have none : ∀ family ∈ families, (span family.1 family.2).all (clean text) = [] := fun family known =>
    all_none _ _ ((clean_is_clean text).nothing_read _ (reads_tags_span family known))
  have brackets : bracket.all (clean text) = [] := none ('[', ']') (by decide)
  have guillemets : guillemet.all (clean text) = [] := none ('《', '》') (by decide)
  have angles : angle.all (clean text) = [] := none ('<', '>') (by decide)
  simp [count, brackets, guillemets, angles]

theorem clean_names_read_back (text : String) :
    let left := clean text.toList
    ((∀ family ∈ families, Spanless family.1 family.2 left) ∧ count left = 0 ∧ Tight left ∧ clean left = left) ∧
    (Clean text.toList → left = text.toList) ∧
    ∀ kind ∈ Node.bareKinds, ∀ header,
      (Decimal.Legible text.toList → ∃ parsed, Node.parseAs kind text header = .ok parsed) ∧
      ∀ parsed, Node.parseAs kind text header = .ok parsed →
        ∃ name, parsed.node.bareName? = some name ∧ Clean name.toList ∧
          ∀ other, ∃ again, Node.parseAs kind name other = .ok again ∧ again.node.bareName? = some name := by
  have clear := clean_is_clean text.toList
  refine ⟨⟨clear.spanless, clean_uncounted _, clear.tight, clear.unchanged⟩, Clean.unchanged, fun kind known header => ⟨?_, ?_⟩⟩
  · exact Node.parse_legible kind text header
  · exact Node.bare_name_again kind known text header

-- Nested and unbalanced signs of all families.
def brokenChoice : String := "[选项] 门[[a]]《b<》<c\x7bd\x7d>《》> \x7b"

theorem broken_choice_again : ∃ parsed, Node.parseAs .choice brokenChoice {} = .ok parsed ∧
    parsed.node.bareName? = some "门]《》> \x7b" ∧
    ∃ again, Node.parseAs .choice "门]《》> \x7b" {} = .ok again ∧ again.node.bareName? = some "门]《》> \x7b" := by
  have read : (match Node.parseAs .choice brokenChoice {} with
      | .ok parsed => decide (parsed.node.bareName? = some "门]《》> \x7b")
      | .error _ => false) = true := by decide +kernel
  obtain ⟨returns, reads⟩ := (clean_names_read_back brokenChoice).2.2 .choice (by decide) {}
  obtain ⟨parsed, done⟩ := returns (by decide)
  obtain ⟨name, own, _, again⟩ := reads parsed done
  rw [done, decide_eq_true_iff] at read
  obtain rfl := Option.some.inj (own.symm.trans read)
  exact ⟨parsed, done, own, again {}⟩

end TaggedStory
