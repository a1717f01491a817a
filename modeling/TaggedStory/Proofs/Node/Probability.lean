import TaggedStory.Node.Choice
import TaggedStory.Proofs.Node.Offer
/-!
The three forms of a probability. Each of the three rules refuses the forms of the other two, and all
of them refuse a tag without a percent sign.
-/
set_option autoImplicit false

namespace TaggedStory.Choice

open Decimal Text Scanner Tag Mark

section Forms

theorem counted_encloses : Encloses countedProbability '《' '》' fun body =>
    ∃ amount c count, body = amount ++ '%' :: c :: count ∧ '%' ∉ amount := by
  intro text rest value done
  rw [countedProbability] at done
  obtain ⟨_, first, done⟩ := char_then done
  obtain ⟨amount, _, second, done⟩ := (bind_succeeds _ _ _ _ _).mp done
  obtain ⟨decimalAmount, shape⟩ := decimal_succeeds _ _ _ second
  obtain ⟨_, third, done⟩ := char_then done
  obtain ⟨c, _, colonShape, isColon, done⟩ := colon_then done
  obtain ⟨count, _, countShape, _, digits, done⟩ := many1_then done
  obtain ⟨_, sixth, done⟩ := char_then done
  rw [pure_succeeds] at done
  refine ⟨amount ++ '%' :: c :: count, ?_, ?_, amount, c, count, rfl, is_decimal_lacks _ decimalAmount '%' (by decide) (by decide)⟩
  · rw [first, shape, third, colonShape, countShape, sixth, done.2]
    simp
  · rw [List.mem_append, List.mem_cons, List.mem_cons]
    rintro (member | same | same | member)
    · exact is_decimal_lacks _ decimalAmount '》' (by decide) (by decide) member
    · exact absurd same (by decide)
    · rcases isColon with rfl | rfl <;> exact absurd same (by decide)
    · exact absurd (digits '》' member) (by decide)

theorem plain_encloses : Encloses plainProbability '《' '》' fun body =>
    ∃ amount, IsDecimal amount ∧ body = amount ++ ['%'] := by
  intro text rest value done
  rw [plainProbability] at done
  obtain ⟨_, first, done⟩ := char_then done
  obtain ⟨amount, _, second, done⟩ := (bind_succeeds _ _ _ _ _).mp done
  obtain ⟨decimalAmount, shape⟩ := decimal_succeeds _ _ _ second
  obtain ⟨_, third, done⟩ := word_then done
  rw [pure_succeeds] at done
  refine ⟨amount ++ ['%'], ?_, ?_, amount, decimalAmount, rfl⟩
  · rw [first, shape, third, done.2]
    simp
  · rw [List.mem_append, List.mem_singleton]
    rintro (member | same)
    · exact is_decimal_lacks _ decimalAmount '》' (by decide) (by decide) member
    · exact absurd same (by decide)

theorem name_encloses : Encloses probabilityName '《' '》' fun body => '%' ∈ body := by
  intro text rest value done
  rw [probabilityName] at done
  obtain ⟨_, first, done⟩ := char_then done
  obtain ⟨name, _, shape, _, accepted, done⟩ := many1_then done
  obtain ⟨_, third, done⟩ := word_then done
  rw [pure_succeeds] at done
  refine ⟨name ++ ['%'], ?_, ?_, by simp⟩
  · rw [first, shape, third, done.2]
    simp
  · rw [List.mem_append, List.mem_singleton]
    rintro (member | same)
    · simpa using accepted '》' member
    · exact absurd same (by decide)

theorem counted_refuses (body : List Char) (absent : '》' ∉ body) (noPercent : '%' ∉ body) (tail : List Char)
    (short : tail = [] ∨ tail = ['%']) (closed : '》' ∉ tail) : Refuses countedProbability ('《' :: (body ++ tail ++ ['》'])) := by
  refine encloses_refuses _ '《' '》' _ counted_encloses (body ++ tail) (by simp [absent, closed]) ?_
  rintro ⟨amount, c, count, shape, noOther⟩
  rcases short with rfl | rfl
  · rw [List.append_nil] at shape
    rw [shape] at noPercent
    exact noPercent (by simp)
  · obtain ⟨_, impossible⟩ := first_closing_unique '%' body amount [] (c :: count) noPercent noOther shape
    cases impossible

theorem plain_refuses (body : List Char) (absent : '》' ∉ body) (noPercent : '%' ∉ body) (tail : List Char)
    (short : tail = [] ∨ tail = ['%'] ∧ ¬ IsDecimal body) (closed : '》' ∉ tail) :
    Refuses plainProbability ('《' :: (body ++ tail ++ ['》'])) := by
  refine encloses_refuses _ '《' '》' _ plain_encloses (body ++ tail) (by simp [absent, closed]) ?_
  rintro ⟨amount, decimalAmount, shape⟩
  rcases short with rfl | ⟨rfl, other⟩
  · rw [List.append_nil] at shape
    rw [shape] at noPercent
    exact noPercent (by simp)
  · obtain ⟨same, _⟩ := first_closing_unique '%' body amount [] [] noPercent
      (is_decimal_lacks _ decimalAmount '%' (by decide) (by decide)) shape
    exact other (same ▸ decimalAmount)

theorem name_refuses (body : List Char) (absent : '》' ∉ body) (noPercent : '%' ∉ body) :
    Refuses probabilityName ('《' :: (body ++ ['》'])) :=
  encloses_refuses _ '《' '》' _ name_encloses body absent noPercent

end Forms

section Readings

theorem reads_counted (amount count : Nat) :
    Reads countedProbability ('《' :: (natText amount ++ '%' :: ':' :: (natText count ++ ['》']))) (natText amount, natText count) := by
  intro rest
  have first := run_decimal_whole (natText amount) '%' (':' :: (natText count ++ '》' :: rest)) (nat_text_nonempty _)
    (nat_text_digits _) (by decide) (by decide)
  have second := run_digits (natText count) '》' rest (nat_text_nonempty _) (nat_text_digits _) (by decide)
  rw [show '《' :: (natText amount ++ '%' :: ':' :: (natText count ++ ['》'])) ++ rest =
    '《' :: (natText amount ++ '%' :: ':' :: (natText count ++ '》' :: rest)) by simp]
  refine (bind_succeeds _ _ _ _ _).mpr ⟨(), _, rfl, ?_⟩
  refine (bind_succeeds _ _ _ _ _).mpr ⟨_, _, first, ?_⟩
  refine (bind_succeeds _ _ _ _ _).mpr ⟨(), _, rfl, ?_⟩
  refine (bind_succeeds _ _ _ _ _).mpr ⟨(), _, rfl, ?_⟩
  exact (bind_succeeds _ _ _ _ _).mpr ⟨_, _, second, rfl⟩

theorem reads_plain (amount : Nat) : Reads plainProbability ('《' :: (natText amount ++ ['%', '》'])) (natText amount) := by
  intro rest
  have first := run_decimal_whole (natText amount) '%' ('》' :: rest) (nat_text_nonempty _)
    (nat_text_digits _) (by decide) (by decide)
  rw [show '《' :: (natText amount ++ ['%', '》']) ++ rest = '《' :: (natText amount ++ '%' :: '》' :: rest) by simp]
  refine (bind_succeeds _ _ _ _ _).mpr ⟨(), _, rfl, ?_⟩
  exact (bind_succeeds _ _ _ _ _).mpr ⟨_, _, first, rfl⟩

theorem reads_name (name : List Char) (nonempty : name ≠ []) (absent : '》' ∉ name) (noPercent : '%' ∉ name) :
    Reads probabilityName ('《' :: (name ++ ['%', '》'])) name := by
  intro rest
  have accepted : ∀ c ∈ name, (decide (c ≠ '》') && decide (c ≠ '%')) = true := by
    intro c member
    rw [Bool.and_eq_true, decide_eq_true_eq, decide_eq_true_eq]
    exact ⟨fun same => absent (same ▸ member), fun same => noPercent (same ▸ member)⟩
  have first := run_many1 (fun c => decide (c ≠ '》') && decide (c ≠ '%')) name '%' ('》' :: rest) nonempty accepted (by decide)
  rw [show '《' :: (name ++ ['%', '》']) ++ rest = '《' :: (name ++ '%' :: '》' :: rest) by simp]
  refine (bind_succeeds _ _ _ _ _).mpr ⟨(), _, rfl, ?_⟩
  exact (bind_succeeds _ _ _ _ _).mpr ⟨_, _, first, rfl⟩

end Readings

-- No marker, an expression, or a whole percentage with a count at most.
inductive WritableProbability (choice : Choice) : Prop where
  | absent (off : choice.isProbability = false) (amount : choice.probability = .real .zero) (count : choice.maxCount = 0)
      (unnamed : choice.probabilityExpression = "")
  | expression (on : choice.isProbability = true) (amount : choice.probability = .real .zero) (count : choice.maxCount = 0)
      (plain : Plain choice.probabilityExpression) (noPercent : '%' ∉ choice.probabilityExpression.toList)
      (noDecimal : ¬ IsDecimal choice.probabilityExpression.toList)
  | percentage (on : choice.isProbability = true) (percent times : Nat) (amount : choice.probability = .whole percent)
      (count : choice.maxCount = times) (unnamed : choice.probabilityExpression = "")
      (small : percent < 10 ^ 300) (few : times < 10 ^ 300)

def putProbability (choice so : Choice) : Choice :=
  { so with
    isProbability := choice.isProbability, probability := choice.probability, maxCount := choice.maxCount,
    probabilityExpression := choice.probabilityExpression }

def probabilityPiece (choice : Choice) : List Char :=
  (probabilityTag choice).toList

theorem digits_lack (n : Nat) (sign : Char) (other : sign.isDigit = false) : sign ∉ natText n :=
  all_digits_lack _ (nat_text_digits n) sign other

section Written

variable (choice : Choice) (on : choice.isProbability = true)

include on

theorem piece_named (named : choice.probabilityExpression ≠ "") :
    probabilityPiece choice = '《' :: (choice.probabilityExpression.toList ++ ['%'] ++ ['》']) := by
  rw [probabilityPiece, probabilityTag, on, Bool.not_true, if_neg Bool.false_ne_true, if_pos named]
  simp

variable (unnamed : choice.probabilityExpression = "") (percent : Nat) (amount : choice.probability = .whole percent)

include unnamed amount

theorem piece_plain (count : choice.maxCount = 0) :
    probabilityPiece choice = '《' :: (natText percent ++ ['%'] ++ ['》']) := by
  rw [probabilityPiece, probabilityTag, on, Bool.not_true, if_neg Bool.false_ne_true, if_neg fun named => named unnamed,
    if_neg fun other => other count, amount, Number.text, int_text_nat]
  simp

theorem piece_counted (times : Nat) (count : choice.maxCount = times) (counted : times ≠ 0) :
    probabilityPiece choice = '《' :: (natText percent ++ ['%', ':'] ++ natText times ++ ['》']) := by
  have listed : (times : Int) ≠ 0 := by omega
  rw [probabilityPiece, probabilityTag, on, Bool.not_true, if_neg Bool.false_ne_true, if_neg fun named => named unnamed,
    count, if_pos listed, amount, Number.text, int_text_nat, int_text_nat]
  simp

end Written

-- A marker holds a percent sign and nothing that opens or closes a tag.
theorem probability_piece_shape (choice : Choice) (writable : WritableProbability choice) :
    probabilityPiece choice = [] ∨
      ∃ inner, probabilityPiece choice = '《' :: (inner ++ ['》']) ∧ '%' ∈ inner ∧ Calm inner := by
  have digits : ∀ n, Calm (natText n) := fun n => digits_calm _ (nat_text_digits n)
  cases writable with
  | absent off amount count unnamed =>
      refine .inl ?_
      rw [probabilityPiece, probabilityTag, off]
      rfl
  | expression on amount count plain noPercent noDecimal =>
      exact .inr ⟨_, piece_named choice on plain.nonempty, by simp, plain.calm.append (by decide)⟩
  | percentage on percent times amount count unnamed small few =>
      by_cases once : times = 0
      · have none : choice.maxCount = 0 := by rw [count, once, Int.natCast_zero]
        exact .inr ⟨_, piece_plain choice on unnamed percent amount none, by simp, (digits percent).append (by decide)⟩
      · exact .inr ⟨_, piece_counted choice on unnamed percent amount times count once, by simp,
          ((digits percent).append (by decide)).append (digits times)⟩

theorem probability_piece_tame (choice : Choice) (writable : WritableProbability choice) :
    Tame ['['] (probabilityPiece choice) := by
  rcases probability_piece_shape choice writable with empty | ⟨inner, shape, _, calm⟩
  · rw [empty]
    exact Tame.nil
  · rw [shape]
    refine Tame.enclosed '《' '》' inner (by decide) (by decide) (by decide) (fun c member sign => ?_)
      fun c member => (calm c member).2
    rw [List.mem_singleton.mp sign] at member
    exact calm.absent '[' (by decide) member

theorem probability_piece_no_ad (choice : Choice) (writable : WritableProbability choice) :
    Skips ad (probabilityPiece choice) := by
  rcases probability_piece_shape choice writable with empty | ⟨inner, shape, percent, calm⟩
  · rw [empty]
    exact skips_nil ad
  · have single : '《' ∉ inner ++ ['》'] := by simpa using calm.absent '《' (by decide)
    rw [shape]
    exact fun rest => ⟨ad_refuses inner (calm.absent '》' (by decide)) '%' percent (by decide) rest,
      misses_unopened ad '《' opens_ad _ rest single⟩

section Steps

theorem once_found {α : Type} (name : String) (scanner : Scanner α) (change : Choice → α → Attempt Choice)
    (tag rest : List Char) (value : α) (node : NodeOf Choice) (changed : Choice) (unset : node.body.isProbability = false)
    (nonempty : tag ≠ []) (reads : Reads scanner tag value) (tight : Tight rest)
    (done : change { node.body with isProbability := true } value = .ok changed) :
    (once name scanner change).apply (tag ++ rest, node) = .ok (rest, { node with body := changed }) := by
  refine Rule.first_tag name scanner _ tag rest value node _ tight (.inr ⟨nonempty, reads, ?_⟩)
  rw [unset, if_neg Bool.false_ne_true, done]
  rfl

theorem once_absent {α : Type} (name : String) (scanner : Scanner α) (change : Choice → α → Attempt Choice)
    (text : List Char) (node : NodeOf Choice) (absent : scanner.first? text = none) :
    (once name scanner change).apply (text, node) = .ok (text, node) :=
  Rule.first_absent name scanner _ text node absent

theorem first_none_after {α : Type} (s : Scanner α) (opens : Opens s '《') (piece rest : List Char)
    (refuses : Refuses s ('《' :: piece)) (single : '《' ∉ piece) (clear : s.first? rest = none) :
    s.first? ('《' :: piece ++ rest) = none := by
  rw [s.first_misses ('《' :: piece) rest ⟨?_, s.misses_unopened '《' opens _ _ single⟩, clear]
  exact refuses rest

theorem opens_counted : Opens countedProbability '《' :=
  opens_bind _ _ '《' (opens_char '《')

theorem opens_plain : Opens plainProbability '《' :=
  opens_bind _ _ '《' (opens_char '《')

theorem opens_name : Opens probabilityName '《' :=
  opens_bind _ _ '《' (opens_char '《')

theorem number_from_nat (n : Nat) (small : n < 10 ^ 300) : numberFrom (natText n) (.whole 0) = .ok (.whole n) := by
  rw [numberFrom, ← int_text_nat, read_number_int n (.whole 0) (Nat.le_of_lt small)]

theorem set_counted_done (choice : Choice) (percent times : Nat) (small : percent < 10 ^ 300) (few : times < 10 ^ 300) :
    setCounted choice (natText percent, natText times) =
      .ok { choice with probability := .whole percent, maxCount := times } := by
  have count := whole_from_int times (Nat.le_of_lt few)
  rw [int_text_nat] at count
  simp only [setCounted, number_from_nat percent small, count]
  rfl

theorem set_probability_done (choice : Choice) (percent : Nat) (small : percent < 10 ^ 300) :
    setProbability choice (natText percent) = .ok { choice with probability := .whole percent } := by
  rw [setProbability, number_from_nat percent small]
  rfl

-- The three rules, in the order in which they are tried.
def probabilityRules : List (Rule (NodeOf Choice)) := [
  once "probability_count" countedProbability setCounted,
  once "probability_simple" plainProbability setProbability,
  once "probability_expression" probabilityName fun choice name =>
    .ok { choice with probabilityExpression := trimmedText name }]

variable (node : NodeOf Choice) (off : node.body.isProbability = false) (rest : List Char) (tight : Tight rest)
  (noCounted : countedProbability.first? rest = none) (noPlain : plainProbability.first? rest = none)
  (noName : probabilityName.first? rest = none)

include noCounted noPlain noName in
theorem absent_steps : Rule.applyAll probabilityRules (rest, node) = .ok (rest, node) := by
  refine (Rule.apply_all_cons _ _ _ _ (once_absent _ _ _ rest node noCounted)).trans ?_
  refine (Rule.apply_all_cons _ _ _ _ (once_absent _ _ _ rest node noPlain)).trans ?_
  exact Rule.apply_all_cons _ _ _ _ (once_absent _ _ _ rest node noName)

include off tight

include noCounted noPlain in
theorem named_steps (name : String) (plain : Plain name) (noPercent : '%' ∉ name.toList) (noDecimal : ¬ IsDecimal name.toList) :
    Rule.applyAll probabilityRules ('《' :: (name.toList ++ ['%'] ++ ['》']) ++ rest, node) =
      .ok (rest, { node with body := { node.body with isProbability := true, probabilityExpression := name } }) := by
  have closed : '》' ∉ name.toList := plain.absent '》' (by decide)
  have single : '《' ∉ name.toList ++ ['%'] ++ ['》'] := by simpa using plain.absent '《' (by decide)
  have refusesCounted := counted_refuses _ closed noPercent ['%'] (.inr rfl) (by decide)
  have refusesPlain := plain_refuses _ closed noPercent ['%'] (.inr ⟨rfl, noDecimal⟩) (by decide)
  have kept : trimmedText name.toList = name := by rw [trimmedText, plain.trimmed, String.ofList_toList]
  refine (Rule.apply_all_cons _ _ _ _ (once_absent _ _ _ _ node
    (first_none_after _ opens_counted _ rest refusesCounted single noCounted))).trans ?_
  refine (Rule.apply_all_cons _ _ _ _ (once_absent _ _ _ _ node
    (first_none_after _ opens_plain _ rest refusesPlain single noPlain))).trans ?_
  rw [List.append_assoc]
  refine Rule.apply_all_cons _ _ _ _ (once_found _ _ _ _ rest _ node _ off (List.cons_ne_nil _ _)
    (reads_name _ plain.nonempty_list closed noPercent) tight ?_)
  rw [kept]

include noCounted noName in
theorem plain_steps (percent : Nat) (small : percent < 10 ^ 300) :
    Rule.applyAll probabilityRules ('《' :: (natText percent ++ ['%'] ++ ['》']) ++ rest, node) =
      .ok (rest, { node with body := { node.body with isProbability := true, probability := .whole percent } }) := by
  have single : '《' ∉ natText percent ++ ['%'] ++ ['》'] := by simpa using digits_lack percent '《' (by decide)
  have refusesCounted := counted_refuses _ (digits_lack percent '》' (by decide))
    (digits_lack percent '%' (by decide)) ['%'] (.inr rfl) (by decide)
  refine (Rule.apply_all_cons _ _ _ _ (once_absent _ _ _ _ node
    (first_none_after _ opens_counted _ rest refusesCounted single noCounted))).trans ?_
  rw [List.append_assoc]
  refine (Rule.apply_all_cons _ _ _ _ (once_found _ _ _ _ rest _ node _ off (List.cons_ne_nil _ _)
    (reads_plain percent) tight (set_probability_done _ percent small))).trans ?_
  exact Rule.apply_all_cons _ _ _ _ (once_absent _ _ _ rest _ noName)

include noPlain noName in
theorem counted_steps (percent times : Nat) (small : percent < 10 ^ 300) (few : times < 10 ^ 300) :
    Rule.applyAll probabilityRules ('《' :: (natText percent ++ ['%', ':'] ++ natText times ++ ['》']) ++ rest, node) =
      .ok (rest, { node with body := { node.body with
        isProbability := true, probability := .whole percent, maxCount := times } }) := by
  have reads := reads_counted percent times
  rw [show '《' :: (natText percent ++ '%' :: ':' :: (natText times ++ ['》'])) =
    '《' :: (natText percent ++ ['%', ':'] ++ natText times ++ ['》']) by simp] at reads
  refine (Rule.apply_all_cons _ _ _ _ (once_found _ _ _ _ rest _ node _ off (List.cons_ne_nil _ _) reads tight
    (set_counted_done _ percent times small few))).trans ?_
  refine (Rule.apply_all_cons _ _ _ _ (once_absent _ _ _ rest _ noPlain)).trans ?_
  exact Rule.apply_all_cons _ _ _ _ (once_absent _ _ _ rest _ noName)

include noCounted noPlain noName

theorem probability_steps (choice : Choice) (writable : WritableProbability choice) (noAmount : node.body.probability = .real .zero)
    (noCount : node.body.maxCount = 0) (noExpression : node.body.probabilityExpression = "") :
    Rule.applyAll probabilityRules (probabilityPiece choice ++ rest, node) =
      .ok (rest, node.updateBody (putProbability choice)) := by
  cases writable with
  | absent isOff amount count unnamed =>
      have unchanged : node.updateBody (putProbability choice) = node := by
        rw [NodeOf.updateBody, putProbability, isOff, amount, count, unnamed, ← off, ← noAmount, ← noCount, ← noExpression]
      have written : probabilityPiece choice = [] := by
        rw [probabilityPiece, probabilityTag, isOff]
        rfl
      rw [unchanged, written, List.nil_append]
      exact absent_steps node rest noCounted noPlain noName
  | expression on amount count plain noPercent noDecimal =>
      rw [piece_named choice on plain.nonempty, NodeOf.updateBody, putProbability, on, amount, count, ← noAmount, ← noCount]
      exact named_steps node off rest tight noCounted noPlain _ plain noPercent noDecimal
  | percentage on percent times amount count unnamed small few =>
      by_cases once : times = 0
      · have none : choice.maxCount = 0 := by rw [count, once, Int.natCast_zero]
        rw [piece_plain choice on unnamed percent amount none, NodeOf.updateBody, putProbability, on, amount, none, unnamed,
          ← noCount, ← noExpression]
        exact plain_steps node off rest tight noCounted noName percent small
      · rw [piece_counted choice on unnamed percent amount times count once, NodeOf.updateBody, putProbability, on, amount,
          count, unnamed, ← noExpression]
        exact counted_steps node off rest tight noPlain noName percent times small few

end Steps

end TaggedStory.Choice
