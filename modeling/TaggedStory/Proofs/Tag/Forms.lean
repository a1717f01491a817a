import TaggedStory.Proofs.Tag.Heads
/-!
Written effects that are read again. The written text has the name in front, the operator between blanks and the value
at its end, and the forms of effects are tried in a fixed order; so no sign that is tried before the own one may stand
where it would split the text.
-/
set_option autoImplicit false

namespace TaggedStory.Tag

open Text Scanner

def effectLead (effect : Effect) : List Char :=
  if effect.isAccumulative then ['A', ':'] else []

def effectTail (effect : Effect) : List Char :=
  if effect.value = "" then [] else ' ' :: effect.value.toList

def effectCore (effect : Effect) : List Char :=
  effect.name.toList ++ ' ' :: effect.operation.sign :: effectTail effect

def effectBody (effect : Effect) : List Char :=
  effectLead effect ++ effectCore effect

theorem effect_tag_body (effect : Effect) : (effectTag effect).toList = '<' :: (effectBody effect ++ ['>']) := by
  have symbol : effect.operation.symbol.toList = [effect.operation.sign] := by cases effect.operation <;> rfl
  simp only [effectTag, effectBody, effectLead, effectCore, effectTail]
  cases accumulative : effect.isAccumulative <;> by_cases empty : effect.value = "" <;>
    simp [empty, symbol]

section Names

theorem inner_part_range (c : Char) (inner : isInnerPart c = true) :
    48 ≤ c.toNat ∧ c.toNat ≤ 57 ∨ 65 ≤ c.toNat ∧ c.toNat ≤ 90 ∨ c.toNat = 95 ∨ 97 ≤ c.toNat ∧ c.toNat ≤ 122 ∨
      0x4e00 ≤ c.toNat ∧ c.toNat ≤ 0x9fa5 := by
  have lowLine : c = '_' → c.toNat = 95 := fun same => same ▸ rfl
  have alpha : c.isAlpha = (decide (65 ≤ c.val ∧ c.val ≤ 90) || (decide (97 ≤ c.val) && decide (c.val ≤ 122))) := rfl
  have digit : c.isDigit = (decide (48 ≤ c.val) && decide (c.val ≤ 57)) := rfl
  simp only [isInnerPart, isInnerLetter, alpha, digit, UInt32.le_iff_toNat_le, UInt32.reduceToNat, Char.toNat_val,
    Bool.or_eq_true, Bool.and_eq_true, decide_eq_true_eq, beq_iff_eq] at inner
  rcases inner with (((upper | lower) | same) | han) | digit
  · exact .inr (.inl upper)
  · exact .inr (.inr (.inr (.inl lower)))
  · exact .inr (.inr (.inl (lowLine same)))
  · exact .inr (.inr (.inr (.inr han)))
  · exact .inl digit

theorem inner_part_solid (c : Char) (inner : isInnerPart c = true) : isBlank c = false := by
  have range := inner_part_range c inner
  simp only [isBlank, Bool.or_eq_false_iff, Bool.and_eq_false_iff, decide_eq_false_iff_not, beq_eq_false_iff_ne]
  omega

theorem identifier_inner (text : List Char) (identifier : isIdentifier text = true) : ∀ c ∈ text, isInnerPart c = true := by
  cases text with
  | nil => cases identifier
  | cons c rest =>
      simp only [isIdentifier, Bool.and_eq_true, List.all_eq_true] at identifier
      intro d member
      rcases List.mem_cons.mp member with rfl | later
      · rw [isInnerPart, identifier.1, Bool.true_or]
      · exact identifier.2 d later

theorem identifier_head (text : List Char) (identifier : isIdentifier text = true) :
    ∃ c rest, text = c :: rest ∧ isInnerLetter c = true ∧ isBoundarySign c = false := by
  cases text with
  | nil => cases identifier
  | cons c rest =>
      simp only [isIdentifier, Bool.and_eq_true] at identifier
      refine ⟨c, rest, rfl, identifier.1, ?_⟩
      cases sign : isBoundarySign c with
      | false => rfl
      | true =>
          simp only [isBoundarySign, Bool.or_eq_true, beq_iff_eq, or_assoc] at sign
          rcases sign with rfl | rfl | rfl | rfl | rfl | rfl | rfl | rfl <;> exact absurd identifier.1 (by decide)

theorem identifier_lacks (text : List Char) (identifier : isIdentifier text = true) (c : Char) (outer : isInnerPart c = false) :
    c ∉ text := by
  intro member
  rw [identifier_inner text identifier c member] at outer
  cases outer

theorem identifier_named (text : List Char) (identifier : isIdentifier text = true) : isName text = true := by
  obtain ⟨c, rest, rfl, _, unsigned⟩ := identifier_head text identifier
  rw [isName, List.all_cons, unsigned]
  rfl

theorem identifier_headless (text : List Char) (identifier : isIdentifier text = true) :
    ∀ head ∈ heads, StateT.run head text = none := by
  intro head known
  by_contra found
  obtain ⟨⟨value, rest⟩, done⟩ := Option.ne_none_iff_exists'.mp found
  obtain ⟨piece, c, shape, isColon, _⟩ := heads_end head known _ rest value done
  have outer : isInnerPart c = false := by rcases isColon with rfl | rfl <;> decide
  exact identifier_lacks text identifier c outer (by rw [shape]; simp)

theorem inner_tight (text : List Char) (inner : ∀ c ∈ text, isInnerPart c = true) : Tight text ∧ '\n' ∉ text := by
  refine ⟨⟨fun c head => ?_, fun c last => ?_⟩, fun feed => ?_⟩
  · exact inner_part_solid c (inner c (List.mem_of_mem_head? head))
  · exact inner_part_solid c (inner c (List.mem_of_getLast? last))
  · cases inner '\n' feed

end Names

section Rates

theorem trim_right_solid (text : List Char) (c : Char) (last : text.getLast? = some c) (solid : isBlank c = false) :
    trimRight text = text := by
  rw [trimRight, (drop_blanks_unchanged text.reverse).mpr, List.reverse_reverse]
  intro d head
  rw [List.head?_reverse, last] at head
  exact Option.mem_some.mp head ▸ solid

theorem ends_otherwise (text : List Char) (c : Char) (last : text.getLast? = some c) (solid : isBlank c = false)
    (other : c ≠ 's') : endsPerSecond text = false := by
  rw [endsPerSecond, trim_right_solid text c last solid]
  have head : text.reverse.head? = some c := by rw [List.head?_reverse, last]
  cases shape : text.reverse with
  | nil => rfl
  | cons d rest =>
      rw [shape, List.head?_cons, Option.some.injEq] at head
      split
      · rename_i same
        rw [List.cons.injEq] at same
        exact absurd (head.symm.trans same.1) other
      · rfl

-- A rate at the end of a text is one at the end of its last piece, if the piece has room for it.
theorem rate_within (front piece : List Char) (tight : Tight piece) (two : 2 ≤ piece.length) :
    endsPerSecond (front ++ piece) = endsPerSecond piece := by
  obtain ⟨c, later, shape⟩ := List.exists_cons_of_length_pos (show 0 < piece.reverse.length by simp; omega)
  have filled : later ≠ [] := by
    rintro rfl
    have lengths := congrArg List.length shape
    rw [List.length_reverse, List.length_singleton] at lengths
    omega
  have last : piece.getLast? = some c := by rw [← List.head?_reverse, shape, List.head?_cons]
  have lastAll : (front ++ piece).getLast? = some c := by rw [List.getLast?_append, last, Option.some_or]
  have ends : later.getLast? = piece.head? := by
    have turned := congrArg List.getLast? shape
    rw [List.getLast?_reverse] at turned
    rw [turned, List.getLast?_cons, List.getLast?_eq_some_getLast filled]
    rfl
  have solid := tight.1 (later.getLast filled) (by rw [← ends, List.getLast?_eq_some_getLast filled]; rfl)
  have stays : later.dropWhile isBlank ≠ [] := by
    rw [ne_eq, List.dropWhile_eq_nil_iff]
    intro blank
    rw [blank _ (List.getLast_mem filled)] at solid
    cases solid
  by_cases second : c = 's'
  · have dropped : (later ++ front.reverse).dropWhile isBlank = later.dropWhile isBlank ++ front.reverse := by
      rw [List.dropWhile_append, if_neg (by simpa using stays)]
    rw [endsPerSecond, endsPerSecond, trim_right_solid _ c lastAll (tight.2 c last), trim_right_solid _ c last (tight.2 c last),
      List.reverse_append, shape, List.cons_append, second]
    simp only [dropped, List.head?_append, List.head?_eq_some_head stays, Option.some_or]
  · rw [ends_otherwise _ c lastAll (tight.2 c last) second, ends_otherwise _ c last (tight.2 c last) second]

theorem rate_single (front gap : List Char) (c d : Char) (blank : ∀ x ∈ gap, isBlank x = true) (first : isBlank c = false)
    (second : isBlank d = false) : endsPerSecond (front ++ c :: (gap ++ [d])) = (c == '/' && d == 's') := by
  have last : (front ++ c :: (gap ++ [d])).getLast? = some d := by
    rw [← List.cons_append, ← List.append_assoc, List.getLast?_concat]
  by_cases seconds : d = 's'
  · have dropped : (gap.reverse ++ c :: front.reverse).dropWhile isBlank = c :: front.reverse := by
      rw [List.dropWhile_append_of_pos fun x member => blank x (List.mem_reverse.mp member),
        List.dropWhile_cons_of_neg (by simp [first])]
    have turned : (front ++ c :: (gap ++ [d])).reverse = 's' :: (gap.reverse ++ c :: front.reverse) := by simp [seconds]
    rw [endsPerSecond, trim_right_solid _ d last second, turned]
    simp [dropped, seconds]
  · rw [ends_otherwise _ d last second seconds, beq_false_of_ne seconds, Bool.and_false]

theorem no_rate_without_stroke (text : List Char) (noStroke : '/' ∉ text) : endsPerSecond text = false := by
  by_contra rate
  rw [Bool.not_eq_false, endsPerSecond] at rate
  cases shape : (trimRight text).reverse with
  | nil =>
      rw [shape] at rate
      cases rate
  | cons c rest =>
      have within : rest.dropWhile isBlank ⊆ text := by
        intro d member
        have inside : d ∈ (trimRight text).reverse := by
          rw [shape]
          exact List.mem_cons_of_mem c ((List.dropWhile_sublist _).subset member)
        rw [trimRight, List.reverse_reverse] at inside
        exact List.mem_reverse.mp ((List.dropWhile_sublist _).subset inside)
      by_cases second : c = 's'
      · rw [shape, second] at rate
        exact noStroke (within (List.mem_of_mem_head? (by simpa using rate)))
      · simp [shape, second] at rate

-- Behind a solid character and blanks, a piece without strokes makes a rate only as the unit of one.
theorem rate_behind (front gap piece : List Char) (c : Char) (blank : ∀ x ∈ gap, isBlank x = true) (solid : isBlank c = false)
    (filled : piece ≠ []) (tight : Tight piece) (noStroke : '/' ∉ piece) :
    endsPerSecond (front ++ c :: (gap ++ piece)) = (c == '/' && piece == ['s']) := by
  obtain ⟨d, more, rfl⟩ := List.exists_cons_of_ne_nil filled
  cases more with
  | nil =>
      rw [rate_single front gap c d blank solid (tight.1 d rfl)]
      simp
  | cons e more =>
      have ends := rate_within (front ++ c :: gap) _ tight (by simp)
      rw [no_rate_without_stroke _ noStroke, List.append_assoc, List.cons_append] at ends
      rw [ends]
      simp

end Rates

section Spelling

theorem sign_solid (operation : Operation) : isBlank operation.sign = false := by
  cases operation <;> decide

theorem sign_known (operation : Operation) : operation.sign ∈ ['=', '+', '-', '*', '/'] := by
  cases operation <;> decide

theorem operation_sign_reads (accepts : Operation → Bool) (operation : Operation)
    (accepted : accepts operation = true) (rest : List Char) :
    StateT.run (operationSign accepts) (operation.sign :: rest) = some (operation, rest) := by
  have known : Operation.ofSign? operation.sign = some operation := by cases operation <;> rfl
  change operationSign accepts (operation.sign :: rest) = _
  rw [operationSign, known]
  simp only [accepted, if_true]

theorem operation_spaced (accepts : Operation → Bool) (value? : List Char → Option (List Char)) (operation : Operation)
    (accepted : accepts operation = true) (rest : List Char) :
    operation? (operationSign accepts) value? (' ' :: operation.sign :: rest) =
      (value? rest).map fun value => (operation, value) := by
  have moved : trimLeft (' ' :: operation.sign :: rest) = operation.sign :: rest :=
    trim_left_gap [' '] _ (by decide) (by cases operation <;> simp [Operation.sign] <;> decide)
  rw [operation?, moved, operation_sign_reads accepts operation accepted]

theorem tail_head (effect : Effect) : ∀ c ∈ (effectTail effect).head?, c ≠ '=' := by
  intro c head
  rw [effectTail] at head
  by_cases empty : effect.value = ""
  · rw [if_pos empty] at head
    cases head
  · rw [if_neg empty, List.head?_cons, Option.mem_some] at head
    exact fun same => absurd (head.trans same) (by decide)

theorem sign_injective (operation other : Operation) (same : operation.sign = other.sign) : operation = other := by
  revert same
  cases operation <;> cases other <;> decide

theorem operation_spelled (accepts : Operation → Bool) :
    Spelled (operationSign accepts) (fun operation => [operation.sign]) fun operation => accepts operation = true := by
  refine ⟨fun text rest found => ?_, fun found rest => ?_⟩
  · constructor
    · intro done
      change operationSign accepts text = _ at done
      cases text with
      | nil => cases done
      | cons c text =>
          rw [operationSign] at done
          cases known : Operation.ofSign? c with
          | none =>
              rw [known] at done
              cases done
          | some operation =>
              have sign : operation.sign = c := by simpa using List.find?_some known
              rw [known] at done
              by_cases accepted : accepts operation = true
              · simp only [accepted, if_true, Option.some.injEq, Prod.mk.injEq] at done
                exact ⟨done.1 ▸ accepted, by rw [← done.1, sign, ← done.2, List.singleton_append]⟩
              · simp only [accepted, Bool.false_eq_true, if_false] at done
                cases done
    · rintro ⟨accepted, rfl⟩
      exact operation_sign_reads accepts found accepted rest
  · simpa using sign_solid found

theorem compound_spelled :
    Spelled compoundSign (fun operation => [operation.sign, '=']) fun operation => operation ≠ .set := by
  refine ⟨fun text rest found => ?_, fun found rest => ?_⟩
  · constructor
    · intro done
      obtain ⟨operation, middle, first, done⟩ := (bind_succeeds _ _ _ _ _).mp done
      obtain ⟨_, shape, done⟩ := char_then done
      obtain ⟨rfl, rfl⟩ := (pure_succeeds _ _ _ _).mp done
      obtain ⟨accepted, rfl⟩ := ((operation_spelled _).run _ _ _).mp first
      exact ⟨by simpa using accepted, by rw [shape]; rfl⟩
    · rintro ⟨accepted, rfl⟩
      refine (bind_succeeds _ _ _ _ _).mpr ⟨found, '=' :: rest, ?_, rfl⟩
      exact operation_sign_reads _ found (decide_eq_true accepted) _
  · simpa using sign_solid found

end Spelling

-- The operations that are tried before.
def earlier (operation : Operation) : List Operation :=
  Operation.all.takeWhile (· ≠ operation)

-- The operations whose signs would split the name.
def tried (effect : Effect) : List Operation :=
  if effect.value = "" then Operation.all else earlier effect.operation ++ [effect.operation]

-- What a written effect needs to be read again.
structure RecoverableEffect (effect : Effect) : Prop where
  headless : effect.style = .normal → ∀ head ∈ heads, StateT.run head effect.name.toList = none
  noRate : effect.operation = .divide → effect.value ≠ "s"
  upright : effect.name.toList.head? ≠ some '='
  name : ∀ front rest (operation : Operation), effect.name.toList = front ++ operation.sign :: rest → front ≠ [] → operation ∉ tried effect
  value : ∀ front rest (operation : Operation), effect.value.toList = front ++ operation.sign :: rest → rest ≠ [] →
    operation ∉ earlier effect.operation
  single : ∀ front rest (operation : Operation), effect.value.toList = front ++ operation.sign :: '=' :: rest → operation = .set

-- What every effect has that was read from a text.
structure ReadEffect (effect : Effect) : Prop where
  named : isName effect.name.toList = true
  tight : Tight effect.name.toList
  inline : '\n' ∉ effect.name.toList
  tightValue : Tight effect.value.toList
  inlineValue : '\n' ∉ effect.value.toList
  noRate : 2 ≤ effect.value.toList.length → endsPerSecond effect.value.toList = false

-- A solid character of the written effect stands in the name, is the operator or stands in the value.
theorem core_places (effect : Effect) (front rest : List Char) (c : Char) (solid : isBlank c = false)
    (same : effectCore effect = front ++ c :: rest) :
    (∃ more, effect.name.toList = front ++ c :: more ∧ rest = more ++ ' ' :: effect.operation.sign :: effectTail effect) ∨
      front = effect.name.toList ++ [' '] ∧ c = effect.operation.sign ∧ rest = effectTail effect ∨
      ∃ left, front = effect.name.toList ++ ' ' :: effect.operation.sign :: ' ' :: left ∧ effect.value.toList = left ++ c :: rest := by
  have notBlank : c ≠ ' ' := by
    rintro rfl
    cases solid
  rcases List.append_eq_append_iff.mp same with ⟨more, behind, after⟩ | ⟨more, inside, after⟩
  · cases more with
    | nil => exact absurd (List.cons.inj after).1.symm notBlank
    | cons d more =>
        obtain ⟨rfl, beyond⟩ := List.cons.inj after
        cases more with
        | nil =>
            obtain ⟨sign, tail⟩ := List.cons.inj beyond
            exact .inr (.inl ⟨behind, sign.symm, tail.symm⟩)
        | cons e more =>
            obtain ⟨rfl, tail⟩ := List.cons.inj beyond
            rw [effectTail] at tail
            by_cases empty : effect.value = ""
            · rw [if_pos empty] at tail
              cases more <;> cases tail
            · rw [if_neg empty] at tail
              cases more with
              | nil => exact absurd (List.cons.inj tail).1.symm notBlank
              | cons f more =>
                  obtain ⟨rfl, value⟩ := List.cons.inj tail
                  exact .inr (.inr ⟨more, behind, value⟩)
  · cases more with
    | nil => exact absurd (List.cons.inj after).1 notBlank
    | cons d more =>
        obtain ⟨rfl, rest⟩ := List.cons.inj after
        exact .inl ⟨more, inside, rest⟩

theorem earlier_other (operation : Operation) : operation ∉ earlier operation := by
  cases operation <;> decide

theorem set_tried (effect : Effect) : Operation.set ∈ tried effect := by
  rw [tried]
  split
  · decide
  · cases effect.operation <;> decide

theorem name_filled (effect : Effect) (read : ReadEffect effect) : effect.name.toList ≠ [] := by
  intro empty
  have named := read.named
  rw [empty] at named
  cases named

section Reading

variable (effect : Effect) (recoverable : RecoverableEffect effect)

include recoverable

-- A sign that is tried stands behind the name, if it does not begin the written text.
theorem sign_places (front after : List Char) (operation : Operation) (filled : front ≠ []) (before : operation ∈ tried effect)
    (same : effectCore effect = front ++ operation.sign :: after) :
    front = effect.name.toList ++ [' '] ∧ operation = effect.operation ∧ after = effectTail effect ∨
      ∃ left, front = effect.name.toList ++ ' ' :: effect.operation.sign :: ' ' :: left ∧
        effect.value.toList = left ++ operation.sign :: after := by
  rcases core_places effect front after _ (sign_solid operation) same with ⟨more, inside, _⟩ | ⟨behind, sign, tail⟩ | inValue
  · exact absurd before (recoverable.name front more operation inside filled)
  · exact .inl ⟨behind, sign_injective _ _ sign, tail⟩
  · exact .inr inValue

theorem compound_absent : split? compoundSign valueOrNone? (effectCore effect) = none := by
  refine split_none compound_spelled valueOrNone? _ fun front after found filled compound same => ?_
  exfalso
  rcases core_places effect front ('=' :: after) found.sign (sign_solid found) same with
    ⟨more, inside, rest⟩ | ⟨_, _, tail⟩ | ⟨left, _, inside⟩
  · cases more with
    | nil => exact absurd (List.cons.inj rest).1 (by decide)
    | cons c more =>
        obtain ⟨rfl, _⟩ := List.cons.inj rest
        refine recoverable.name (front ++ [found.sign]) more .set ?_ (by simp) (set_tried effect)
        rw [inside, List.append_assoc]
        rfl
  · exact tail_head effect '=' (by rw [← tail]; rfl) rfl
  · exact compound (recoverable.single left after found inside)

theorem earlier_absent (filled : effect.value ≠ "") :
    ∀ operation ∈ earlier effect.operation, split? (operationSign (· = operation)) value? (effectCore effect) = none := by
  intro operation before
  refine split_none (operation_spelled _) value? _ fun front after found filledFront accepted same => ?_
  obtain rfl : found = operation := by simpa using accepted
  have known : found ∈ tried effect := by
    rw [tried, if_neg filled]
    exact List.mem_append_left _ before
  rcases sign_places effect recoverable front after found filledFront known same with ⟨_, own, _⟩ | ⟨left, _, inside⟩
  · exact absurd (own ▸ before) (earlier_other effect.operation)
  · have nothing : after = [] := by
      by_contra something
      exact recoverable.value left after found inside something before
    rw [nothing]
    rfl

theorem none_single (empty : effect.value = "") (operation : Operation) :
    split? (operationSign (· = operation)) value? (effectCore effect) = none := by
  refine split_none (operation_spelled _) value? _ fun front after found filledFront _ same => ?_
  have known : found ∈ tried effect := by
    rw [tried, if_pos empty]
    cases found <;> decide
  rcases sign_places effect recoverable front after found filledFront known same with ⟨_, _, tail⟩ | ⟨left, _, inside⟩
  · rw [tail, effectTail, if_pos empty]
    rfl
  · rw [empty] at inside
    simp at inside

variable (read : ReadEffect effect)

include read

theorem own_found (filled : effect.value ≠ "") : split? (operationSign (· = effect.operation)) value? (effectCore effect) =
    some ⟨effect.name.toList, effect.operation, effect.value.toList⟩ := by
  have something : effect.value.toList ≠ [] := by simpa using filled
  have value : value? (effectTail effect) = some effect.value.toList := by
    have inline : '\n' ∉ ' ' :: effect.value.toList := by simpa using read.inlineValue
    rw [effectTail, if_neg filled, value_inline _ (List.cons_ne_nil _ _) inline]
    change some (trim effect.value.toList) = _
    rw [trim_tight _ read.tightValue]
  refine split_written (operation_spelled _) value? _ _ _ _ (name_filled effect read) read.tight read.inline ?_ ?_
  · rw [operation_spaced _ _ _ (decide_eq_true rfl), value, Option.map_some]
  · intro front after other filledFront accepted same
    obtain rfl : other = effect.operation := by simpa using accepted
    have known : effect.operation ∈ tried effect := by
      rw [tried, if_neg filled]
      simp
    rcases sign_places effect recoverable front after effect.operation filledFront known same with ⟨rfl, _⟩ | ⟨left, rfl, _⟩
    · exact List.prefix_append _ _
    · exact List.prefix_append _ _

theorem trailing_found (empty : effect.value = "") : split? (operationSign fun _ => true) nothing? (effectCore effect) =
    some ⟨effect.name.toList, effect.operation, []⟩ := by
  refine split_written (operation_spelled _) nothing? _ _ _ _ (name_filled effect read) read.tight read.inline ?_ ?_
  · rw [operation_spaced _ _ _ rfl, effectTail, if_pos empty]
    rfl
  · intro front after other filledFront _ same
    have known : other ∈ tried effect := by
      rw [tried, if_pos empty]
      cases other <;> decide
    rcases sign_places effect recoverable front after other filledFront known same with ⟨rfl, _⟩ | ⟨left, rfl, _⟩
    · exact List.prefix_append _ _
    · exact List.prefix_append _ _

theorem core_read : unstyled? effect.style (effectCore effect) = some effect := by
  have upright : inverted? (effectCore effect) = none := by
    obtain ⟨c, rest, shape⟩ := List.exists_cons_of_ne_nil (name_filled effect read)
    have other := recoverable.upright
    rw [shape, List.head?_cons, ne_eq, Option.some.injEq] at other
    rw [effectCore, shape, List.cons_append, inverted?]
    exact fun after same => other (List.cons.inj same).1
  rw [unstyled?, upright]
  simp only [compound_absent effect recoverable, partsEffect?, Option.bind_none]
  by_cases empty : effect.value = ""
  · have none : singleForms? effect.style (effectCore effect) = none := by
      rw [singleForms?, List.findSome?_eq_none_iff]
      intro operation _
      rw [none_single effect recoverable empty operation]
      rfl
    simp only [none, trailingOrBare?, trailing_found effect recoverable read empty, effectOf?, read.named, if_true, String.ofList_toList]
    rw [show String.ofList [] = effect.value from empty.symm]
  · have own : singleForms? effect.style (effectCore effect) = some effect := by
      refine (find_some_iff _ _ _).mpr ⟨effect.operation, by cases effect.operation <;> decide, ?_, fun other before => ?_⟩
      · rw [own_found effect recoverable read empty, partsEffect?, Option.bind_some, effectOf?, if_pos read.named,
          String.ofList_toList, String.ofList_toList]
      · rw [earlier_absent effect recoverable empty other before]
        rfl
    rw [own]

omit recoverable in
theorem core_is_tight : Tight (effectCore effect) := by
  refine tight_joined _ _ (name_filled effect read) (List.cons_ne_nil _ _) read.tight.1 fun c last => ?_
  rw [effectTail] at last
  by_cases empty : effect.value = ""
  · rw [if_pos empty] at last
    obtain rfl : effect.operation.sign = c := by simpa using last
    exact sign_solid _
  · have something : effect.value.toList ≠ [] := by simpa using empty
    rw [if_neg empty] at last
    simp only [List.getLast?_cons, List.getLast?_eq_some_getLast something, Option.getD_some] at last
    exact read.tightValue.2 c (by rw [List.getLast?_eq_some_getLast something]; exact last)

omit recoverable in
theorem body_is_tight : Tight (effectBody effect) := by
  refine tight_append _ _ ?_ (core_is_tight effect read)
  rw [effectLead]
  cases effect.isAccumulative <;> exact ⟨by decide, by decide⟩

theorem no_rate_again (lead : List Char) : endsPerSecond (lead ++ effectCore effect) = false := by
  rw [effectCore, effectTail]
  by_cases empty : effect.value = ""
  · rw [if_pos empty]
    exact ends_otherwise _ effect.operation.sign (by simp) (sign_solid effect.operation)
      (by cases effect.operation <;> decide)
  rw [if_neg empty]
  obtain ⟨c, more, shape⟩ := List.exists_cons_of_ne_nil (show effect.value.toList ≠ [] by simpa using empty)
  cases more with
  | nil =>
      -- The only stroke that could precede is the operator.
      have solid := read.tightValue.1 c (by rw [shape]; rfl)
      have ends := rate_single (lead ++ effect.name.toList ++ [' ']) [' '] effect.operation.sign c (by decide)
        (sign_solid effect.operation) solid
      rw [shape]
      simp only [List.append_assoc, List.singleton_append] at ends
      refine ends.trans ?_
      by_contra rate
      simp only [Bool.not_eq_false, Bool.and_eq_true, beq_iff_eq] at rate
      refine recoverable.noRate (sign_injective _ .divide rate.1) (String.toList_inj.mp ?_)
      rw [shape, rate.2]
      rfl
  | cons d more =>
      have two : 2 ≤ effect.value.toList.length := by rw [shape]; simp
      have ends := rate_within (lead ++ effect.name.toList ++ [' ', effect.operation.sign, ' ']) _ read.tightValue two
      rw [read.noRate two] at ends
      simpa using ends

omit read in
theorem core_headless (normal : effect.style = .normal) : ∀ head ∈ heads, StateT.run head (effectCore effect) = none := by
  intro head known
  by_contra found
  exact head_of_name head known _ (effectTail effect) effect.operation found (recoverable.headless normal head known)

theorem no_setting_again : isNoEffect (effectBody effect) = false := by
  rw [isNoEffect, effectBody, no_rate_again effect recoverable read, effectLead, Effect.isAccumulative]
  cases style : effect.style with
  | normal =>
      have headless := core_headless effect recoverable style
      have global := headless globalLimit (by simp [heads])
      have default := headless defaultLimit (by simp [heads])
      have sound := headless soundSetting (by simp [heads])
      simp [show (Style.normal == Style.accumulative) = false from rfl, global, default, sound]
  | accumulative => rfl

theorem style_again : takeStyle (effectBody effect) = (effect.style, effectCore effect) := by
  rw [takeStyle, effectBody, effectLead, Effect.isAccumulative]
  cases style : effect.style with
  | normal =>
      have headless := core_headless effect recoverable style accumulativeMark (by simp [heads])
      simp only [show (Style.normal == Style.accumulative) = false from rfl, Bool.false_eq_true, if_false, List.nil_append, headless]
  | accumulative =>
      change (Style.accumulative, trim (effectCore effect)) = _
      rw [trim_tight _ (core_is_tight effect read)]

theorem body_again : effect? (effectBody effect) = some effect := by
  rw [effect?]
  simp only [trim_tight _ (body_is_tight effect read), no_setting_again effect recoverable read, Bool.false_eq_true, if_false,
    style_again effect recoverable read, core_read effect recoverable read]

end Reading

end TaggedStory.Tag
