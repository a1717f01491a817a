import TaggedStory.Proofs.Tag.Lone
import TaggedStory.Proofs.Tag.Rewritten
/-!
Effects as they may be typed, in each of their forms and with any blanks between and around their parts. The signs of the
operator stand in one place only, so that each form is told from the others by its signs alone.
-/
set_option autoImplicit false

namespace TaggedStory.Tag

open Text Scanner

def effectSigns : List Char := ['=', '+', '-', '*', '/']

-- The parts of an effect and the gaps between and around them.
structure SpacedEffect where
  style : Style
  name : List Char
  value : List Char
  before : List Char
  mark : List Char
  inner : List Char
  left : List Char
  right : List Char
  after : List Char

namespace SpacedEffect

def lead (spaced : SpacedEffect) : List Char :=
  match spaced.style with
  | .normal => []
  | .accumulative => 'A' :: (spaced.mark ++ ':' :: spaced.inner)

def text (spaced : SpacedEffect) (core : List Char) : List Char :=
  spaced.before ++ ((spaced.lead ++ core) ++ spaced.after)

def signed (spaced : SpacedEffect) (symbol rest : List Char) : List Char :=
  (spaced.name ++ spaced.left) ++ (symbol ++ rest)

def filled (spaced : SpacedEffect) (symbol : List Char) : List Char :=
  spaced.signed symbol (spaced.right ++ spaced.value)

def inverted (spaced : SpacedEffect) : List Char :=
  '=' :: (spaced.right ++ spaced.name)

def effect (spaced : SpacedEffect) (operation : Operation) (value : List Char) : Effect :=
  ⟨String.ofList spaced.name, operation, String.ofList value, spaced.style⟩

structure Readable (spaced : SpacedEffect) : Prop where
  identifier : isIdentifier spaced.name = true
  valued : Operand effectSigns spaced.value
  blank : ∀ gap ∈ [spaced.before, spaced.mark, spaced.inner, spaced.left, spaced.right, spaced.after], ∀ c ∈ gap, isBlank c = true

theorem operation_signs (c : Char) (sign : c ∈ effectSigns) :
    isBlank c = false ∧ isInnerPart c = false ∧ isSettingSign c = false ∧ c ≠ ':' ∧ c ≠ '：' := by
  revert c
  decide

variable (spaced : SpacedEffect)

namespace Readable

variable {spaced} (readable : spaced.Readable)

include readable

theorem name_operand : Operand effectSigns spaced.name := by
  obtain ⟨c, rest, shape, _⟩ := identifier_head _ readable.identifier
  have inner := inner_tight _ (identifier_inner _ readable.identifier)
  refine ⟨by simp [shape], inner.1, inner.2, fun c sign => ?_⟩
  exact identifier_lacks _ readable.identifier c (operation_signs c sign).2.1

theorem front_clear : (∀ c ∈ effectSigns, c ∉ spaced.name ++ spaced.left) ∧ ∀ c ∈ spaced.name ++ spaced.left, c ≠ ':' ∧ c ≠ '：' := by
  have blankLeft := readable.blank spaced.left (by simp)
  refine ⟨fun c sign => ?_, fun c member => ?_⟩
  · have solid := (operation_signs c sign).1
    simp [readable.name_operand.unsigned c sign, blank_lacks _ blankLeft c solid]
  · constructor <;> rintro rfl <;> rcases List.mem_append.mp member with inside | inside
    · exact identifier_lacks _ readable.identifier _ (by decide) inside
    · exact blank_lacks _ blankLeft _ (by decide) inside
    · exact identifier_lacks _ readable.identifier _ (by decide) inside
    · exact blank_lacks _ blankLeft _ (by decide) inside

theorem value_clear : ∀ c ∈ effectSigns, c ∉ spaced.right ++ spaced.value := by
  intro c sign
  simp [blank_lacks _ (readable.blank spaced.right (by simp)) c (operation_signs c sign).1, readable.valued.unsigned c sign]

theorem alone (symbol rest : List Char) (something : symbol ≠ []) (known : ∀ c ∈ symbol, c ∈ effectSigns)
    (clear : ∀ c ∈ effectSigns, c ∉ rest) : Lone effectSigns (spaced.name ++ spaced.left) symbol rest :=
  ⟨something, known, readable.front_clear.1, clear⟩

end Readable

section Marks

variable (readable : spaced.Readable) (core : List Char) (something : core ≠ []) (tight : Tight core)
variable (headless : ∀ head ∈ heads, StateT.run head core = none)

include readable something tight

theorem trim_text : trim (spaced.text core) = spaced.lead ++ core := by
  have led : Tight (spaced.lead ++ core) := by
    rw [lead]
    cases spaced.style with
    | normal => exact tight
    | accumulative => exact tight_joined _ core (List.cons_ne_nil _ _) something (by simp; decide) tight.2
  exact trim_between _ _ _ (List.append_ne_nil_of_right_ne_nil _ something) led (readable.blank _ (by simp)) (readable.blank _ (by simp))

include headless

omit readable something tight in
theorem no_setting : isNoEffect (spaced.lead ++ core) = endsPerSecond (spaced.lead ++ core) := by
  rw [isNoEffect, lead]
  cases spaced.style with
  | accumulative => rfl
  | normal =>
      simp only [heads, List.forall_mem_cons] at headless
      obtain ⟨global, default, sound, _⟩ := headless
      simp [global, default, sound]

theorem style_taken : takeStyle (spaced.lead ++ core) = (spaced.style, core) := by
  rw [takeStyle, lead]
  cases spaced.style with
  | normal =>
      simp only [heads, List.forall_mem_cons] at headless
      simp only [List.nil_append, headless.2.2.2.1]
  | accumulative =>
      have marked : StateT.run accumulativeMark ('A' :: (spaced.mark ++ ':' :: spaced.inner) ++ core) =
          some ((), spaced.inner ++ core) := by
        rw [accumulativeMark, List.cons_append, List.append_assoc, List.cons_append, StateT.run_bind,
          show ∀ rest, StateT.run (char 'A') ('A' :: rest) = some ((), rest) from reads_char 'A']
        change StateT.run (blanks >>= fun _ => colon) _ = _
        rw [StateT.run_bind, run_gap spaced.mark ':' _ (readable.blank _ (by simp)) (by decide)]
        rfl
      have trimmed : trim (spaced.inner ++ core) = core := by
        simpa using trim_between spaced.inner core [] something tight (readable.blank _ (by simp)) (by simp)
      simp only [marked, trimmed]

-- What stands behind the mark is read alone, if the text does not end in a rate.
theorem read_core : effect? (spaced.text core) =
    if endsPerSecond (spaced.lead ++ core) then none else unstyled? spaced.style core := by
  simp only [effect?, trim_text spaced readable core something tight, no_setting spaced core headless,
    style_taken spaced readable core something tight headless]

end Marks

section Signed

variable (readable : spaced.Readable) (symbol rest : List Char) (something : symbol ≠ []) (known : ∀ c ∈ symbol, c ∈ effectSigns)

include readable

theorem signed_upright : inverted? (spaced.signed symbol rest) = none := by
  obtain ⟨c, more, shape, _, unsigned⟩ := identifier_head _ readable.identifier
  rw [signed, shape]
  refine unled_upright fun d head => ?_
  obtain rfl : c = d := by simpa using head
  exact unsigned

include something known

theorem signed_headless : ∀ head ∈ heads, StateT.run head (spaced.signed symbol rest) = none := by
  intro head member
  obtain ⟨c, more, rfl⟩ := List.exists_cons_of_ne_nil something
  obtain ⟨_, _, outer, other⟩ := operation_signs c (known c List.mem_cons_self)
  exact stops_refuses isSettingSign head (heads_stop head member) _ _ c readable.front_clear.2 outer other

theorem signed_tight (solid : ∀ c ∈ rest.getLast?, isBlank c = false) : Tight (spaced.signed symbol rest) := by
  have named := readable.name_operand
  refine tight_joined _ _ (by simp [named.filled]) (by simp [something]) ?_ fun c last => ?_
  · rw [List.head?_append_of_ne_nil _ named.filled]
    exact named.tight.1
  · by_cases empty : rest = []
    · rw [empty, List.append_nil] at last
      exact (operation_signs c (known c (List.mem_of_getLast? last))).1
    · rw [List.getLast?_append_of_ne_nil _ empty] at last
      exact solid c last

end Signed

theorem sign_listed (operation : Operation) : ∀ c ∈ [operation.sign], c ∈ effectSigns := by
  cases operation <;> decide

theorem compound_listed (operation : Operation) : ∀ c ∈ [operation.sign, '='], c ∈ effectSigns := by
  cases operation <;> decide

theorem signs_apart (operation other : Operation) (different : other ≠ operation) : ¬ [other.sign] <:+: [operation.sign] := by
  intro within
  have same := within.eq_of_length rfl
  exact different (sign_injective other operation (List.cons.inj same).1)

section Forms

variable (readable : spaced.Readable) (operation : Operation)

include readable

theorem single_alone (rest : List Char) (clear : ∀ c ∈ effectSigns, c ∉ rest) :
    Lone effectSigns (spaced.name ++ spaced.left) [operation.sign] rest :=
  readable.alone _ rest (List.cons_ne_nil _ _) (sign_listed operation) clear

theorem no_compound (rest : List Char) (clear : ∀ c ∈ effectSigns, c ∉ rest) :
    split? compoundSign valueOrNone? (spaced.signed [operation.sign] rest) = none := by
  refine lone_none compound_spelled valueOrNone? compound_listed _ _ rest (single_alone spaced readable operation rest clear) ?_
  intro other _ within
  have longer := within.length_le
  simp at longer

theorem no_other_sign (rest : List Char) (clear : ∀ c ∈ effectSigns, c ∉ rest) (other : Operation) (different : other ≠ operation) :
    split? (operationSign (· = other)) value? (spaced.signed [operation.sign] rest) = none := by
  refine lone_none (operation_spelled _) value? sign_listed _ _ rest (single_alone spaced readable operation rest clear) ?_
  intro found accept
  obtain rfl : found = other := by simpa using accept
  exact signs_apart operation found different

theorem effect_named (value : List Char) :
    effectOf? spaced.style spaced.name operation value = some (spaced.effect operation value) := by
  rw [effectOf?, if_pos (identifier_named _ readable.identifier), effect]

theorem read_single : unstyled? spaced.style (spaced.filled [operation.sign]) =
    some (spaced.effect operation spaced.value) := by
  have clear := readable.value_clear
  have read := (value_between spaced.right spaced.value [] readable.valued.filled readable.valued.tight
    (by simpa using readable.valued.inline) (readable.blank _ (by simp)) (by simp)).2
  have split := lone_split (operation_spelled (· = operation)) value? sign_listed [] spaced.name spaced.left _ spaced.value operation
    readable.name_operand (by simp) (by simp) (readable.blank _ (by simp)) (single_alone spaced readable operation _ clear)
    (decide_eq_true rfl) (fun _ => rfl) (by simpa using read)
  have own : singleForms? spaced.style (spaced.filled [operation.sign]) =
      some (spaced.effect operation spaced.value) := by
    refine (find_some_iff _ _ _).mpr ⟨operation, by cases operation <;> decide, ?_, fun other before => ?_⟩
    · rw [filled, signed, List.append_assoc]
      rw [List.nil_append] at split
      rw [split, partsEffect?, Option.bind_some, effect_named spaced readable]
    · have different : other ≠ operation := fun same => earlier_other operation (same ▸ before)
      rw [filled, no_other_sign spaced readable operation _ clear other different]
      rfl
  rw [unstyled?, filled, signed_upright spaced readable]
  simp only [no_compound spaced readable operation _ clear, partsEffect?, Option.bind_none]
  rw [← filled, own]

theorem read_compound (other : operation ≠ .set) : unstyled? spaced.style (spaced.filled [operation.sign, '=']) =
    some (spaced.effect operation spaced.value) := by
  have read := (value_between spaced.right spaced.value [] readable.valued.filled readable.valued.tight
    (by simpa using readable.valued.inline) (readable.blank _ (by simp)) (by simp)).1
  have split := lone_split compound_spelled valueOrNone? compound_listed [] spaced.name spaced.left _ spaced.value operation
    readable.name_operand (by simp) (by simp) (readable.blank _ (by simp))
    (readable.alone _ _ (List.cons_ne_nil _ _) (compound_listed operation) readable.value_clear) other (fun _ => rfl) (by simpa using read)
  have whole : split? compoundSign valueOrNone? (spaced.filled [operation.sign, '=']) =
      some ⟨spaced.name, operation, spaced.value⟩ := by
    rw [filled, signed, List.append_assoc]
    exact split
  rw [unstyled?, filled, signed_upright spaced readable, ← filled]
  simp only [whole, partsEffect?, Option.bind_some, effect_named spaced readable]

theorem read_trailing : unstyled? spaced.style (spaced.signed [operation.sign] []) =
    some (spaced.effect operation []) := by
  have lone := single_alone spaced readable operation [] (by simp)
  have singles : singleForms? spaced.style (spaced.signed [operation.sign] []) = none := by
    refine List.findSome?_eq_none_iff.mpr fun other _ => ?_
    have missing : split? (operationSign (· = other)) value? (spaced.signed [operation.sign] []) = none := by
      refine split_none (operation_spelled _) value? _ fun front after found _ _ same => ?_
      have alike := (lone.within front _ after (sign_listed found) same).eq_of_length rfl
      rw [signed, alike] at same
      rw [(lone.place front after same).2]
      rfl
    rw [missing]
    rfl
  have split := lone_split (operation_spelled fun _ => true) nothing? sign_listed [] spaced.name spaced.left [] [] operation
    readable.name_operand (by simp) (by simp) (readable.blank _ (by simp)) lone rfl (fun _ => rfl) rfl
  have whole : split? (operationSign fun _ => true) nothing? (spaced.signed [operation.sign] []) =
      some ⟨spaced.name, operation, []⟩ := by
    rw [signed, List.append_assoc]
    exact split
  rw [unstyled?, signed_upright spaced readable]
  simp only [no_compound spaced readable operation [] (by simp), partsEffect?, Option.bind_none, singles, trailingOrBare?, whole]
  exact effect_named spaced readable operation []

theorem read_inverted : unstyled? spaced.style spaced.inverted = some (spaced.effect .set []) := by
  have named := readable.name_operand
  have read := (value_between spaced.right spaced.name [] named.filled named.tight (by simpa using named.inline)
    (readable.blank _ (by simp)) (by simp)).2
  rw [List.append_nil] at read
  rw [unstyled?, inverted, inverted?, read]
  exact effect_named spaced readable .set []

theorem read_bare : unstyled? spaced.style spaced.name = some (spaced.effect .set []) := by
  have unsigned := readable.name_operand.unsigned
  obtain ⟨c, more, shape, _, unled⟩ := identifier_head _ readable.identifier
  have upright : inverted? spaced.name = none := by
    rw [shape]
    refine unled_upright fun d head => ?_
    obtain rfl : c = d := by simpa using head
    exact unled
  have compound : split? compoundSign valueOrNone? spaced.name = none := by
    refine split_none compound_spelled valueOrNone? _ fun front after found _ _ same => ?_
    exact absurd (by rw [same]; simp) (unsigned found.sign (sign_listed found _ (by simp)))
  have absent (accepts : Operation → Bool) (read? : List Char → Option (List Char)) :
      split? (operationSign accepts) read? spaced.name = none := by
    refine split_none (operation_spelled accepts) read? _ fun front after found _ _ same => ?_
    exact absurd (by rw [same]; simp) (unsigned found.sign (sign_listed found _ (by simp)))
  have singles : singleForms? spaced.style spaced.name = none := by
    refine List.findSome?_eq_none_iff.mpr fun other _ => ?_
    rw [absent]
    rfl
  rw [unstyled?, upright]
  simp only [compound, partsEffect?, Option.bind_none, singles, trailingOrBare?, absent, readable.identifier, if_true]
  exact effect_named spaced readable .set []

end Forms

section Rates

variable (readable : spaced.Readable)

include readable

theorem filled_rate (more : List Char) (c : Char) (sign : c ∈ effectSigns) :
    endsPerSecond (spaced.lead ++ spaced.filled (more ++ [c])) = (c == '/' && spaced.value == ['s']) := by
  have ends := rate_behind (spaced.lead ++ (spaced.name ++ spaced.left) ++ more) spaced.right spaced.value c
    (readable.blank _ (by simp)) (operation_signs c sign).1 readable.valued.filled readable.valued.tight
    (readable.valued.unsigned '/' (by decide))
  rw [← ends, filled, signed]
  simp

theorem inverted_rate : endsPerSecond (spaced.lead ++ spaced.inverted) = false := by
  have named := readable.name_operand
  exact rate_behind spaced.lead spaced.right spaced.name '=' (readable.blank _ (by simp)) (by decide) named.filled named.tight
    (named.unsigned '/' (by decide))

theorem bare_rate : endsPerSecond (spaced.lead ++ spaced.name) = false := by
  refine no_rate_without_stroke _ fun stroke => ?_
  rcases List.mem_append.mp stroke with inside | inside
  · rw [lead] at inside
    cases style : spaced.style with
    | normal => simp [style] at inside
    | accumulative =>
        have mark := blank_lacks spaced.mark (readable.blank _ (by simp)) '/' (by decide)
        have inner := blank_lacks spaced.inner (readable.blank _ (by simp)) '/' (by decide)
        simp [style, mark, inner] at inside
  · exact readable.name_operand.unsigned '/' (by decide) inside

omit readable in
theorem trailing_rate (operation : Operation) : endsPerSecond (spaced.lead ++ spaced.signed [operation.sign] []) = false := by
  refine ends_otherwise _ operation.sign ?_ (sign_solid operation) (by cases operation <;> decide)
  rw [signed, List.append_nil, ← List.append_assoc, List.getLast?_concat]

end Rates

section Texts

variable (readable : spaced.Readable)

include readable

theorem filled_read (symbol : List Char) (something : symbol ≠ []) (known : ∀ c ∈ symbol, c ∈ effectSigns) :
    effect? (spaced.text (spaced.filled symbol)) = if endsPerSecond (spaced.lead ++ spaced.filled symbol) then none
      else unstyled? spaced.style (spaced.filled symbol) := by
  have solid : ∀ c ∈ (spaced.right ++ spaced.value).getLast?, isBlank c = false := by
    rw [List.getLast?_append_of_ne_nil _ readable.valued.filled]
    exact readable.valued.tight.2
  exact spaced.read_core readable _ (by simp [filled, signed, something]) (spaced.signed_tight readable _ _ something known solid)
    (spaced.signed_headless readable _ _ something known)

theorem single_text (operation : Operation) : effect? (spaced.text (spaced.filled [operation.sign])) =
    if operation = .divide ∧ spaced.value = ['s'] then none else some (spaced.effect operation spaced.value) := by
  have rate := spaced.filled_rate readable [] operation.sign (sign_listed operation _ (by simp))
  rw [List.nil_append] at rate
  rw [spaced.filled_read readable _ (List.cons_ne_nil _ _) (sign_listed operation), rate, spaced.read_single readable]
  cases operation <;> simp [Operation.sign]

theorem compound_text (operation : Operation) (other : operation ≠ .set) :
    effect? (spaced.text (spaced.filled [operation.sign, '='])) = some (spaced.effect operation spaced.value) := by
  have rate := spaced.filled_rate readable [operation.sign] '=' (by decide)
  rw [List.singleton_append] at rate
  rw [spaced.filled_read readable _ (List.cons_ne_nil _ _) (compound_listed operation), rate,
    spaced.read_compound readable operation other]
  rfl

theorem inverted_text : effect? (spaced.text spaced.inverted) = some (spaced.effect .set []) := by
  have named := readable.name_operand
  have headless : ∀ head ∈ heads, StateT.run head spaced.inverted = none := fun head member =>
    stops_refuses isSettingSign head (heads_stop head member) [] _ '=' (by simp) (by decide) (by decide)
  have solid : ∀ c ∈ (spaced.right ++ spaced.name).getLast?, isBlank c = false := by
    rw [List.getLast?_append_of_ne_nil _ named.filled]
    exact named.tight.2
  have tight : Tight spaced.inverted := tight_joined ['='] _ (List.cons_ne_nil _ _) (by simp [named.filled]) (by decide) solid
  rw [spaced.read_core readable spaced.inverted (List.cons_ne_nil _ _) tight headless, spaced.inverted_rate readable,
    spaced.read_inverted readable]
  rfl

theorem bare_text : effect? (spaced.text spaced.name) = some (spaced.effect .set []) := by
  have named := readable.name_operand
  rw [spaced.read_core readable _ named.filled named.tight (identifier_headless _ readable.identifier), spaced.bare_rate readable,
    spaced.read_bare readable]
  rfl

theorem trailing_text (operation : Operation) :
    effect? (spaced.text (spaced.signed [operation.sign] [])) = some (spaced.effect operation []) := by
  have known := sign_listed operation
  have tight := spaced.signed_tight readable [operation.sign] [] (List.cons_ne_nil _ _) known (by simp)
  have headless := spaced.signed_headless readable [operation.sign] [] (List.cons_ne_nil _ _) known
  rw [spaced.read_core readable _ (by simp [signed]) tight headless, spaced.trailing_rate, spaced.read_trailing readable]
  rfl

end Texts

end SpacedEffect

-- Every form of effect is read with any blanks between and around its parts. A division by the unit of a rate is none.
theorem effect_spaced (spaced : SpacedEffect) (readable : spaced.Readable) (operation : Operation) :
    effect? (spaced.text (spaced.filled [operation.sign])) =
        (if operation = .divide ∧ spaced.value = ['s'] then none else some (spaced.effect operation spaced.value)) ∧
      (operation ≠ .set →
        effect? (spaced.text (spaced.filled [operation.sign, '='])) = some (spaced.effect operation spaced.value)) ∧
      effect? (spaced.text spaced.inverted) = some (spaced.effect .set []) ∧
      effect? (spaced.text spaced.name) = some (spaced.effect .set []) ∧
      effect? (spaced.text (spaced.signed [operation.sign] [])) = some (spaced.effect operation []) :=
  ⟨spaced.single_text readable operation, spaced.compound_text readable operation, spaced.inverted_text readable,
    spaced.bare_text readable, spaced.trailing_text readable operation⟩

theorem gold_spaced :
    effect? "\n A :金币 /\n十 个 ".toList = some ⟨"金币", .divide, "十 个", .accumulative⟩ ∧
      effect? "\n A :金币 /=\n十 个 ".toList = some ⟨"金币", .divide, "十 个", .accumulative⟩ ∧
      effect? "\n A :=\n金币 ".toList = some ⟨"金币", .set, "", .accumulative⟩ ∧
      effect? "\n A :金币 ".toList = some ⟨"金币", .set, "", .accumulative⟩ ∧
      effect? "\n A :金币 / ".toList = some ⟨"金币", .divide, "", .accumulative⟩ := by
  obtain ⟨single, compound, inverted, bare, trailing⟩ := effect_spaced
    ⟨.accumulative, "金币".toList, "十 个".toList, ['\n', ' '], [' '], [], [' '], ['\n'], [' ']⟩
    ⟨by decide, by decide, by decide⟩ .divide
  exact ⟨single, compound (by decide), inverted, bare, trailing⟩

end TaggedStory.Tag
