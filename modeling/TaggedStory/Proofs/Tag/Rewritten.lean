import TaggedStory.Proofs.Tag.Forms
/-!
Effects that are read from a text, written and read again. Every form of effect is written with the operator between the
name and the value, so that an effect that was read with a compound or a leading operator may come apart elsewhere.
-/
set_option autoImplicit false

namespace TaggedStory.Tag

open Text Scanner

section Forms

variable (style : Style) (core : List Char) (effect : Effect)

-- The form in which an effect was read, with the forms before that gave nothing.
inductive Form : Prop where
  | inverted (found : inverted? core = some effect.name.toList) (set : effect.operation = .set) (empty : effect.value = "")
  | compound (split : split? compoundSign valueOrNone? core = some ⟨effect.name.toList, effect.operation, effect.value.toList⟩)
  | single (simple : partsEffect? style (split? compoundSign valueOrNone? core) = none)
      (split : split? (operationSign (· = effect.operation)) value? core =
        some ⟨effect.name.toList, effect.operation, effect.value.toList⟩)
      (others : ∀ operation ∈ earlier effect.operation,
        partsEffect? style (split? (operationSign (· = operation)) value? core) = none)
  | trailing (simple : partsEffect? style (split? compoundSign valueOrNone? core) = none)
      (others : ∀ operation, partsEffect? style (split? (operationSign (· = operation)) value? core) = none)
      (split : (split? (operationSign fun _ => true) nothing? core).map Parts.name = some effect.name.toList)
      (empty : effect.value = "")
  | bare (identifier : isIdentifier core = true) (name : effect.name.toList = core) (set : effect.operation = .set)
      (empty : effect.value = "")

variable {style core effect}

theorem effect_of_iff (name value : List Char) (operation : Operation) :
    effectOf? style name operation value = some effect ↔ isName effect.name.toList = true ∧ effect.style = style ∧
      effect.name.toList = name ∧ effect.operation = operation ∧ effect.value.toList = value := by
  rw [effectOf?]
  by_cases named : isName name = true
  · rw [if_pos named, Option.some.injEq]
    constructor
    · rintro rfl
      simpa using named
    · rintro ⟨_, rfl, rfl, rfl, rfl⟩
      simp
  · rw [if_neg named]
    constructor
    · rintro ⟨⟩
    · rintro ⟨other, _, rfl, _⟩
      exact absurd other named

theorem parts_effect_iff (parts : Option (Parts Operation)) : partsEffect? style parts = some effect ↔
    isName effect.name.toList = true ∧ effect.style = style ∧
      parts = some ⟨effect.name.toList, effect.operation, effect.value.toList⟩ := by
  cases parts with
  | none => simp [partsEffect?]
  | some parts =>
      obtain ⟨name, operation, value⟩ := parts
      rw [partsEffect?, Option.bind_some, effect_of_iff]
      simp only [Option.some.injEq, Parts.mk.injEq, eq_comm]

theorem unstyled_form (read : unstyled? style core = some effect) :
    isName effect.name.toList = true ∧ effect.style = style ∧ Form style core effect := by
  rw [unstyled?] at read
  cases inverted : inverted? core with
  | some name =>
      rw [inverted] at read
      obtain ⟨named, styled, name, set, empty⟩ := (effect_of_iff _ _ _).mp read
      exact ⟨named, styled, .inverted (by rw [inverted, name]) set (String.toList_eq_nil_iff.mp empty)⟩
  | none =>
      rw [inverted] at read
      cases compound : partsEffect? style (split? compoundSign valueOrNone? core) with
      | some other =>
          simp only [compound, Option.some.injEq] at read
          subst read
          obtain ⟨named, styled, split⟩ := (parts_effect_iff _).mp compound
          exact ⟨named, styled, .compound split⟩
      | none =>
          simp only [compound] at read
          cases single : singleForms? style core with
          | some other =>
              simp only [single, Option.some.injEq] at read
              subst read
              obtain ⟨operation, _, found, others⟩ := (find_some_iff _ _ _).mp single
              obtain ⟨named, styled, split⟩ := (parts_effect_iff _).mp found
              obtain ⟨_, _, _, _, _, _, _, _, accepted, _⟩ := split_shape (operation_spelled _) value? core _ split
              obtain rfl : other.operation = operation := by simpa using accepted
              exact ⟨named, styled, .single compound split others⟩
          | none =>
              simp only [single] at read
              have others : ∀ operation, partsEffect? style (split? (operationSign (· = operation)) value? core) = none :=
                fun operation => List.findSome?_eq_none_iff.mp single operation (by cases operation <;> decide)
              rw [trailingOrBare?] at read
              cases trailing : split? (operationSign fun _ => true) nothing? core with
              | some parts =>
                  simp only [trailing] at read
                  obtain ⟨named, styled, name, _, empty⟩ := (effect_of_iff _ _ _).mp read
                  exact ⟨named, styled, .trailing compound others (by rw [trailing, Option.map_some, name])
                    (String.toList_eq_nil_iff.mp empty)⟩
              | none =>
                  simp only [trailing] at read
                  by_cases identifier : isIdentifier core = true
                  · rw [if_pos identifier] at read
                    obtain ⟨named, styled, name, set, empty⟩ := (effect_of_iff _ _ _).mp read
                    exact ⟨named, styled, .bare identifier name set (String.toList_eq_nil_iff.mp empty)⟩
                  · rw [if_neg identifier] at read
                    cases read

theorem inverted_shape (text name : List Char) (found : inverted? text = some name) :
    ∃ rest, text = '=' :: rest ∧ value? rest = some name := by
  unfold inverted? at found
  split at found
  · exact ⟨_, rfl, found⟩
  · cases found

theorem trimmed_inline (front : List Char) (inline : '\n' ∉ front) : Tight (trim front) ∧ '\n' ∉ trim front :=
  ⟨trim_tightens front, fun member => inline ((trim_inside front).subset member)⟩

-- What was read is a piece of the text, and the value ends it, apart from blanks.
theorem form_parts (form : Form style core effect) : (Tight effect.name.toList ∧ '\n' ∉ effect.name.toList) ∧
    (Tight effect.value.toList ∧ '\n' ∉ effect.value.toList) ∧
      ∃ front tail, core = front ++ (effect.value.toList ++ tail) ∧ (effect.value ≠ "" → ∀ c ∈ tail, isBlank c = true) := by
  have nothing (empty : effect.value = "") : (Tight effect.value.toList ∧ '\n' ∉ effect.value.toList) ∧
      ∃ front tail, core = front ++ (effect.value.toList ++ tail) ∧ (effect.value ≠ "" → ∀ c ∈ tail, isBlank c = true) := by
    rw [empty]
    exact ⟨⟨tight_nil, by simp⟩, core, [], by simp, by simp⟩
  cases form with
  | inverted found set empty =>
      obtain ⟨rest, _, read⟩ := inverted_shape core _ found
      obtain ⟨_, _, _, _, _, _, inline, tight⟩ := value_shape _ _ read
      exact ⟨⟨tight, inline⟩, nothing empty⟩
  | compound split =>
      obtain ⟨front, gap, after, rfl, name, _, inline, _, _, read⟩ := split_shape compound_spelled valueOrNone? core _ split
      obtain ⟨inner, tail, rfl, _, blank, flat, tight⟩ := value_or_none_shape _ _ read
      have whole : effect.name.toList = trim front := name
      refine ⟨whole ▸ trimmed_inline front inline, ⟨tight, flat⟩,
        front ++ (gap ++ ([effect.operation.sign, '='] ++ inner)), tail, by simp, fun _ => blank⟩
  | single _ split _ =>
      obtain ⟨front, gap, after, rfl, name, _, inline, _, _, read⟩ := split_shape (operation_spelled _) value? core _ split
      obtain ⟨_, inner, tail, rfl, _, blank, flat, tight⟩ := value_shape _ _ read
      have whole : effect.name.toList = trim front := name
      refine ⟨whole ▸ trimmed_inline front inline, ⟨tight, flat⟩,
        front ++ (gap ++ ([effect.operation.sign] ++ inner)), tail, by simp, fun _ => blank⟩
  | trailing _ _ split empty =>
      obtain ⟨parts, found, same⟩ := Option.map_eq_some_iff.mp split
      obtain ⟨front, _, _, _, name, _, inline, _⟩ := split_shape (operation_spelled _) nothing? core parts found
      exact ⟨same ▸ name ▸ trimmed_inline front inline, nothing empty⟩
  | bare identifier name set empty =>
      exact ⟨name ▸ inner_tight core (identifier_inner core identifier), nothing empty⟩

end Forms

theorem style_cases (body core : List Char) (style : Style) (taken : takeStyle body = (style, core)) (tight : Tight body) :
    Tight core ∧ (∃ lead tail, body = lead ++ (core ++ tail) ∧ ∀ c ∈ tail, isBlank c = true) ∧
      (style = .normal → core = body ∧ StateT.run accumulativeMark body = none) := by
  rw [takeStyle] at taken
  cases run : StateT.run accumulativeMark body with
  | none =>
      rw [run] at taken
      obtain ⟨rfl, rfl⟩ := Prod.mk.inj taken
      exact ⟨tight, ⟨[], [], by simp, by simp⟩, fun _ => ⟨rfl, rfl⟩⟩
  | some pair =>
      rw [run] at taken
      obtain ⟨rfl, rfl⟩ := Prod.mk.inj taken
      obtain ⟨piece, c, shape, _⟩ := heads_end accumulativeMark (by simp [heads]) body pair.2 pair.1 run
      obtain ⟨gap, tail, parts, _, blank⟩ := trim_parts pair.2
      refine ⟨trim_tightens pair.2, ⟨piece ++ c :: gap, tail, ?_, blank⟩, fun normal => by cases normal⟩
      rw [shape, List.append_assoc, List.cons_append, ← parts]

theorem tail_nothing (front tail : List Char) (tight : Tight (front ++ tail)) (blank : ∀ c ∈ tail, isBlank c = true) : tail = [] := by
  by_contra filled
  have solid := tight.2 (tail.getLast filled) (by rw [List.getLast?_append, List.getLast?_eq_some_getLast filled]; rfl)
  rw [blank _ (List.getLast_mem filled)] at solid
  cases solid

section Read

variable (text : List Char) (effect : Effect) (parsed : effect? text = some effect)

include parsed

theorem effect_core : isNoEffect (trim text) = false ∧ ∃ core, takeStyle (trim text) = (effect.style, core) ∧
    isName effect.name.toList = true ∧ Form effect.style core effect := by
  rw [effect?] at parsed
  by_cases excluded : isNoEffect (trim text) = true
  · simp only [excluded, if_true] at parsed
    cases parsed
  · simp only [excluded, Bool.false_eq_true, if_false] at parsed
    obtain ⟨named, styled, form⟩ := unstyled_form parsed
    refine ⟨by simpa using excluded, (takeStyle (trim text)).2, by rw [styled], named, styled ▸ form⟩

-- The value is the end of the text.
theorem value_ends (filled : effect.value ≠ "") : ∃ front, trim text = front ++ effect.value.toList := by
  obtain ⟨_, core, taken, _, form⟩ := effect_core text effect parsed
  obtain ⟨_, ⟨lead, after, whole, blankAfter⟩, _⟩ := style_cases _ core _ taken (trim_tightens text)
  obtain ⟨_, _, front, tail, rfl, blank⟩ := form_parts form
  have shape : trim text = (lead ++ front ++ effect.value.toList) ++ (tail ++ after) := by simp [whole]
  have nothing : tail ++ after = [] := by
    refine tail_nothing _ _ (shape ▸ trim_tightens text) fun c member => ?_
    exact (List.mem_append.mp member).elim (blank filled c) (blankAfter c)
  exact ⟨lead ++ front, by rw [shape, nothing, List.append_nil]⟩

theorem effect_read : ReadEffect effect := by
  obtain ⟨excluded, core, taken, named, form⟩ := effect_core text effect parsed
  obtain ⟨⟨tight, inline⟩, ⟨tightValue, inlineValue⟩, _⟩ := form_parts form
  refine ⟨named, tight, inline, tightValue, inlineValue, fun two => ?_⟩
  have filled : effect.value ≠ "" := by
    intro empty
    rw [empty] at two
    cases two
  obtain ⟨front, shape⟩ := value_ends text effect parsed filled
  simp only [isNoEffect, Bool.or_eq_false_iff] at excluded
  rw [← rate_within front _ tightValue two, ← shape]
  exact excluded.2

end Read

section Unled

variable {style : Style} {core : List Char} {effect : Effect} (tight : Tight core) (inline : '\n' ∉ core)
variable (unled : ∀ c ∈ core.head?, isBoundarySign c = false)

include unled in
theorem unled_upright : inverted? core = none := by
  by_contra found
  obtain ⟨name, inverted⟩ := Option.ne_none_iff_exists'.mp found
  obtain ⟨rest, rfl, _⟩ := inverted_shape core name inverted
  cases unled '=' rfl

-- A single operator is read with a value behind it.
include tight in
theorem single_filled (operation : Operation) (name value : List Char)
    (split : split? (operationSign (· = operation)) value? core = some ⟨name, operation, value⟩) : value ≠ [] := by
  rintro rfl
  obtain ⟨front, gap, after, shape, _, _, _, _, _, read⟩ := split_shape (operation_spelled _) value? core _ split
  obtain ⟨something, inner, tail, parts, blank, blankTail, _⟩ := value_shape _ _ read
  have whole : core = (front ++ gap ++ [operation.sign]) ++ after := by simp [shape]
  refine something (tail_nothing _ after (whole ▸ tight) fun c member => ?_)
  rw [parts, List.nil_append] at member
  exact (List.mem_append.mp member).elim (blank c) (blankTail c)

include tight unled

-- What stands in front of an operator is a name when the text begins with no sign.
theorem front_kept (front rest : List Char) (shape : core = front ++ rest) (filled : front ≠ []) :
    ∃ trail, front = trim front ++ trail ∧ (∀ c ∈ trail, isBlank c = true) ∧ isName (trim front) = true := by
  obtain ⟨c, more, rfl⟩ := List.exists_cons_of_ne_nil filled
  have solid : isBlank c = false := tight.1 c (by rw [shape]; rfl)
  have unsigned : isBoundarySign c = false := unled c (by rw [shape]; rfl)
  obtain ⟨gap, trail, parts, blankGap, blankTrail⟩ := trim_parts (c :: more)
  have start : gap = [] := by
    cases gap with
    | nil => rfl
    | cons d gap =>
        obtain ⟨rfl, _⟩ := List.cons.inj parts
        rw [blankGap c List.mem_cons_self] at solid
        cases solid
  rw [start, List.nil_append] at parts
  refine ⟨trail, parts, blankTrail, ?_⟩
  obtain ⟨d, name, letters⟩ := List.exists_cons_of_ne_nil (trim_solid c more solid)
  rw [letters] at parts ⊢
  obtain ⟨rfl, _⟩ := List.cons.inj parts
  simp [isName, unsigned]

theorem named_split (operator : Scanner Operation) (value? : List Char → Option (List Char))
    (missed : partsEffect? style (split? operator value? core) = none) : split? operator value? core = none := by
  by_contra found
  obtain ⟨parts, split⟩ := Option.ne_none_iff_exists'.mp found
  obtain ⟨front, rest, shape, name, shortest⟩ := (split_iff _ _ _ _).mp split
  obtain ⟨_, _, _, named⟩ := front_kept tight unled front rest shape shortest.filled
  rw [← name] at named
  rw [split, partsEffect?, Option.bind_some, effectOf?, if_pos named] at missed
  cases missed

-- The text goes on behind the name with blanks and an operation.
theorem name_leads (operator : Scanner Operation) (value? : List Char → Option (List Char)) (parts : Parts Operation)
    (split : split? operator value? core = some parts) : ∃ trail rest, core = parts.name ++ (trail ++ rest) ∧
      (∀ c ∈ trail, isBlank c = true) ∧ Shortest operator value? (parts.name ++ trail) rest parts.operator parts.value := by
  obtain ⟨front, rest, shape, name, shortest⟩ := (split_iff _ _ _ _).mp split
  obtain ⟨trail, kept, blank, _⟩ := front_kept tight unled front rest shape shortest.filled
  rw [← name] at kept
  exact ⟨trail, rest, by rw [shape, kept, List.append_assoc], blank, kept ▸ shortest⟩

include inline

theorem sign_splits (front after : List Char) (operation : Operation) (shape : core = front ++ operation.sign :: after)
    (filled : front ≠ []) (something : after ≠ []) :
    partsEffect? style (split? (operationSign (· = operation)) value? core) ≠ none := by
  intro missed
  have flat := inline
  rw [shape, List.mem_append, List.mem_cons, not_or, not_or] at flat
  have read : (value? after).isSome = true := by rw [value_inline after something flat.2.2]; rfl
  have split := split_stands (operation_spelled (· = operation)) value? front after operation (decide_eq_true rfl) filled flat.1 read
  rw [List.singleton_append, ← shape, named_split tight unled _ _ missed] at split
  cases split

variable (form : Form style core effect) (simple : split? compoundSign valueOrNone? core = none)

include form simple

theorem unled_name (front rest : List Char) (operation : Operation) (inside : effect.name.toList = front ++ operation.sign :: rest)
    (filled : front ≠ []) : operation ∉ tried effect := by
  have outer : isInnerPart operation.sign = false := by cases operation <;> decide
  -- Where an operation follows the name, the sign in the name has a value behind it.
  have splits (accepts : Operation → Bool) (read? : List Char → Option (List Char)) (parts : Parts Operation)
      (split : split? (operationSign accepts) read? core = some parts) (same : parts.name = effect.name.toList) :
      partsEffect? style (split? (operationSign (· = operation)) value? core) ≠ none := by
    obtain ⟨trail, after, shape, _, shortest⟩ := name_leads tight unled _ _ _ split
    obtain ⟨_, _, behind, _⟩ := (operation_iff (operation_spelled _) _ _ _ _).mp shortest.operation
    refine sign_splits tight inline unled front (rest ++ (trail ++ after)) operation ?_ filled (by simp [behind])
    rw [shape, same, inside]
    simp
  cases form with
  | inverted found =>
      rw [unled_upright unled] at found
      cases found
  | compound split =>
      rw [simple] at split
      cases split
  | single _ split others =>
      have valued : effect.value ≠ "" := by simpa using single_filled tight _ _ _ split
      rw [tried, if_neg valued, List.mem_append, List.mem_singleton, not_or]
      refine ⟨fun before => splits _ _ _ split rfl (others operation before), fun own => ?_⟩
      obtain ⟨trail, after, shape, _, shortest⟩ := name_leads tight unled _ _ _ split
      obtain ⟨_, _, behind, _⟩ := (operation_iff (operation_spelled _) _ _ _ _).mp shortest.operation
      have whole : core = front ++ operation.sign :: (rest ++ (trail ++ after)) := by
        rw [shape, inside]
        simp
      have flat : '\n' ∉ rest ++ (trail ++ after) := by
        rw [whole, List.mem_append, List.mem_cons, not_or, not_or] at inline
        exact inline.2.2
      have earlierSplit := (operation_iff (operation_spelled (· = effect.operation)) value? _ _ operation).mpr
        ⟨[], rest ++ (trail ++ after), rfl, by simp, decide_eq_true own, value_inline _ (by simp [behind]) flat⟩
      have missed := shortest.first front (operation.sign :: (rest ++ trail)) (by simp [inside]) filled (List.cons_ne_nil _ _)
      rw [show operation.sign :: (rest ++ trail) ++ after = [operation.sign] ++ (rest ++ (trail ++ after)) by simp] at missed
      rw [List.nil_append, missed] at earlierSplit
      cases earlierSplit
  | trailing _ others split empty =>
      obtain ⟨parts, found, same⟩ := Option.map_eq_some_iff.mp split
      exact fun _ => splits _ _ parts found same (others operation)
  | bare identifier name =>
      rw [identifier_inner core identifier operation.sign (by rw [← name, inside]; simp)] at outer
      cases outer

-- A value that is not empty was read behind a single operator.
omit tight inline unled in
theorem unled_single (filled : effect.value ≠ "") : ∃ front gap tail,
    core = front ++ effect.operation.sign :: (gap ++ (effect.value.toList ++ tail)) ∧ front ≠ [] ∧
      (∀ c ∈ gap, isBlank c = true) ∧ (∀ c ∈ tail, isBlank c = true) ∧
        ∀ operation ∈ earlier effect.operation, partsEffect? style (split? (operationSign (· = operation)) value? core) = none := by
  cases form with
  | inverted _ _ empty => exact absurd empty filled
  | compound split =>
      rw [simple] at split
      cases split
  | single _ split others =>
      obtain ⟨front, gap, after, rfl, _, filledFront, _, _, _, read⟩ := split_shape (operation_spelled _) value? core _ split
      obtain ⟨_, inner, tail, rfl, blank, blankTail, _⟩ := value_shape _ _ read
      exact ⟨front ++ gap, inner, tail, by simp, List.append_ne_nil_of_left_ne_nil filledFront gap, blank, blankTail, others⟩
  | trailing _ _ _ empty => exact absurd empty filled
  | bare _ _ _ empty => exact absurd empty filled

theorem unled_value (front rest : List Char) (operation : Operation) (inside : effect.value.toList = front ++ operation.sign :: rest)
    (something : rest ≠ []) : operation ∉ earlier effect.operation := by
  have filled : effect.value ≠ "" := by
    intro empty
    rw [empty] at inside
    simp at inside
  obtain ⟨lead, gap, tail, shape, filledLead, _, _, others⟩ := unled_single form simple filled
  intro before
  refine sign_splits tight inline unled (lead ++ effect.operation.sign :: (gap ++ front)) (rest ++ tail) operation ?_
    (List.append_ne_nil_of_left_ne_nil filledLead _) (List.append_ne_nil_of_left_ne_nil something tail) (others operation before)
  rw [shape, inside]
  simp

omit tight unled in
theorem unled_compound (front rest : List Char) (operation : Operation)
    (inside : effect.value.toList = front ++ operation.sign :: '=' :: rest) : operation = .set := by
  have filled : effect.value ≠ "" := by
    intro empty
    rw [empty] at inside
    simp at inside
  obtain ⟨lead, gap, tail, shape, filledLead, _⟩ := unled_single form simple filled
  have whole : core = (lead ++ effect.operation.sign :: (gap ++ front)) ++ ([operation.sign, '='] ++ (rest ++ tail)) := by
    rw [shape, inside]
    simp
  have flatFront : '\n' ∉ lead ++ effect.operation.sign :: (gap ++ front) :=
    fun member => inline (by rw [whole]; exact List.mem_append_left _ member)
  have flatAfter : '\n' ∉ rest ++ tail :=
    fun member => inline (by rw [whole]; exact List.mem_append_right _ (List.mem_append_right _ member))
  have read : (valueOrNone? (rest ++ tail)).isSome = true := by rw [value_or_none_inline _ flatAfter]; rfl
  by_contra other
  have split := split_stands compound_spelled valueOrNone? _ (rest ++ tail) operation other
    (List.append_ne_nil_of_left_ne_nil filledLead _) flatFront read
  rw [← whole, simple] at split
  cases split

omit inline in
theorem unled_leads : ∃ rest, core = effect.name.toList ++ rest := by
  cases form with
  | inverted found =>
      rw [unled_upright unled] at found
      cases found
  | compound split =>
      rw [simple] at split
      cases split
  | single _ split =>
      obtain ⟨trail, after, shape, _⟩ := name_leads tight unled _ _ _ split
      exact ⟨trail ++ after, shape⟩
  | trailing _ _ split =>
      obtain ⟨parts, found, same⟩ := Option.map_eq_some_iff.mp split
      obtain ⟨trail, after, shape, _⟩ := name_leads tight unled _ _ _ found
      exact ⟨trail ++ after, same ▸ shape⟩
  | bare _ name => exact ⟨[], by rw [name, List.append_nil]⟩

theorem unled_recoverable (headless : effect.style = .normal → ∀ head ∈ heads, StateT.run head effect.name.toList = none)
    (noRate : effect.operation = .divide → effect.value ≠ "s") : RecoverableEffect effect where
  headless := headless
  noRate := noRate
  upright := by
    intro head
    obtain ⟨rest, shape⟩ := unled_leads tight unled form simple
    cases unled '=' (by rw [shape, List.head?_append, head]; rfl)
  name := unled_name tight inline unled form simple
  value := unled_value tight inline unled form simple
  single := unled_compound inline form simple

end Unled

theorem excluded_heads (body : List Char) (excluded : isNoEffect body = false) (unmarked : StateT.run accumulativeMark body = none) :
    ∀ head ∈ heads, StateT.run head body = none := by
  simp only [isNoEffect, Bool.or_eq_false_iff, Option.isSome_eq_false_iff, Option.isNone_iff_eq_none] at excluded
  simp only [heads, List.forall_mem_cons]
  exact ⟨excluded.1.1.1, excluded.1.1.2, excluded.1.2, unmarked, by simp⟩

theorem rate_ends (front gap : List Char) (blank : ∀ c ∈ gap, isBlank c = true) :
    endsPerSecond (front ++ '/' :: (gap ++ ['s'])) = true := by
  have dropped : (gap.reverse ++ '/' :: front.reverse).dropWhile isBlank = '/' :: front.reverse :=
    trim_left_gap gap.reverse _ (fun c member => blank c (List.mem_reverse.mp member)) (by simpa using by decide)
  have last : (front ++ '/' :: (gap ++ ['s'])).getLast? = some 's' := by
    rw [List.getLast?_append, ← List.cons_append, List.getLast?_concat, Option.some_or]
  rw [endsPerSecond, trim_right_solid _ 's' last (by decide)]
  simp [dropped]

-- On one line that begins with no sign and has no compound operator, an effect is read that can be read again.
theorem effect_recoverable (text : List Char) (effect : Effect) (parsed : effect? text = some effect) (inline : '\n' ∉ text)
    (unled : ∀ c ∈ (takeStyle (trim text)).2.head?, isBoundarySign c = false)
    (simple : split? compoundSign valueOrNone? (takeStyle (trim text)).2 = none) : RecoverableEffect effect := by
  obtain ⟨excluded, core, taken, _, form⟩ := effect_core text effect parsed
  obtain ⟨tight, ⟨lead, after, whole, blankAfter⟩, normal⟩ := style_cases _ core _ taken (trim_tightens text)
  rw [taken] at unled simple
  have flat : '\n' ∉ core := fun member => inline ((trim_inside text).subset (by simp [whole, member]))
  refine unled_recoverable tight flat unled form simple (fun style head known => ?_) fun divide second => ?_
  · obtain ⟨same, unmarked⟩ := normal style
    obtain ⟨rest, shape⟩ := unled_leads tight unled form simple
    by_contra found
    refine head_longer head known _ rest found ?_
    rw [← shape, same]
    exact excluded_heads _ excluded unmarked head known
  · have filled : effect.value ≠ "" := by
      rw [second]
      decide
    obtain ⟨front, gap, tail, shape, _, blank, blankTail, _⟩ := unled_single form simple filled
    have ends : trim text = (lead ++ front ++ '/' :: (gap ++ ['s'])) ++ (tail ++ after) := by
      rw [whole, shape, divide, second]
      simp [Operation.sign]
    have nothing : tail ++ after = [] := by
      refine tail_nothing _ _ (ends ▸ trim_tightens text) fun c member => ?_
      exact (List.mem_append.mp member).elim (blankTail c) (blankAfter c)
    simp only [isNoEffect, Bool.or_eq_false_iff] at excluded
    rw [ends, nothing, List.append_nil, rate_ends _ gap blank] at excluded
    cases excluded.2

section Written

variable (effect : Effect) (read : ReadEffect effect)

include read

theorem written_core (core : List Char) (taken : takeStyle (effectBody effect) = (effect.style, core)) : core = effectCore effect := by
  have tight := body_is_tight effect read
  cases style : effect.style with
  | normal =>
      rw [style] at taken
      obtain ⟨_, _, normal⟩ := style_cases _ core _ taken tight
      rw [(normal rfl).1, effectBody, effectLead, Effect.isAccumulative, style]
      rfl
  | accumulative =>
      rw [effectBody, effectLead, Effect.isAccumulative, style] at taken
      change (Style.accumulative, trim (effectCore effect)) = _ at taken
      rw [← (Prod.mk.inj taken).2, trim_tight _ (core_is_tight effect read)]

theorem core_unled (unled : ∀ c ∈ effect.name.toList.head?, isBoundarySign c = false) :
    ∀ c ∈ (effectCore effect).head?, isBoundarySign c = false := by
  obtain ⟨c, rest, shape⟩ := List.exists_cons_of_ne_nil (name_filled effect read)
  rw [shape] at unled
  rw [effectCore, shape]
  exact unled

theorem written_simple (unled : ∀ c ∈ effect.name.toList.head?, isBoundarySign c = false)
    (form : Form effect.style (effectCore effect) effect) : split? compoundSign valueOrNone? (effectCore effect) = none := by
  have tight := core_is_tight effect read
  have unledCore := core_unled effect read unled
  cases form with
  | inverted found =>
      rw [unled_upright unledCore] at found
      cases found
  | compound split =>
      exfalso
      obtain ⟨trail, rest, shape, blank, shortest⟩ := name_leads tight unledCore _ _ _ split
      obtain ⟨gap, after, rfl, blankGap, _, _⟩ := (operation_iff compound_spelled _ _ _ _).mp shortest.operation
      have behind := List.append_cancel_left shape
      -- The blanks between the name and the compound operator are the one in front of the own operator.
      have solid (more : List Char) : ∀ c ∈ (effect.operation.sign :: more).head?, isBlank c = false := by
        simpa using sign_solid effect.operation
      have trimmed := congrArg trimLeft behind
      rw [← List.singleton_append, trim_left_gap [' '] _ (by decide) (solid _), ← List.append_assoc, List.cons_append,
        trim_left_gap (trail ++ gap) _ (by simpa [or_imp, forall_and] using ⟨blank, blankGap⟩) (solid _)] at trimmed
      exact tail_head effect '=' (by rw [(List.cons.inj trimmed).2]; rfl) rfl
  | single simple => exact named_split tight unledCore _ _ simple
  | trailing simple => exact named_split tight unledCore _ _ simple
  | bare identifier =>
      cases identifier_inner _ identifier ' ' (by simp [effectCore])

theorem body_inline : '\n' ∉ effectBody effect := by
  have sign : '\n' ≠ effect.operation.sign := by cases effect.operation <;> decide
  have lead : '\n' ∉ effectLead effect := by
    rw [effectLead]
    cases effect.isAccumulative <;> decide
  have tail : '\n' ∉ effectTail effect := by
    rw [effectTail]
    by_cases empty : effect.value = ""
    · simp [empty]
    · simp [empty, read.inlineValue]
  simp [effectBody, effectCore, lead, tail, read.inline, sign]

-- An effect that is read from its own text, with a name that begins with no sign, was no accident.
theorem again_recoverable (unled : ∀ c ∈ effect.name.toList.head?, isBoundarySign c = false)
    (again : effect? (effectBody effect) = some effect) : RecoverableEffect effect := by
  obtain ⟨_, core, taken, _, form⟩ := effect_core _ effect again
  rw [trim_tight _ (body_is_tight effect read)] at taken
  obtain rfl := written_core effect read core taken
  refine effect_recoverable (effectBody effect) effect again (body_inline effect read) ?_ ?_
  · rw [trim_tight _ (body_is_tight effect read), taken]
    exact core_unled effect read unled
  · rw [trim_tight _ (body_is_tight effect read), taken]
    exact written_simple effect read unled form

end Written

-- An effect that was read from a text is read again from between the brackets of its own tag exactly when no sign that
-- is tried before splits its name or its value, if its name begins with no sign. Every effect does so that is read from a
-- single line without a compound operator, if no sign stands in front.
theorem effect_reads_back (text : List Char) (effect : Effect) (parsed : effect? text = some effect) :
    ∃ body, (effectTag effect).toList = '<' :: (body ++ ['>']) ∧
      (RecoverableEffect effect → effect? body = some effect) ∧
      ((∀ c ∈ effect.name.toList.head?, isBoundarySign c = false) →
        (effect? body = some effect ↔ RecoverableEffect effect)) ∧
      ('\n' ∉ text → (∀ c ∈ (takeStyle (trim text)).2.head?, isBoundarySign c = false) →
        (∀ operation : Operation, operation ≠ .set → ¬ [operation.sign, '='] <:+: text) → effect? body = some effect) := by
  have read := effect_read text effect parsed
  refine ⟨effectBody effect, effect_tag_body effect, fun recoverable => body_again effect recoverable read,
    fun unled => ⟨again_recoverable effect read unled, fun recoverable => body_again effect recoverable read⟩,
    fun inline unled noCompound => body_again effect ?_ read⟩
  obtain ⟨_, core, taken, _⟩ := effect_core text effect parsed
  obtain ⟨_, ⟨lead, tail, whole, _⟩, _⟩ := style_cases _ core _ taken (trim_tightens text)
  obtain ⟨gap, after, around, _⟩ := trim_parts text
  have simple : split? compoundSign valueOrNone? core = none := by
    refine split_none compound_spelled valueOrNone? _ fun front rest found _ compound shape => ?_
    refine absurd ⟨gap ++ (lead ++ front), rest ++ (tail ++ after), ?_⟩ (noCompound found compound)
    rw [around, whole, shape]
    simp
  exact effect_recoverable text effect parsed inline unled (by rw [taken]; exact simple)

theorem coins_read_back : ∃ body, (effectTag ⟨"金币", .add, "5", .accumulative⟩).toList = '<' :: (body ++ ['>']) ∧
    effect? body = some ⟨"金币", .add, "5", .accumulative⟩ ∧ RecoverableEffect ⟨"金币", .add, "5", .accumulative⟩ := by
  obtain ⟨body, tag, _, exact, back⟩ :=
    effect_reads_back "A：金币+5".toList ⟨"金币", .add, "5", .accumulative⟩ (by decide)
  have noEqual : '=' ∉ "A：金币+5".toList := by decide
  have again := back (by decide) (by decide) fun operation _ within => noEqual (within.subset (by simp))
  exact ⟨body, tag, again, (exact (by decide)).mp again⟩

-- The sign of a value that was set apart by a compound operator is tried before the own operator.
theorem signed_value_astray : ¬ ∀ text effect, effect? text = some effect →
    ∃ body, (effectTag effect).toList = '<' :: (body ++ ['>']) ∧ effect? body = some effect := by
  intro back
  obtain ⟨body, tag, again⟩ := back "x-=+5".toList ⟨"x", .subtract, "+5", .normal⟩ (by decide)
  have shape : (effectTag ⟨"x", .subtract, "+5", .normal⟩).toList.tail.dropLast = "x - +5".toList := by decide
  rw [tag, List.tail_cons, List.dropLast_concat] at shape
  rw [shape] at again
  exact absurd again (by decide)

end TaggedStory.Tag
