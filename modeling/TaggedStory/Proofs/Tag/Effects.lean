import TaggedStory.Proofs.Tag.Forms
import TaggedStory.Proofs.Tag.Taking
/-!
Effects that survive their own tag: no mark of rich text and no setting looks like one, and the
operator is the only sign between the name and the value.
-/
set_option autoImplicit false

namespace TaggedStory.Tag

open Text Scanner Decimal

structure SafeEffect (effect : Effect) : Prop where
  identifier : isIdentifier effect.name.toList = true
  noMark : ∀ word ∈ ["color", "size"], ¬ word.toList <+: lowerAscii effect.name.toList
  value : effect.value = "" ∨ Plain effect.value
  valueSigns : ∀ c ∈ ['=', '+', '-', '*', '/'], c ∉ effect.value.toList
  noRate : effect.operation = .divide → effect.value ≠ "s"

instance (effect : Effect) : Decidable (SafeEffect effect) :=
  decidable_of_iff (isIdentifier effect.name.toList = true ∧
      (∀ word ∈ ["color", "size"], ¬ word.toList <+: lowerAscii effect.name.toList) ∧
      (effect.value = "" ∨ Plain effect.value) ∧ (∀ c ∈ ['=', '+', '-', '*', '/'], c ∉ effect.value.toList) ∧
      (effect.operation = .divide → effect.value ≠ "s"))
    ⟨fun ⟨identifier, noMark, value, valueSigns, noRate⟩ => ⟨identifier, noMark, value, valueSigns, noRate⟩,
      fun safe => ⟨safe.identifier, safe.noMark, safe.value, safe.valueSigns, safe.noRate⟩⟩

section Names

theorem inner_part_half (c : Char) (inner : isInnerPart c = true) : isWide c = false := by
  have range := inner_part_range c inner
  simp only [isWide, Bool.or_eq_false_iff, Bool.and_eq_false_iff, decide_eq_false_iff_not, beq_eq_false_iff_ne]
  omega

theorem inner_part_unsigned (c : Char) (inner : isInnerPart c = true) : isSign c = false := by
  cases sign : isSign c with
  | false => rfl
  | true =>
      simp only [isSign, Bool.or_eq_true, beq_iff_eq, or_assoc] at sign
      rcases sign with rfl | rfl | rfl | rfl | rfl | rfl | rfl | rfl <;> exact absurd inner (by decide)

theorem inner_parts_calm (name : List Char) (inner : ∀ c ∈ name, isInnerPart c = true) : Calm name :=
  fun c member => ⟨inner_part_unsigned c (inner c member), inner_part_half c (inner c member)⟩

-- The letters that lose their case to an expected one are no parts of a name.
theorem is_letter_lower (expected c : Char) (fixed : expected.toLower = expected)
    (raised : expected.toUpper.toLower = expected) (inner : isInnerPart c = true)
    (letter : isLetter expected c = true) : c.toLower = expected := by
  have range := inner_part_range c inner
  simp only [isLetter, Bool.or_eq_true, Bool.and_eq_true, beq_iff_eq] at letter
  rcases letter with ((rfl | rfl) | ⟨_, wide⟩) | ⟨_, wide | wide⟩
  · exact fixed
  · exact raised
  · omega
  · omega
  · omega

theorem letters_refused (word name rest : List Char) (other : ¬ word <+: lowerAscii name)
    (lower : ∀ c ∈ word, c.toLower = c ∧ c.toUpper.toLower = c ∧ isLetter c ' ' = false)
    (inner : ∀ c ∈ name, isInnerPart c = true) : StateT.run (letters word) (name ++ ' ' :: rest) = none := by
  induction word generalizing name with
  | nil => exact absurd List.nil_prefix other
  | cons expected word ih =>
      obtain ⟨fixed, raised, blank⟩ := lower expected List.mem_cons_self
      cases done : StateT.run (letters (expected :: word)) (name ++ ' ' :: rest) with
      | none => rfl
      | some pair =>
          rw [letters, bind_succeeds] at done
          obtain ⟨c, after, first, done⟩ := done
          rw [one_succeeds] at first
          cases name with
          | nil =>
              rw [List.nil_append, List.cons.injEq] at first
              rw [← first.1.1, blank] at first
              cases first.2
          | cons d name =>
              rw [List.cons_append, List.cons.injEq] at first
              obtain ⟨⟨rfl, rfl⟩, letter⟩ := first
              have same := is_letter_lower expected d fixed raised (inner d List.mem_cons_self) letter
              have otherRest : ¬ word <+: lowerAscii name := by
                intro leads
                refine other ?_
                rw [lowerAscii, List.map_cons, same]
                exact (List.prefix_cons_inj expected).mpr leads
              rw [ih name otherRest (fun x member => lower x (List.mem_cons_of_mem _ member))
                (fun x member => inner x (List.mem_cons_of_mem _ member))] at done
              cases done

end Names

section Marks

theorem mark_start (text : List Char) (opened : ∀ c ∈ text.head?, c ≠ '/') :
    StateT.run markStart ('<' :: text) = some ((), text) := by
  have unclosed : StateT.run (char '/') text = none := by
    cases text with
    | nil => rfl
    | cons c text => exact opens_char '/' c text (opened c rfl)
  change StateT.run (char '<' >>= fun _ => Scanner.optional (char '/') >>= fun _ => pure ()) ('<' :: text) = _
  rw [StateT.run_bind, show '<' :: text = ['<'] ++ text from rfl, reads_char '<' text]
  change StateT.run (Scanner.optional (char '/') >>= fun _ => pure ()) text = _
  rw [StateT.run_bind, optional_refused _ _ unclosed]
  rfl

theorem open_mark_refused (name : String) (text : List Char) (opened : ∀ c ∈ text.head?, c ≠ '/')
    (other : StateT.run (letters name.toList) text = none) : StateT.run (openMark name) ('<' :: text) = none := by
  rw [openMark, StateT.run_bind, mark_start text opened]
  change StateT.run (letters name.toList >>= fun _ => many (· ≠ '>') >>= fun _ => char '>') text = none
  rw [StateT.run_bind, other]
  rfl

theorem plain_mark_refused (c d : Char) (rest : List Char) (opened : c ≠ '/') (longer : d ≠ '>') :
    StateT.run plainMark ('<' :: c :: d :: rest) = none := by
  rw [plainMark, StateT.run_bind, mark_start (c :: d :: rest) (by simpa using opened)]
  change StateT.run (one (fun c => isLetter 'b' c || isLetter 'i' c) >>= fun _ => char '>') (c :: d :: rest) = none
  cases done : StateT.run (one (fun c => isLetter 'b' c || isLetter 'i' c) >>= fun _ => char '>') (c :: d :: rest) with
  | none => rfl
  | some pair =>
      obtain ⟨letter, middle, first, last⟩ := (bind_succeeds _ _ _ _ _).mp done
      rw [one_succeeds, List.cons.injEq] at first
      rw [char_succeeds, ← first.1.2, List.cons.injEq] at last
      exact absurd last.1 longer

theorem opens_mark_start : Opens markStart '<' :=
  opens_bind _ _ '<' (opens_char '<')

theorem opens_open_mark (name : String) : Opens (openMark name) '<' :=
  opens_bind _ _ '<' opens_mark_start

theorem opens_plain_mark : Opens plainMark '<' :=
  opens_bind _ _ '<' opens_mark_start

theorem opens_guillemets : Opens guillemets '《' :=
  opens_bind _ _ '《' (opens_char '《')

end Marks

namespace SafeEffect

variable {effect : Effect}

theorem name_shape (safe : SafeEffect effect) : ∃ c rest, effect.name.toList = c :: rest ∧ isInnerLetter c = true := by
  obtain ⟨c, rest, shape, letter, _⟩ := identifier_head _ safe.identifier
  exact ⟨c, rest, shape, letter⟩

theorem name_inner (safe : SafeEffect effect) : ∀ x ∈ effect.name.toList, isInnerPart x = true :=
  identifier_inner _ safe.identifier

theorem name_lacks (safe : SafeEffect effect) (c : Char) (outer : isInnerPart c = false) : c ∉ effect.name.toList :=
  identifier_lacks _ safe.identifier c outer

theorem name_tight (safe : SafeEffect effect) : Tight effect.name.toList :=
  (inner_tight _ safe.name_inner).1

theorem name_is_name (safe : SafeEffect effect) : isName effect.name.toList = true :=
  identifier_named _ safe.identifier

theorem name_no_colon (safe : SafeEffect effect) : ∀ x ∈ effect.name.toList ++ [' '], x ≠ ':' ∧ x ≠ '：' := by
  intro x member
  rcases List.mem_append.mp member with member | member
  · exact ⟨fun same => safe.name_lacks ':' (by decide) (same ▸ member),
      fun same => safe.name_lacks '：' (by decide) (same ▸ member)⟩
  · rw [List.mem_singleton.mp member]
    decide

theorem recoverable (safe : SafeEffect effect) : RecoverableEffect effect where
  headless := fun _ => identifier_headless _ safe.identifier
  noRate := safe.noRate
  upright := by
    intro head
    exact safe.name_lacks '=' (by decide) (List.mem_of_mem_head? head)
  name := by
    intro front rest operation inside _
    have outer : isInnerPart operation.sign = false := by cases operation <;> decide
    exact absurd (by rw [inside]; simp) (safe.name_lacks operation.sign outer)
  value := by
    intro front rest operation inside _
    exact absurd (by rw [inside]; simp) (safe.valueSigns operation.sign (sign_known operation))
  single := by
    intro front rest operation inside
    exact absurd (by rw [inside]; simp) (safe.valueSigns operation.sign (sign_known operation))

theorem read (safe : SafeEffect effect) : ReadEffect effect := by
  have value : Tight effect.value.toList ∧ '\n' ∉ effect.value.toList := by
    rcases safe.value with empty | plain
    · rw [empty]
      exact ⟨tight_nil, by simp⟩
    · exact ⟨plain.tight, plain.inline⟩
  exact ⟨safe.name_is_name, safe.name_tight, safe.name_lacks '\n' (by decide), value.1, value.2,
    fun _ => no_rate_without_stroke _ (safe.valueSigns '/' (by decide))⟩

theorem no_rate (safe : SafeEffect effect) (lead : List Char) : endsPerSecond (lead ++ effectCore effect) = false :=
  no_rate_again effect safe.recoverable safe.read lead

theorem body_reads (safe : SafeEffect effect) : effect? (effectBody effect) = some effect :=
  body_again effect safe.recoverable safe.read

theorem body_calm (safe : SafeEffect effect) : Calm (effectBody effect) := by
  have lead : Calm (effectLead effect) := by
    rw [effectLead]
    cases effect.isAccumulative <;> decide
  have symbol : isSign effect.operation.sign = false ∧ isWide effect.operation.sign = false := by
    cases effect.operation <;> decide
  have tail : Calm (effectTail effect) := by
    rw [effectTail]
    by_cases empty : effect.value = ""
    · rw [if_pos empty]
      decide
    · rw [if_neg empty]
      exact .cons (by decide) (safe.value.resolve_left empty).calm
  exact lead.append ((inner_parts_calm _ safe.name_inner).append (.cons (by decide) (.cons symbol tail)))

theorem body_lacks (safe : SafeEffect effect) (c : Char) (sign : isSign c = true) : c ∉ effectBody effect :=
  safe.body_calm.absent c sign

theorem body_head (safe : SafeEffect effect) (rest : List Char) : ∀ c ∈ (effectBody effect ++ rest).head?, c ≠ '/' := by
  obtain ⟨c, later, shape, letter⟩ := safe.name_shape
  intro d head
  rw [effectBody, effectLead, effectCore, shape] at head
  cases accumulative : effect.isAccumulative with
  | false =>
      simp only [accumulative, Bool.false_eq_true, if_false, List.nil_append, List.cons_append, List.head?_cons,
        Option.mem_some] at head
      rw [← head]
      rintro rfl
      exact absurd letter (by decide)
  | true =>
      simp only [accumulative, if_true, List.cons_append, List.head?_cons, Option.mem_some] at head
      rw [← head]
      decide

theorem body_no_letters (safe : SafeEffect effect) (word : String) (known : word = "color" ∨ word = "size")
    (rest : List Char) : StateT.run (letters word.toList) (effectBody effect ++ rest) = none := by
  have named : word ∈ ["color", "size"] := by simpa using known
  have lower : ∀ c ∈ word.toList, c.toLower = c ∧ c.toUpper.toLower = c ∧ isLetter c ' ' = false := by
    rcases known with rfl | rfl <;> decide
  rw [effectBody, effectLead]
  cases effect.isAccumulative with
  | false =>
      have refused := letters_refused word.toList effect.name.toList (effect.operation.sign :: (effectTail effect ++ rest))
        (safe.noMark word named) lower safe.name_inner
      simpa [effectCore] using refused
  | true => rcases known with rfl | rfl <;> rfl

theorem body_no_plain_mark (safe : SafeEffect effect) (rest : List Char) :
    StateT.run plainMark ('<' :: (effectBody effect ++ rest)) = none := by
  obtain ⟨c, later, shape, letter⟩ := safe.name_shape
  have opened : c ≠ '/' := by
    rintro rfl
    exact absurd letter (by decide)
  rw [effectBody, effectLead, effectCore]
  cases effect.isAccumulative with
  | false =>
      rw [if_neg Bool.false_ne_true, List.nil_append, shape]
      cases later with
      | nil => exact plain_mark_refused c ' ' _ opened (by decide)
      | cons d later =>
          have inside : isInnerPart d = true := safe.name_inner d (by rw [shape]; simp)
          refine plain_mark_refused c d _ opened ?_
          rintro rfl
          exact absurd inside (by decide)
  | true => exact plain_mark_refused 'A' ':' _ (by decide) (by decide)

theorem tag_missed {α : Type} (safe : SafeEffect effect) (s : Scanner α) (opens : Opens s '<')
    (refused : ∀ rest, StateT.run s ('<' :: (effectBody effect ++ rest)) = none) :
    Skips s ('<' :: (effectBody effect ++ ['>'])) := by
  intro rest
  refine ⟨?_, misses_unopened s '<' opens _ rest ?_⟩
  · rw [List.append_assoc]
    exact refused _
  · rw [List.mem_append, not_or]
    exact ⟨safe.body_lacks '<' (by decide), by decide⟩

end SafeEffect

section Rules

variable (effects : List Effect) (ending : List Char)

def effectPiece (effect : Effect) : List Char :=
  '<' :: (effectBody effect ++ ['>'])

theorem effect_tags_pieces :
    effects.flatMap (fun effect => (effectTag effect).toList) = effects.flatMap effectPiece := by
  rw [List.flatMap_def, List.flatMap_def, List.map_congr_left fun effect _ => effect_tag_body effect]
  rfl

theorem mark_erased (safe : ∀ effect ∈ effects, SafeEffect effect) (noAngle : '<' ∉ ending) (s : Scanner Unit)
    (opens : Opens s '<')
    (refused : ∀ effect, SafeEffect effect → ∀ rest, StateT.run s ('<' :: (effectBody effect ++ rest)) = none) :
    s.erase (effects.flatMap effectPiece ++ ending) = effects.flatMap effectPiece ++ ending := by
  refine s.erase_none _ ((s.misses_append _ _ _).mpr ⟨?_, s.misses_unopened '<' opens _ _ noAngle⟩)
  exact s.skips_flat_map effects effectPiece (fun effect member =>
    (safe effect member).tag_missed s opens (refused effect (safe effect member))) _

-- Nothing that the marks of rich text look for is in a text of effects and other pieces.
theorem view_unchanged (text : List Char) (noGuillemet : '《' ∉ text)
    (unmarked : ∀ s : Scanner Unit, Opens s '<' →
      (∀ effect, SafeEffect effect → ∀ rest, StateT.run s ('<' :: (effectBody effect ++ rest)) = none) → s.erase text = text) :
    effectView text = text := by
  have open_mark : ∀ word, word = "color" ∨ word = "size" → ∀ effect, SafeEffect effect → ∀ rest,
      StateT.run (openMark word) ('<' :: (effectBody effect ++ rest)) = none :=
    fun word known effect safeEffect rest =>
      open_mark_refused word _ (safeEffect.body_head rest) (safeEffect.body_no_letters word known rest)
  rw [effectView, guillemets.erase_none _ (guillemets.misses_unopened '《' opens_guillemets _ _ noGuillemet),
    unmarked _ (opens_open_mark "color") (open_mark "color" (.inl rfl)),
    unmarked _ opens_plain_mark fun effect safeEffect rest => safeEffect.body_no_plain_mark rest,
    unmarked _ (opens_open_mark "size") (open_mark "size" (.inr rfl))]

theorem effect_view_unchanged (safe : ∀ effect ∈ effects, SafeEffect effect) (noAngle : '<' ∉ ending)
    (noGuillemet : '《' ∉ ending) :
    effectView (effects.flatMap effectPiece ++ ending) = effects.flatMap effectPiece ++ ending := by
  have absent : '《' ∉ effects.flatMap effectPiece ++ ending := by
    rw [List.mem_append, not_or]
    refine ⟨fun member => ?_, noGuillemet⟩
    obtain ⟨effect, present, inside⟩ := List.mem_flatMap.mp member
    rw [effectPiece, List.mem_cons, List.mem_append, List.mem_singleton] at inside
    rcases inside with same | inside | same
    · exact absurd same (by decide)
    · exact (safe effect present).body_lacks '《' (by decide) inside
    · exact absurd same (by decide)
  exact view_unchanged _ absent (mark_erased effects ending safe noAngle)

theorem effect_piece_tame (effect : Effect) (safe : SafeEffect effect) (signs : List Char)
    (known : ∀ c ∈ signs, isSign c = true ∧ c ≠ '<' ∧ c ≠ '>') : Tame signs (effectPiece effect) :=
  Tame.angled known _ safe.body_calm

theorem effect_piece_reads (effect : Effect) (safe : SafeEffect effect) :
    Reads angle (effectPiece effect) (effectBody effect) := by
  refine reads_span '<' '>' _ ?_ (safe.body_lacks '>' (by decide))
  obtain ⟨c, later, shape, _⟩ := safe.name_shape
  rw [effectBody, effectCore, shape]
  simp

-- Effects in front of a text without angle or guillemet tags all move into the record, in their order.
theorem effects_front {R : Type} (add : Effect → R → R) (record : R) (safe : ∀ effect ∈ effects, SafeEffect effect)
    (tight : Tight ending) (noAngle : '<' ∉ ending) (noGuillemet : '《' ∉ ending) :
    (effectRule add).apply (effects.flatMap effectPiece ++ ending, record) =
      .ok (ending, effects.foldl (fun record effect => add effect record) record) := by
  have none : angle.all ending = [] := angle.all_none _ (angle.misses_unopened '<' (opens_span '<' '>') _ _ noAngle)
  have found := Rule.all_front effectPiece ending angle effectBody effects fun effect present =>
    ⟨List.cons_ne_nil _ _, effect_piece_reads effect (safe effect present)⟩
  rw [none, List.append_nil] at found
  simp only [Rule.apply, effectRule, effect_view_unchanged effects ending safe noAngle noGuillemet, found, List.map_map]
  refine Rule.steps_front effectPiece add ending effects _ record tight (fun effect _ => ?_) (fun _ _ => rfl)
    fun effect present record => ?_
  · exact ⟨List.cons_ne_nil _ _, tight_enclosed '<' '>' _ (by decide) (by decide)⟩
  · simp only [Function.comp_apply, Rule.move, (safe effect present).body_reads, Option.map_some]

end Rules

end TaggedStory.Tag
