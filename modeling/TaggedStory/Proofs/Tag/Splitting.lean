import TaggedStory.Proofs.Tag.Cleaning
import TaggedStory.Tag.Line
/-!
Splitting at an operator, read in both directions: a text is split after the shortest front that an operation
follows, and what is split was put together of a name, the operator, a value and blanks around them.
-/
set_option autoImplicit false

namespace TaggedStory.Tag

open Text

variable {α : Type}

section Values

theorem trim_left_gap (gap text : List Char) (blank : ∀ c ∈ gap, isBlank c = true)
    (solid : ∀ c ∈ text.head?, isBlank c = false) : trimLeft (gap ++ text) = text := by
  rw [trimLeft, List.dropWhile_append_of_pos blank]
  exact (drop_blanks_unchanged text).mpr solid

theorem final_feed (text : List Char) : ∃ feed, text = dropFinalFeed text ++ feed ∧ ∀ c ∈ feed, isBlank c = true := by
  rw [dropFinalFeed]
  by_cases last : text.getLast? = some '\n'
  · obtain ⟨front, rfl⟩ := List.getLast?_eq_some_iff.mp last
    exact ⟨['\n'], by simp, by decide⟩
  · exact ⟨[], by rw [if_neg last, List.append_nil], by simp⟩

theorem trim_parts (text : List Char) : ∃ gap tail, text = gap ++ (trim text ++ tail) ∧ (∀ c ∈ gap, isBlank c = true) ∧
    ∀ c ∈ tail, isBlank c = true :=
  strip_parts isBlank text

theorem value_or_none_shape (text value : List Char) (read : valueOrNone? text = some value) :
    ∃ gap tail, text = gap ++ (value ++ tail) ∧ (∀ c ∈ gap, isBlank c = true) ∧ (∀ c ∈ tail, isBlank c = true) ∧
      '\n' ∉ value ∧ Tight value := by
  rw [valueOrNone?] at read
  by_cases feed : '\n' ∈ trimLeft (dropFinalFeed text)
  · simp only [List.contains_iff_mem.mpr feed, if_true] at read
    cases read
  · have flat : (trimLeft (dropFinalFeed text)).contains '\n' = false := by simpa using feed
    simp only [flat, Bool.false_eq_true, if_false, Option.some.injEq] at read
    obtain ⟨gap, tail, shape, blankGap, blankTail⟩ := trim_parts (dropFinalFeed text)
    obtain ⟨final, whole, blankFinal⟩ := final_feed text
    have same : trim (dropFinalFeed text) = value := read
    rw [same] at shape
    refine ⟨gap, tail ++ final, ?_, blankGap, ?_, ?_, same ▸ trim_tightens _⟩
    · rw [whole, shape]
      simp
    · exact fun c member => (List.mem_append.mp member).elim (blankTail c) (blankFinal c)
    · intro member
      rw [← read, trimRight, List.mem_reverse] at member
      exact feed (List.mem_reverse.mp ((List.dropWhile_sublist _).subset member))

theorem value_shape (text value : List Char) (read : value? text = some value) :
    text ≠ [] ∧ ∃ gap tail, text = gap ++ (value ++ tail) ∧ (∀ c ∈ gap, isBlank c = true) ∧
      (∀ c ∈ tail, isBlank c = true) ∧ '\n' ∉ value ∧ Tight value := by
  rw [value?] at read
  by_cases empty : trimLeft (dropFinalFeed text) = []
  · simp only [empty, List.isEmpty_nil, if_true] at read
    cases last : (dropFinalFeed text).getLast? with
    | none =>
        rw [last] at read
        cases read
    | some c =>
        rw [last] at read
        by_cases feed : c = '\n'
        · simp only [feed, if_true] at read
          cases read
        · simp only [feed, if_false, Option.some.injEq] at read
          obtain ⟨final, whole, blankFinal⟩ := final_feed text
          have blank : ∀ c ∈ dropFinalFeed text, isBlank c = true := List.dropWhile_eq_nil_iff.mp empty
          refine ⟨?_, text, [], by simp [← read], ?_, by simp, by simp [← read], read ▸ tight_nil⟩
          · rintro rfl
            cases last
          · rw [whole]
            exact fun c member => (List.mem_append.mp member).elim (blank c) (blankFinal c)
  · have filled : (trimLeft (dropFinalFeed text)).isEmpty = false := by simpa using empty
    simp only [filled, Bool.false_eq_true, if_false] at read
    refine ⟨?_, value_or_none_shape text value read⟩
    rintro rfl
    exact empty rfl

theorem no_final_feed (text : List Char) (inline : '\n' ∉ text) : dropFinalFeed text = text :=
  if_neg fun last => inline (List.mem_of_getLast? last)

-- A value on one line is what is left of it without the blanks around it.
theorem value_or_none_inline (text : List Char) (inline : '\n' ∉ text) : valueOrNone? text = some (trim text) := by
  have flat : (trimLeft text).contains '\n' = false := by
    simpa [trimLeft] using fun member => inline ((List.dropWhile_sublist _).subset member)
  simp only [valueOrNone?, no_final_feed text inline, flat, Bool.false_eq_true, if_false, trim]

theorem value_inline (text : List Char) (filled : text ≠ []) (inline : '\n' ∉ text) : value? text = some (trim text) := by
  simp only [value?, no_final_feed text inline]
  by_cases empty : trimLeft text = []
  · have last : text.getLast? = some (text.getLast filled) := List.getLast?_eq_some_getLast filled
    have other : text.getLast filled ≠ '\n' := fun same => inline (same ▸ List.getLast_mem filled)
    have nothing : trim text = [] := by rw [trim, empty]; rfl
    simp only [empty, List.isEmpty_nil, if_true, last, other, if_false, nothing]
  · have solid : (trimLeft text).isEmpty = false := by simpa using empty
    simp only [solid, Bool.false_eq_true, if_false, value_or_none_inline text inline]

theorem trim_between (gap text tail : List Char) (filled : text ≠ []) (tight : Tight text)
    (blank : ∀ c ∈ gap, isBlank c = true) (blankTail : ∀ c ∈ tail, isBlank c = true) : trim (gap ++ (text ++ tail)) = text := by
  have head : ∀ c ∈ (text ++ tail).head?, isBlank c = false := by
    rw [List.head?_append_of_ne_nil _ filled]
    exact tight.1
  have moved : trim (gap ++ (text ++ tail)) = trim (text ++ tail) := by
    rw [trim, trim, trim_left_gap gap _ blank head, show trimLeft (text ++ tail) = text ++ tail from (drop_blanks_unchanged _).mpr head]
  rw [moved, trim_gap text tail blankTail, trim_tight text tight]

-- A piece on one line is read between blanks, which may hold line feeds in front of it.
theorem value_between (gap value tail : List Char) (filled : value ≠ []) (tight : Tight value) (inline : '\n' ∉ value ++ tail)
    (blank : ∀ c ∈ gap, isBlank c = true) (blankTail : ∀ c ∈ tail, isBlank c = true) :
    valueOrNone? (gap ++ (value ++ tail)) = some value ∧ value? (gap ++ (value ++ tail)) = some value := by
  have last : (gap ++ (value ++ tail)).getLast? ≠ some '\n' := by
    rw [List.getLast?_append_of_ne_nil _ (List.append_ne_nil_of_left_ne_nil filled tail)]
    exact fun feed => inline (List.mem_of_getLast? feed)
  have head : ∀ c ∈ (value ++ tail).head?, isBlank c = false := by
    rw [List.head?_append_of_ne_nil _ filled]
    exact tight.1
  have line : trimLeft (gap ++ (value ++ tail)) = value ++ tail := trim_left_gap gap _ blank head
  have flat : (value ++ tail).contains '\n' = false := by simpa using inline
  have read : valueOrNone? (gap ++ (value ++ tail)) = some value := by
    have whole := trim_between gap value tail filled tight blank blankTail
    rw [trim, line] at whole
    rw [valueOrNone?, dropFinalFeed, if_neg last]
    simp only [line, flat, Bool.false_eq_true, if_false, whole]
  refine ⟨read, ?_⟩
  rw [value?, dropFinalFeed, if_neg last]
  simp only [line, List.isEmpty_eq_false_iff.mpr (List.append_ne_nil_of_left_ne_nil filled tail), Bool.false_eq_true, if_false, read]

end Values

section Splitting

variable (operator : Scanner α) (value? : List Char → Option (List Char))

-- An operation follows the front, and none follows a shorter one.
structure Shortest (front rest : List Char) (found : α) (value : List Char) : Prop where
  filled : front ≠ []
  inline : '\n' ∉ front
  operation : operation? operator value? rest = some (found, value)
  first : ∀ lead more, front = lead ++ more → lead ≠ [] → more ≠ [] → operation? operator value? (more ++ rest) = none

theorem split_from_met (before front rest value : List Char) (found : α)
    (shortest : Shortest operator value? front rest found value) :
    splitFrom operator value? before (front ++ rest) = some ⟨trim (before.reverse ++ front), found, value⟩ := by
  obtain ⟨filled, inline, operation, first⟩ := shortest
  induction front generalizing before with
  | nil => exact absurd rfl filled
  | cons c front ih =>
      have flat : c ≠ '\n' := fun same => inline (same ▸ List.mem_cons_self)
      rw [List.cons_append, splitFrom, if_neg flat]
      cases front with
      | nil => simp [operation]
      | cons d front =>
          rw [first [c] (d :: front) rfl (List.cons_ne_nil c []) (List.cons_ne_nil d front)]
          have later := ih (c :: before) (List.cons_ne_nil d front) (fun member => inline (List.mem_cons_of_mem c member))
            fun lead more same _ => first (c :: lead) more (by rw [same, List.cons_append]) (List.cons_ne_nil c lead)
          simpa using later

theorem split_from_shape (before text : List Char) (parts : Parts α)
    (found : splitFrom operator value? before text = some parts) : ∃ front rest, text = front ++ rest ∧
      parts.name = trim (before.reverse ++ front) ∧ Shortest operator value? front rest parts.operator parts.value := by
  induction text generalizing before with
  | nil => cases found
  | cons c text ih =>
      rw [splitFrom] at found
      by_cases feed : c = '\n'
      · rw [if_pos feed] at found
        cases found
      · rw [if_neg feed] at found
        cases operation : operation? operator value? text with
        | some pair =>
            rw [operation] at found
            cases found
            refine ⟨[c], text, rfl, by simp, List.cons_ne_nil c [], by simpa using Ne.symm feed, operation, ?_⟩
            intro lead more same filled filledMore
            have lengths := congrArg List.length same
            have positive := List.length_pos_iff.mpr filled
            have positiveMore := List.length_pos_iff.mpr filledMore
            simp only [List.length_singleton, List.length_append] at lengths
            omega
        | none =>
            rw [operation] at found
            obtain ⟨front, rest, rfl, name, shortest⟩ := ih (c :: before) found
            refine ⟨c :: front, rest, rfl, by simpa using name, List.cons_ne_nil c front, ?_, shortest.operation, ?_⟩
            · rw [List.mem_cons, not_or]
              exact ⟨Ne.symm feed, shortest.inline⟩
            · intro lead more same filled filledMore
              obtain ⟨d, lead, rfl⟩ := List.exists_cons_of_ne_nil filled
              rw [List.cons_append, List.cons.injEq] at same
              by_cases empty : lead = []
              · rw [empty, List.nil_append] at same
                rwa [← same.2]
              · exact shortest.first lead more same.2 empty filledMore

theorem split_iff (text : List Char) (parts : Parts α) : split? operator value? text = some parts ↔
    ∃ front rest, text = front ++ rest ∧ parts.name = trim front ∧
      Shortest operator value? front rest parts.operator parts.value := by
  constructor
  · exact split_from_shape operator value? [] text parts
  · rintro ⟨front, rest, rfl, name, shortest⟩
    rw [split?, split_from_met operator value? [] front rest _ _ shortest, List.reverse_nil, List.nil_append, ← name]

theorem split_exists (front rest : List Char) (filled : front ≠ []) (inline : '\n' ∉ front)
    (operation : (operation? operator value? rest).isSome = true) : (split? operator value? (front ++ rest)).isSome = true := by
  rw [split?]
  generalize [] = before
  induction front generalizing before with
  | nil => exact absurd rfl filled
  | cons c front ih =>
      have flat : c ≠ '\n' := fun same => inline (same ▸ List.mem_cons_self)
      rw [List.cons_append, splitFrom, if_neg flat]
      cases other : operation? operator value? (front ++ rest) with
      | some pair => rfl
      | none =>
          refine ih ?_ (fun member => inline (List.mem_cons_of_mem c member)) (c :: before)
          rintro rfl
          rw [List.nil_append] at other
          rw [other] at operation
          cases operation

theorem operation_shape (text value : List Char) (found : α) (done : operation? operator value? text = some (found, value)) :
    ∃ gap middle after, text = gap ++ middle ∧ (∀ c ∈ gap, isBlank c = true) ∧
      StateT.run operator middle = some (found, after) ∧ value? after = some value := by
  rw [operation?] at done
  cases run : StateT.run operator (trimLeft text) with
  | none =>
      rw [run] at done
      cases done
  | some pair =>
      rw [run] at done
      obtain ⟨read, valueRead, same⟩ := Option.map_eq_some_iff.mp done
      cases same
      exact ⟨text.takeWhile isBlank, trimLeft text, pair.2, List.takeWhile_append_dropWhile.symm,
        fun c member => List.mem_takeWhile_imp member, run, valueRead⟩

end Splitting

section Spelling

-- The operator is read where its letters stand, the first of which is no blank.
structure Spelled (operator : Scanner α) (letters : α → List Char) (accepted : α → Prop) : Prop where
  run : ∀ text rest found, StateT.run operator text = some (found, rest) ↔ accepted found ∧ text = letters found ++ rest
  solid : ∀ found rest, ∀ c ∈ (letters found ++ rest).head?, isBlank c = false

variable {operator : Scanner α} {letters : α → List Char} {accepted : α → Prop} (spelled : Spelled operator letters accepted)
variable (value? : List Char → Option (List Char))

include spelled

theorem operation_iff (text value : List Char) (found : α) : operation? operator value? text = some (found, value) ↔
    ∃ gap after, text = gap ++ (letters found ++ after) ∧ (∀ c ∈ gap, isBlank c = true) ∧ accepted found ∧
      value? after = some value := by
  constructor
  · intro done
    obtain ⟨gap, middle, after, shape, blank, run, read⟩ := operation_shape _ value? text value found done
    obtain ⟨accept, same⟩ := (spelled.run _ _ _).mp run
    exact ⟨gap, after, by rw [shape, same], blank, accept, read⟩
  · rintro ⟨gap, after, rfl, blank, accept, read⟩
    rw [operation?, trim_left_gap gap _ blank (spelled.solid found after), (spelled.run _ _ _).mpr ⟨accept, rfl⟩]
    simp only [read, Option.map_some]

theorem split_shape (text : List Char) (parts : Parts α) (split : split? operator value? text = some parts) :
    ∃ front gap after, text = front ++ (gap ++ (letters parts.operator ++ after)) ∧ parts.name = trim front ∧ front ≠ [] ∧
      '\n' ∉ front ∧ (∀ c ∈ gap, isBlank c = true) ∧ accepted parts.operator ∧ value? after = some parts.value := by
  obtain ⟨front, rest, rfl, name, shortest⟩ := (split_iff _ _ _ _).mp split
  obtain ⟨gap, after, rfl, blank, accept, read⟩ := (operation_iff spelled value? _ _ _).mp shortest.operation
  exact ⟨front, gap, after, rfl, name, shortest.filled, shortest.inline, blank, accept, read⟩

-- Behind a first character, letters of the operator with a value after them are enough for a split.
theorem split_stands (front after : List Char) (found : α) (accept : accepted found) (filled : front ≠ []) (inline : '\n' ∉ front)
    (read : (value? after).isSome = true) : (split? operator value? (front ++ (letters found ++ after))).isSome = true := by
  obtain ⟨value, read⟩ := Option.isSome_iff_exists.mp read
  have operation := (operation_iff spelled value? (letters found ++ after) value found).mpr
    ⟨[], after, rfl, by simp, accept, read⟩
  exact split_exists operator value? front _ filled inline (by rw [operation]; rfl)

theorem split_none (text : List Char) (absent : ∀ front after found, front ≠ [] → accepted found →
    text = front ++ (letters found ++ after) → value? after = none) : split? operator value? text = none := by
  by_contra some
  obtain ⟨parts, split⟩ := Option.ne_none_iff_exists'.mp some
  obtain ⟨front, gap, after, shape, _, filled, _, _, accept, read⟩ := split_shape spelled value? text parts split
  rw [← List.append_assoc] at shape
  rw [absent _ after parts.operator (List.append_ne_nil_of_left_ne_nil filled gap) accept shape] at read
  cases read

-- What stands in front of an operator is found whole if it ends in no blank and no operator starts in it.
theorem split_led (lead tail value : List Char) (found : α) (filled : lead ≠ []) (solid : ∀ c ∈ lead.getLast?, isBlank c = false)
    (inline : '\n' ∉ lead) (own : operation? operator value? tail = some (found, value))
    (behind : ∀ front after other, front ≠ [] → accepted other → lead ++ tail = front ++ (letters other ++ after) → lead <+: front) :
    split? operator value? (lead ++ tail) = some ⟨trim lead, found, value⟩ := by
  refine (split_iff _ _ _ _).mpr ⟨lead, tail, rfl, rfl, filled, inline, own, ?_⟩
  intro front more split filledFront filledMore
  by_contra found
  obtain ⟨⟨other, _⟩, done⟩ := Option.ne_none_iff_exists'.mp found
  obtain ⟨gap, after, shape, blank, accept, _⟩ := (operation_iff spelled value? _ _ _).mp done
  have whole : lead ++ tail = front ++ gap ++ (letters other ++ after) := by
    rw [split, List.append_assoc, shape, List.append_assoc]
  have within := behind _ after other (List.append_ne_nil_of_left_ne_nil filledFront gap) accept whole
  -- The blanks in front of the operator would hold the end of the lead.
  rw [split, List.prefix_append_right_inj] at within
  have last : lead.getLast? = some (more.getLast filledMore) := by
    rw [split, List.getLast?_append, List.getLast?_eq_some_getLast filledMore]
    rfl
  have other := solid _ last
  rw [blank _ (within.subset (List.getLast_mem filledMore))] at other
  cases other

theorem split_written (name tail value : List Char) (found : α) (filled : name ≠ []) (tight : Tight name) (inline : '\n' ∉ name)
    (own : operation? operator value? tail = some (found, value))
    (behind : ∀ front after other, front ≠ [] → accepted other → name ++ tail = front ++ (letters other ++ after) → name <+: front) :
    split? operator value? (name ++ tail) = some ⟨name, found, value⟩ := by
  rw [split_led spelled value? name tail value found filled tight.2 inline own behind, trim_tight name tight]

end Spelling

-- The first item that gives a result, and all that are tried before it.
theorem find_some_iff {ι β : Type} [DecidableEq ι] (f : ι → Option β) (items : List ι) (result : β) :
    items.findSome? f = some result ↔
      ∃ item ∈ items, f item = some result ∧ ∀ other ∈ items.takeWhile (· ≠ item), f other = none := by
  rw [List.findSome?_eq_some_iff]
  constructor
  · rintro ⟨before, item, after, rfl, found, missed⟩
    have other : ∀ earlier ∈ before, decide (earlier ≠ item) = true := by
      intro earlier member
      refine decide_eq_true fun equal => ?_
      rw [← equal, missed earlier member] at found
      cases found
    refine ⟨item, by simp, found, fun earlier member => missed earlier ?_⟩
    rw [List.takeWhile_append_of_pos other] at member
    simpa using member
  · rintro ⟨item, member, found, missed⟩
    obtain ⟨before, after, order, first⟩ := List.eq_append_cons_of_mem member
    refine ⟨before, item, after, order, found, fun earlier member => missed earlier ?_⟩
    have other : ∀ earlier ∈ before, decide (earlier ≠ item) = true :=
      fun earlier member => decide_eq_true fun equal => first (equal ▸ member)
    rw [order, List.takeWhile_append_of_pos other]
    exact List.mem_append_left _ member

end TaggedStory.Tag
