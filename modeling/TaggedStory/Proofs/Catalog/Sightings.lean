import TaggedStory.Proofs.Catalog.Collecting
import TaggedStory.Proofs.Decimal.Legible
import TaggedStory.Proofs.Node.Rates
import TaggedStory.Proofs.Tag.Cleaning
import TaggedStory.Proofs.Text.Places
/-!
The tags of a video that name a variable, and the recognisers that look for such names in the whole text. A recogniser
of names reads the tag under the same name, if the tag is written in the form that it knows.
-/
set_option autoImplicit false

namespace TaggedStory

open Text Scanner Tag

namespace Collector

theorem name_of_trimmed (raw other : List Char) (same : trim raw = trim other) : nameOf? raw = nameOf? other := by
  rw [nameOf?, nameOf?, Catalog.normalize, Catalog.normalize, same]

theorem name_of_text (raw : List Char) : nameOf? (Mark.trimmedText raw).toList = nameOf? raw :=
  name_of_trimmed _ _ (by rw [Mark.trimmedText, String.toList_ofList, trim_trim])

end Collector

namespace Text.Scanner

variable {α : Type} {sign : Char}

-- Such a recogniser behind the sign has the sign at the front of its tokens only.
theorem avoids_fronts {next : Unit → Scanner α} (avoids : ∀ value, Avoids sign (next value)) (text : List Char)
    (found : Found α) (here : here? (char sign >>= next) text = some found) : sign ∉ found.token.tail := by
  obtain ⟨rest, run, token⟩ := here_found _ text found here
  obtain ⟨_, middle, first, read⟩ := (bind_succeeds _ _ _ _ _).mp run
  rw [char_succeeds] at first
  obtain ⟨piece, rfl, lacks⟩ := avoids () middle _ rest read
  rw [first, ← List.cons_append, List.length_append, Nat.add_sub_cancel, List.take_left] at token
  rwa [token]

end Text.Scanner

namespace Video

open Catalog

-- A change by the second as the recogniser of names knows it: nothing but a name before the sign, a whole number, and
-- no blank behind it.
def plainRate : Scanner (List Char) := do
  let name ← identifier
  Scanner.blanks
  let _ ← Scanner.one fun c => c == '+' || c == '-'
  Scanner.blanks
  let _ ← digits
  Scanner.word "/s"
  return name

def isPlainRate (body : List Char) : Bool :=
  match plainRate.run body with
  | some (_, []) => true
  | _ => false

theorem identifier_succeeds (text rest name : List Char) (done : StateT.run identifier text = some (name, rest)) :
    ∃ c tail, name = c :: tail ∧ text = name ++ rest ∧ isInnerLetter c = true ∧ ∀ x ∈ tail, isInnerPart x = true := by
  rw [identifier] at done
  obtain ⟨c, _, letterShape, letter, done⟩ := one_then done
  obtain ⟨tail, _, shape, inner, done⟩ := many_then done
  obtain ⟨rfl, rfl⟩ := (pure_succeeds _ _ _ _).mp done
  exact ⟨c, tail, rfl, by rw [letterShape, shape]; rfl, letter, inner⟩

theorem run_identifier (c : Char) (tail : List Char) (d : Char) (rest : List Char) (letter : isInnerLetter c = true)
    (inner : ∀ x ∈ tail, isInnerPart x = true) (stops : isInnerPart d = false) :
    StateT.run identifier (c :: (tail ++ d :: rest)) = some (c :: tail, d :: rest) := by
  refine (bind_succeeds _ _ _ _ _).mpr ⟨c, _, (one_succeeds _ _ _ _).mpr ⟨rfl, letter⟩, ?_⟩
  exact (bind_succeeds _ _ _ _ _).mpr ⟨tail, _, run_many isInnerPart tail d rest inner stops, rfl⟩

structure PlainRate (body name gap : List Char) (sign : Char) (space count : List Char) : Prop where
  shape : body = name ++ (gap ++ sign :: (space ++ (count ++ "/s".toList)))
  named : ∃ c tail, name = c :: tail ∧ isInnerLetter c = true ∧ ∀ x ∈ tail, isInnerPart x = true
  gapBlank : ∀ c ∈ gap, isBlank c = true
  signed : (sign == '+' || sign == '-') = true
  spaceBlank : ∀ c ∈ space, isBlank c = true
  filled : count ≠ []
  whole : ∀ c ∈ count, isDigit c = true

theorem plain_rate_shape (body : List Char) (plain : isPlainRate body = true) :
    ∃ name gap sign space count, PlainRate body name gap sign space count := by
  rw [isPlainRate] at plain
  cases done : StateT.run plainRate body with
  | none =>
      rw [done] at plain
      cases plain
  | some pair =>
      obtain ⟨value, rest⟩ := pair
      rw [done] at plain
      cases rest with
      | cons c rest => cases plain
      | nil =>
          rw [plainRate] at done
          obtain ⟨name, _, first, done⟩ := (bind_succeeds _ _ _ _ _).mp done
          obtain ⟨c, tail, named, nameShape, letter, inner⟩ := identifier_succeeds _ _ _ first
          obtain ⟨gap, _, gapShape, gapBlank, done⟩ := blanks_then done
          obtain ⟨sign, _, signShape, signed, done⟩ := one_then done
          obtain ⟨space, _, spaceShape, spaceBlank, done⟩ := blanks_then done
          obtain ⟨count, _, countShape, filled, whole, done⟩ := many1_then done
          obtain ⟨_, unit, done⟩ := word_then done
          rw [pure_succeeds] at done
          refine ⟨name, gap, sign, space, count, ?_, ⟨c, tail, named, letter, inner⟩, gapBlank, signed, spaceBlank, filled,
            whole⟩
          rw [nameShape, gapShape, signShape, spaceShape, countShape, unit, done.2, List.append_nil]

theorem rate_name_quiet (x : Char) (quiet : isInnerPart x = true ∨ isBlank x = true) : isRateName x = true := by
  have lacking : ∀ sign ∈ ['<', '>', '+', '-'], x ≠ sign := by
    rintro sign known rfl
    have neither : ∀ sign ∈ ['<', '>', '+', '-'], isInnerPart sign = false ∧ isBlank sign = false := by decide
    obtain ⟨noPart, noBlank⟩ := neither x known
    rcases quiet with part | blank
    · rw [part] at noPart
      cases noPart
    · rw [blank] at noBlank
      cases noBlank
  simp [isRateName, lacking]

section Rate

variable {body name gap : List Char} {sign : Char} {space count : List Char} (plain : PlainRate body name gap sign space count)

include plain

theorem plain_rate_signed : sign = '+' ∨ sign = '-' := by
  simpa using plain.signed

theorem plain_rate_incremented (after : List Char) :
    StateT.run increment (enclosed '<' '>' body ++ after) = some (name, after) := by
  obtain ⟨c, tail, named, letter, inner⟩ := plain.named
  obtain ⟨d, more, digits⟩ := List.exists_cons_of_ne_nil plain.filled
  have signSolid : isBlank sign = false := by rcases plain_rate_signed plain with rfl | rfl <;> decide
  have digitSolid : isBlank d = false := Decimal.any_digit_solid d (plain.whole d (by rw [digits]; exact List.mem_cons_self))
  have text : enclosed '<' '>' body ++ after =
      '<' :: (c :: (tail ++ (gap ++ sign :: (space ++ (count ++ '/' :: 's' :: '>' :: after))))) := by
    simp [enclosed, plain.shape, named]
  obtain ⟨e, rest, front, outside⟩ : ∃ e rest, gap ++ sign :: (space ++ (count ++ '/' :: 's' :: '>' :: after)) = e :: rest ∧
      isInnerPart e = false := by
    cases shape : gap with
    | nil => exact ⟨sign, _, rfl, by rcases plain_rate_signed plain with rfl | rfl <;> decide⟩
    | cons e rest =>
        refine ⟨e, _, rfl, ?_⟩
        cases part : isInnerPart e with
        | false => rfl
        | true =>
            have blank := plain.gapBlank e (by rw [shape]; exact List.mem_cons_self)
            rw [inner_part_solid e part] at blank
            cases blank
  have spaced := run_gap space d (more ++ '/' :: 's' :: '>' :: after) plain.spaceBlank digitSolid
  rw [← List.cons_append, ← digits] at spaced
  have counted := run_many1 isDigit count '/' ('s' :: '>' :: after) plain.filled plain.whole (by decide)
  have unit : StateT.run (many1 isWord) ('s' :: '>' :: after) = some (['s'], '>' :: after) :=
    run_many1 isWord ['s'] '>' after (by simp) (by decide) (by decide)
  rw [text]
  refine (bind_succeeds _ _ _ _ _).mpr ⟨(), _, rfl, ?_⟩
  rw [front]
  refine (bind_succeeds _ _ _ _ _).mpr ⟨_, _, run_identifier c tail e rest letter inner outside, ?_⟩
  rw [← front]
  refine (bind_succeeds _ _ _ _ _).mpr ⟨(), _, run_gap gap sign _ plain.gapBlank signSolid, ?_⟩
  refine (bind_succeeds _ _ _ _ _).mpr ⟨sign, _, (one_succeeds _ _ _ _).mpr ⟨rfl, plain.signed⟩, ?_⟩
  refine (bind_succeeds _ _ _ _ _).mpr ⟨(), _, spaced, ?_⟩
  refine (bind_succeeds _ _ _ _ _).mpr ⟨_, _, counted, ?_⟩
  refine (bind_succeeds _ _ _ _ _).mpr ⟨some ['s'], '>' :: after, ?_, ?_⟩
  · refine (optional_succeeds _ _ _ _).mpr (.inl ⟨_, rfl, ?_⟩)
    exact (bind_succeeds _ _ _ _ _).mpr ⟨(), _, rfl, unit⟩
  · rw [named]
    exact (bind_succeeds _ _ _ _ _).mpr ⟨(), _, rfl, rfl⟩

theorem plain_rate_named (change : Change) (rest after : List Char)
    (read : StateT.run rate (enclosed '<' '>' body ++ rest) = some (change, after)) : change.name = name ++ gap := by
  obtain ⟨c, tail, named, letter, inner⟩ := plain.named
  have text : enclosed '<' '>' body ++ rest =
      '<' :: (name ++ gap ++ sign :: (space ++ (count ++ '/' :: 's' :: '>' :: rest))) := by
    simp [enclosed, plain.shape]
  have letters : ∀ x ∈ name ++ gap, isRateName x = true := by
    intro x member
    refine rate_name_quiet x ?_
    rw [List.mem_append, named, List.mem_cons] at member
    rcases member with (rfl | inTail) | inGap
    · exact .inl (by rw [isInnerPart, letter, Bool.true_or])
    · exact .inl (inner x inTail)
    · exact .inr (plain.gapBlank x inGap)
  have taken := run_many1 isRateName (name ++ gap) sign (space ++ (count ++ '/' :: 's' :: '>' :: rest)) (by simp [named]) letters
    (by rcases plain_rate_signed plain with rfl | rfl <;> decide)
  rw [rate] at read
  obtain ⟨_, first, read⟩ := char_then read
  rw [text, List.cons.injEq] at first
  obtain ⟨value, _, second, read⟩ := (bind_succeeds _ _ _ _ _).mp read
  rw [← first.2, taken, Option.some.injEq, Prod.mk.injEq] at second
  obtain ⟨_, _, _, _, read⟩ := one_then read
  obtain ⟨_, _, _, _, read⟩ := blanks_then read
  obtain ⟨_, _, _, read⟩ := (bind_succeeds _ _ _ _ _).mp read
  obtain ⟨_, _, _, _, read⟩ := blanks_then read
  obtain ⟨_, _, read⟩ := char_then read
  obtain ⟨_, _, _, _, read⟩ := blanks_then read
  obtain ⟨_, _, read⟩ := char_then read
  obtain ⟨_, _, _, _, read⟩ := blanks_then read
  obtain ⟨_, _, read⟩ := char_then read
  obtain ⟨rfl, _⟩ := (pure_succeeds _ _ _ _).mp read
  exact second.1.symm

end Rate

theorem increment_fronts (text : List Char) (found : Found (List Char)) (here : here? increment text = some found) :
    '<' ∉ found.token.tail := by
  have blank : isBlank '<' = false := by decide
  have identified : Avoids '<' identifier :=
    avoids_bind (avoids_one (by decide)) fun _ => avoids_bind (avoids_many (by decide)) fun _ => avoids_pure
  have unit : Avoids '<' (Scanner.optional (char '/' >>= fun _ => many1 isWord)) :=
    avoids_optional (avoids_bind (avoids_char (by decide)) fun _ => avoids_many1 (by decide))
  refine avoids_fronts (fun _ => ?_) text found here
  exact avoids_bind identified fun _ => avoids_bind (avoids_blanks blank) fun _ => avoids_bind (avoids_one (by decide)) fun _ =>
    avoids_bind (avoids_blanks blank) fun _ => avoids_bind (avoids_many1 (by decide)) fun _ => avoids_bind unit fun _ =>
    avoids_bind (avoids_char (by decide)) fun _ => avoids_pure

-- No blank in front of the first colon.
def TightLimit (body : List Char) : Prop :=
  ∀ c ∈ body.takeWhile fun c => !isAnyColon c, isBlank c = false

section Limit

variable {body : List Char} {limit : Limit} {gap blank : List Char} {first second : Char}
  (tag : LimitTag body limit gap blank first second)

include tag

theorem limit_tag_closed : '>' ∉ body := by
  have blankless : ∀ gap : List Char, (∀ c ∈ gap, isBlank c = true) → '>' ∉ gap := by
    intro gap blank member
    exact absurd (blank '>' member) (by decide)
  have word : ∀ isMax, '>' ∉ (limitWordText isMax).toList := by decide
  have colon : ∀ c : Char, c = ':' ∨ c = '：' → '>' ≠ c := by
    rintro c (rfl | rfl) <;> decide
  rw [tag.shape]
  simp only [List.mem_append, List.mem_cons, not_or]
  exact ⟨blankless gap tag.gapBlank, word limit.isMax, blankless blank tag.blankBlank, colon first tag.firstColon,
    fun member => absurd (tag.letters '>' member) (by decide), colon second tag.secondColon, tag.inside⟩

theorem limit_tag_tight (tight : TightLimit body) :
    body = (limitWordText limit.isMax).toList ++ first :: (limit.name ++ second :: limit.value) := by
  have blankless : ∀ gap : List Char, (∀ c ∈ gap, isBlank c = true) → ∀ c ∈ gap, isAnyColon c = false := by
    intro gap blank c member
    cases colon : isAnyColon c with
    | false => rfl
    | true =>
        rw [isAnyColon, Bool.or_eq_true, beq_iff_eq, beq_iff_eq] at colon
        rcases colon with rfl | rfl
        · exact absurd (blank ':' member) (by decide)
        · exact absurd (blank '：' member) (by decide)
  have word : ∀ isMax, ∀ c ∈ (limitWordText isMax).toList, isAnyColon c = false := by decide
  have front : ∀ c ∈ gap ++ ((limitWordText limit.isMax).toList ++ blank), (!isAnyColon c) = true := by
    simp only [List.mem_append, Bool.not_eq_true']
    rintro c (inGap | inWord | inBlank)
    · exact blankless gap tag.gapBlank c inGap
    · exact word limit.isMax c inWord
    · exact blankless blank tag.blankBlank c inBlank
  have whole : body = gap ++ ((limitWordText limit.isMax).toList ++ blank) ++ first :: (limit.name ++ second :: limit.value) := by
    rw [tag.shape]
    simp
  have solid : ∀ c ∈ gap ++ ((limitWordText limit.isMax).toList ++ blank), isBlank c = false := by
    intro c member
    refine tight c ?_
    rw [whole, List.takeWhile_append_of_pos front]
    exact List.mem_append_left _ member
  have empty : ∀ part : List Char, (∀ c ∈ part, isBlank c = true) →
      part ⊆ gap ++ ((limitWordText limit.isMax).toList ++ blank) → part = [] := by
    intro part blank within
    refine List.eq_nil_iff_forall_not_mem.mpr fun c member => ?_
    have neither := solid c (within member)
    rw [blank c member] at neither
    cases neither
  have noGap := empty gap tag.gapBlank (List.subset_append_left _ _)
  have noBlank := empty blank tag.blankBlank fun c member => by simp [member]
  rw [tag.shape, noGap, noBlank]
  rfl

theorem limit_seen (tight : TightLimit body) (after : List Char) :
    StateT.run (if limit.isMax then maxLimit else minLimit) (enclosed '<' '>' body ++ after) =
      some ((limit.name, limit.value), after) := by
  have shape := limit_tag_tight tag tight
  have letters : ∀ c ∈ limit.name, (!isAnyColon c) = true := by
    intro c member
    have letter := tag.letters c member
    simp only [isLimitName, Bool.and_eq_true, decide_eq_true_eq] at letter
    simp [isAnyColon, letter]
  have stops : (!isAnyColon second) = false := by rcases tag.secondColon with rfl | rfl <;> decide
  have named := run_many1 (fun c => !isAnyColon c) limit.name second (limit.value ++ '>' :: after) tag.named letters stops
  have valued := reads_up_to '>' limit.value tag.valued tag.inside after
  rw [List.append_assoc, List.singleton_append] at valued
  have reads : ∀ word : String, StateT.run (limitOf word)
      (word.toList ++ first :: (limit.name ++ second :: (limit.value ++ '>' :: after))) =
        some ((limit.name, limit.value), after) := by
    intro word
    refine (bind_succeeds _ _ _ _ _).mpr ⟨(), _, (word_succeeds _ _ _ _).mpr rfl, ?_⟩
    refine (bind_succeeds _ _ _ _ _).mpr ⟨(), _, (colon_succeeds _ _ _).mpr ⟨first, tag.firstColon, rfl⟩, ?_⟩
    refine (bind_succeeds _ _ _ _ _).mpr ⟨_, _, named, ?_⟩
    refine (bind_succeeds _ _ _ _ _).mpr ⟨(), _, (colon_succeeds _ _ _).mpr ⟨second, tag.secondColon, rfl⟩, ?_⟩
    exact (bind_succeeds _ _ _ _ _).mpr ⟨_, _, valued, rfl⟩
  have text : ∀ lead : String, lead.toList = '<' :: (limitWordText limit.isMax).toList → enclosed '<' '>' body ++ after =
      lead.toList ++ first :: (limit.name ++ second :: (limit.value ++ '>' :: after)) := by
    intro lead led
    rw [led, shape]
    simp [enclosed]
  cases isMax : limit.isMax with
  | true =>
      rw [text "<最大默认值" (by rw [isMax]; rfl)]
      exact reads "<最大默认值"
  | false =>
      rw [text "<最小默认值" (by rw [isMax]; rfl)]
      exact reads "<最小默认值"

end Limit

theorem avoids_hex {sign : Char} (noHex : isHexDigit sign = false) : Avoids sign hexColor := by
  intro text value rest done
  change (if (text.take 6).length = 6 && (text.take 6).all isHexDigit then some (text.take 6, text.drop 6) else none) = _ at done
  split at done
  case isTrue six =>
    cases done
    refine ⟨text.take 6, (List.take_append_drop 6 text).symm, fun member => ?_⟩
    rw [Bool.and_eq_true, List.all_eq_true] at six
    rw [six.2 sign member] at noHex
    cases noHex
  case isFalse => cases done

-- What stands between the name of a bar and the closing sign.
def barLook : Scanner (List Char × Char) := do
  Scanner.blanks
  let _ ← Scanner.optional (char '#')
  Scanner.blanks
  let color ← hexColor
  Scanner.blanks
  colon
  Scanner.blanks
  let position ← Scanner.one fun c => c == '上' || c == '下'
  Scanner.blanks
  return (color, position)

theorem avoids_look : Avoids ']' barLook := by
  have spaced : Avoids ']' blanks := avoids_blanks (by decide)
  have hashed : Avoids ']' (Scanner.optional (char '#')) := avoids_optional (avoids_char (by decide))
  exact avoids_bind spaced fun _ => avoids_bind hashed fun _ => avoids_bind spaced fun _ => avoids_bind (avoids_hex (by decide))
    fun _ => avoids_bind spaced fun _ => avoids_bind (avoids_colon (by decide)) fun _ => avoids_bind spaced fun _ =>
    avoids_bind (avoids_one (by decide)) fun _ => avoids_bind spaced fun _ => avoids_pure

def barLead : Scanner Unit := do
  char '['
  Scanner.blanks
  Scanner.word "变量条"
  Scanner.blanks
  colon

theorem variable_bar_parts : variableBar = (do
    barLead
    let name ← Scanner.many1 Video.isBarName
    colon
    let look ← barLook
    char ']'
    return ⟨name, look.1, look.2⟩) := by
  simp only [variableBar, barLead, barLook, bind_assoc, pure_bind]

theorem bar_name_parts : barName = (do barLead; Catalog.barBody) := by
  simp only [barName, barLead, bind_assoc]

-- The front of a bar does not depend on what follows its colon.
theorem bar_lead_reads (text rest : List Char) (done : StateT.run barLead text = some ((), rest)) :
    ∃ lead, text = '[' :: (lead ++ rest) ∧ ']' ∉ lead ∧ Reads barLead ('[' :: lead) () := by
  rw [barLead] at done
  obtain ⟨_, opening, done⟩ := char_then done
  obtain ⟨gap, _, gapShape, gapBlank, done⟩ := blanks_then done
  obtain ⟨_, worded, done⟩ := word_then done
  obtain ⟨space, _, spaceShape, spaceBlank, done⟩ := blanks_then done
  obtain ⟨colonSign, isColon, colonShape⟩ := (colon_succeeds _ _ _).mp done
  have solid : isBlank colonSign = false := by rcases isColon with rfl | rfl <;> decide
  have word : "变量条".toList = '变' :: ['量', '条'] := rfl
  refine ⟨gap ++ ("变量条".toList ++ (space ++ [colonSign])), ?_, ?_, fun other => ?_⟩
  · rw [opening, gapShape, worded, spaceShape, colonShape]
    simp
  · have blankless : ∀ gap : List Char, (∀ c ∈ gap, isBlank c = true) → ']' ∉ gap :=
      fun gap blank member => absurd (blank ']' member) (by decide)
    have other : ']' ≠ colonSign := by rcases isColon with rfl | rfl <;> decide
    simp only [List.mem_append, List.mem_singleton, not_or]
    exact ⟨blankless gap gapBlank, by decide, blankless space spaceBlank, other⟩
  · have started := run_gap gap '变' ('量' :: '条' :: (space ++ colonSign :: other)) gapBlank (by decide)
    have shape : '[' :: (gap ++ ("变量条".toList ++ (space ++ [colonSign]))) ++ other =
        '[' :: (gap ++ '变' :: '量' :: '条' :: (space ++ colonSign :: other)) := by
      rw [word]
      simp
    rw [shape]
    refine (bind_succeeds _ _ _ _ _).mpr ⟨(), _, rfl, ?_⟩
    refine (bind_succeeds _ _ _ _ _).mpr ⟨(), _, started, ?_⟩
    refine (bind_succeeds _ _ _ _ _).mpr ⟨(), _, (word_succeeds "变量条" _ (space ++ colonSign :: other) _).mpr rfl, ?_⟩
    refine (bind_succeeds _ _ _ _ _).mpr ⟨(), _, run_gap space colonSign other spaceBlank solid, ?_⟩
    exact (colon_succeeds _ _ _).mpr ⟨colonSign, isColon, rfl⟩

-- A tag that shows a bar: its front, the name, and the rest behind a colon.
structure BarTag (body lead name tail : List Char) (sign : Char) : Prop where
  shape : body = lead ++ (name ++ sign :: tail)
  reads : Reads barLead ('[' :: lead) ()
  closed : ']' ∉ body
  letters : ∀ c ∈ name, Video.isBarName c = true
  isColon : sign = ':' ∨ sign = '：'

theorem bar_tag (text rest : List Char) (bar : Bar) (done : StateT.run variableBar text = some (bar, rest)) :
    ∃ body lead tail sign, text = enclosed '[' ']' body ++ rest ∧ BarTag body lead bar.name tail sign := by
  rw [variable_bar_parts] at done
  obtain ⟨_, _, first, done⟩ := (bind_succeeds _ _ _ _ _).mp done
  obtain ⟨lead, leadShape, leadClosed, reads⟩ := bar_lead_reads _ _ first
  obtain ⟨name, _, nameShape, _, letters, done⟩ := many1_then done
  obtain ⟨sign, _, signShape, isColon, done⟩ := colon_then done
  obtain ⟨look, _, looked, done⟩ := (bind_succeeds _ _ _ _ _).mp done
  obtain ⟨tail, tailShape, tailClosed⟩ := avoids_look _ _ _ looked
  obtain ⟨_, ends, done⟩ := char_then done
  obtain ⟨rfl, rfl⟩ := (pure_succeeds _ _ _ _).mp done
  have other : ']' ≠ sign := by rcases isColon with rfl | rfl <;> decide
  have nameClosed : ']' ∉ name := fun member => absurd (letters ']' member) (by decide)
  refine ⟨lead ++ (name ++ sign :: tail), lead, tail, sign, ?_, rfl, reads, ?_, letters, isColon⟩
  · rw [leadShape, nameShape, signShape, tailShape, ends]
    simp [enclosed]
  · simp [leadClosed, nameClosed, other, tailClosed]

theorem bar_letter_kept (c : Char) (letter : Video.isBarName c = true) : Catalog.isBarName c = true ∧ isAnyColon c = false := by
  simp only [Video.isBarName, Bool.and_eq_true, decide_eq_true_eq] at letter
  simp [Catalog.isBarName, isAnyColon, letter]

-- The shortest name that blanks and a colon follow: the whole one without the blanks at its end.
theorem name_to_colon (sign : Char) (isColon : sign = ':' ∨ sign = '：') (more name : List Char) (filled : name ≠ [])
    (letters : ∀ c ∈ name, Video.isBarName c = true) (before : List Char) :
    ∃ value gap rest, nameToColon before (name ++ sign :: more) = some (value, rest) ∧ value ++ gap = before.reverse ++ name ∧
      ∀ c ∈ gap, isBlank c = true := by
  induction name generalizing before with
  | nil => exact absurd rfl filled
  | cons c rest ih =>
      have accepted := (bar_letter_kept c (letters c List.mem_cons_self)).1
      have others : ∀ d ∈ rest, Video.isBarName d = true := fun d member => letters d (List.mem_cons_of_mem c member)
      rw [List.cons_append, nameToColon, accepted]
      by_cases blank : rest.dropWhile isBlank = []
      · have each : ∀ d ∈ rest, isBlank d = true := List.dropWhile_eq_nil_iff.mp blank
        have solid : ∀ d ∈ (sign :: more).head?, isBlank d = false := by rcases isColon with rfl | rfl <;> simp <;> decide
        have marked : startsWithColon (sign :: more) = true := by rcases isColon with rfl | rfl <;> rfl
        refine ⟨(c :: before).reverse, rest, more, ?_, by simp, each⟩
        rw [trim_left_gap rest (sign :: more) each solid, marked]
        rfl
      · obtain ⟨d, later, left⟩ := List.exists_cons_of_ne_nil blank
        have inRest : d ∈ rest := (List.dropWhile_sublist isBlank).subset (left ▸ List.mem_cons_self)
        have unmarked : startsWithColon (trimLeft (rest ++ sign :: more)) = false := by
          rw [trimLeft, List.dropWhile_append, if_neg (by simpa using blank), left]
          exact (bar_letter_kept d (others d inRest)).2
        obtain ⟨value, gap, ending, found, joined, blanks⟩ :=
          ih (fun empty => by rw [empty] at inRest; cases inRest) others (c :: before)
        refine ⟨value, gap, ending, ?_, by rw [joined]; simp, blanks⟩
        rw [unmarked]
        exact found

theorem bar_seen (body lead name tail : List Char) (sign : Char) (tag : BarTag body lead name tail sign) (filled : trim name ≠ [])
    (after : List Char) :
    ∃ value rest, StateT.run barName (enclosed '[' ']' body ++ after) = some (value, rest) ∧
      Collector.nameOf? value = Collector.nameOf? name := by
  have solid : trimLeft name ≠ [] := by
    intro empty
    rw [trim, empty] at filled
    exact filled rfl
  have left : trimLeft (name ++ sign :: (tail ++ ']' :: after)) = trimLeft name ++ sign :: (tail ++ ']' :: after) := by
    rw [trimLeft, List.dropWhile_append, if_neg (by simpa [trimLeft] using solid)]
    rfl
  have letters : ∀ c ∈ trimLeft name, Video.isBarName c = true := fun c member =>
    tag.letters c ((List.dropWhile_sublist isBlank).subset member)
  obtain ⟨value, gap, rest, found, joined, blank⟩ :=
    name_to_colon sign tag.isColon (tail ++ ']' :: after) (trimLeft name) solid letters []
  have again : trim (trimLeft name) = trim name := by
    have once : trimLeft (trimLeft name) = trimLeft name := (drop_blanks_unchanged _).mpr (drop_blanks_head name)
    rw [trim, once, trim]
  refine ⟨value, rest, ?_, Collector.name_of_trimmed _ _ ?_⟩
  · have text : enclosed '[' ']' body ++ after = '[' :: lead ++ (name ++ sign :: (tail ++ ']' :: after)) := by
      rw [tag.shape]
      simp [enclosed]
    rw [bar_name_parts, text]
    refine (bind_succeeds _ _ _ _ _).mpr ⟨(), _, tag.reads _, ?_⟩
    change Catalog.barBody _ = _
    rw [Catalog.barBody, left, found]
  · rw [← trim_gap value gap blank, joined]
    exact again

section Mentioned

open Collector

-- Nothing opens between an opening sign and the next closing one.
def Flat (opening closing : Char) (text : List Char) : Prop :=
  ∀ body ∈ insides opening closing text, ∀ c ∈ body, isOpening c = false

def PlainRates (text : List Char) : Prop :=
  ∀ body ∈ insides '<' '>' text, endsPerSecond body = true → isPlainRate body = true

def TightLimits (text : List Char) : Prop :=
  ∀ body ∈ insides '<' '>' text, (StateT.run defaultLimit body).isSome = true → TightLimit body

-- Wherever the recogniser reads, it reads one variable.
def OneName {α : Type} (s : Scanner α) (name : α → List Char) (text : List Char) : Prop :=
  ∀ first ∈ places s text, ∀ second ∈ places s text, nameOf? (name first.value) = nameOf? (name second.value)

instance (opening closing : Char) (text : List Char) : Decidable (Flat opening closing text) :=
  List.decidableBAll _ _

instance (text : List Char) : Decidable (PlainRates text) :=
  List.decidableBAll _ _

instance (body : List Char) : Decidable (TightLimit body) :=
  List.decidableBAll _ _

instance (text : List Char) : Decidable (TightLimits text) :=
  List.decidableBAll _ _

instance {α : Type} (s : Scanner α) (name : α → List Char) (text : List Char) : Decidable (OneName s name text) :=
  List.decidableBAll _ _

variable {raw : List Char}

theorem flat_kept (opening closing : Char) (outside : ¬ isOpening closing = true) (flat : Flat opening closing raw)
    (text : List Char) (thinned : Thinned (isOpening · = true) raw text) (body : List Char) (absent : closing ∉ body)
    (stands : enclosed opening closing body <:+: text) : enclosed opening closing body <:+: raw := by
  obtain ⟨wide, lacks, found, either⟩ := thinned_enclosed opening closing outside raw text thinned body absent stands
  rcases either with rfl | ⟨c, member, opens⟩
  · exact found
  · have quiet := flat wide (inside_listed opening closing raw wide lacks found) c member
    rw [quiet] at opens
    cases opens

-- A name that has an entry has it for something that the text mentions.
def Mentioned (raw name : List Char) : Prop :=
  ∀ entered, nameOf? name = some entered → ∃ other ∈ mentioned raw, nameOf? other = some entered

theorem first_of_one {α : Type} (s : Scanner α) (name : α → List Char) (one : OneName s name raw) (front rest after : List Char)
    (c : Char) (value : α) (split : raw = front ++ c :: rest) (read : StateT.run s (c :: rest) = some (value, after)) :
    ∃ found, s.first? raw = some found ∧ nameOf? (name found.value) = nameOf? (name value) := by
  obtain ⟨own, here, same⟩ : ∃ own, here? s (c :: rest) = some own ∧ own.value = value := ⟨_, by rw [here?, read], rfl⟩
  obtain ⟨found, present⟩ := first_found s front rest c own here
  rw [← split] at present
  have placed := stands_placed s raw found (first_stands s raw found present)
  have ownPlaced := stands_placed s raw own ⟨front, c :: rest, split, here⟩
  exact ⟨found, present, same ▸ one found placed own ownPlaced⟩

theorem rate_mentioned (flat : Flat '<' '>' raw) (plain : PlainRates raw) (text : List Char)
    (thinned : Thinned (isOpening · = true) raw text) (found : Found Change) (stands : rate.Stands text found) :
    Mentioned raw found.value.name := by
  obtain ⟨before, rest, rfl, here⟩ := stands
  obtain ⟨after, read⟩ := here_run rate rest found here
  obtain ⟨body, shape, closed, _, second⟩ := rate_encloses rest after found.value read
  have whole : rest = enclosed '<' '>' body ++ after := by simp [enclosed, shape]
  have inRaw := flat_kept '<' '>' (by decide) flat _ thinned body closed (by rw [whole]; exact ⟨before, after, by simp⟩)
  have written := plain body (inside_listed '<' '>' raw body closed inRaw) (ends_per_second body second)
  obtain ⟨name, gap, sign, space, count, tag⟩ := plain_rate_shape body written
  rw [whole] at read
  have named := plain_rate_named tag found.value after after read
  obtain ⟨front, back, split⟩ := inRaw
  have incremented := plain_rate_incremented tag back
  intro entered known
  refine ⟨name, ?_, ?_⟩
  · obtain ⟨own, here, same⟩ : ∃ own, here? increment (enclosed '<' '>' body ++ back) = some own ∧ own.value = name :=
      ⟨_, by rw [here?, incremented], rfl⟩
    have present : own ∈ increment.all raw := by
      rw [← split, List.append_assoc]
      exact all_found increment '<' increment_fronts front (body ++ ['>'] ++ back) own here 0 (Nat.zero_le _)
    simp only [mentioned, List.mem_append]
    exact .inl (.inl (.inl (.inl (.inl (.inr (List.mem_map.mpr ⟨own, present, same⟩))))))
  · rw [← known, named]
    exact name_of_trimmed _ _ (trim_gap name gap tag.gapBlank).symm

theorem limit_mentioned (flat : Flat '<' '>' raw) (tight : TightLimits raw) (text : List Char)
    (thinned : Thinned (isOpening · = true) raw text) (found : Found Limit) (stands : limit.Stands text found)
    (one : OneName (if found.value.isMax then maxLimit else minLimit) Prod.fst raw) : Mentioned raw found.value.name := by
  obtain ⟨before, rest, rfl, here⟩ := stands
  obtain ⟨after, read⟩ := here_run limit rest found here
  obtain ⟨body, gap, blank, first, second, shape, tag⟩ := limit_tag rest after found.value read
  have inRaw := flat_kept '<' '>' (by decide) flat _ thinned body (limit_tag_closed tag)
    (by rw [shape]; exact ⟨before, after, by simp⟩)
  have started : (StateT.run defaultLimit body).isSome = true := by
    rw [(default_limit_shape body _).mpr ⟨gap, _, blank, first, tag.shape, tag.gapBlank, tag.blankBlank, tag.firstColon⟩]
    rfl
  have written := tight body (inside_listed '<' '>' raw body (limit_tag_closed tag) inRaw) started
  obtain ⟨front, back, split⟩ := inRaw
  have opened : raw = front ++ '<' :: (body ++ ['>'] ++ back) := by
    rw [← split]
    simp [enclosed]
  obtain ⟨sighted, present, same⟩ :=
    first_of_one _ Prod.fst one front (body ++ ['>'] ++ back) back '<' _ opened (limit_seen tag written back)
  intro entered known
  refine ⟨sighted.value.1, ?_, same.trans known⟩
  simp only [mentioned, List.mem_append]
  cases isMax : found.value.isMax with
  | true =>
      rw [isMax, if_pos rfl] at present
      exact .inl (.inl (.inl (.inl (.inl (.inl (.inl (.inr (by simp [present]))))))))
  | false =>
      rw [isMax, if_neg Bool.false_ne_true] at present
      exact .inl (.inl (.inl (.inl (.inl (.inl (.inr (by simp [present])))))))

theorem bar_mentioned (flat : Flat '[' ']' raw) (text : List Char) (thinned : Thinned (isOpening · = true) raw text)
    (found : Found Bar) (stands : variableBar.Stands text found) (one : OneName Catalog.barName id raw) :
    Mentioned raw found.value.name := by
  obtain ⟨before, rest, rfl, here⟩ := stands
  obtain ⟨after, read⟩ := here_run variableBar rest found here
  obtain ⟨body, lead, tail, sign, shape, tag⟩ := bar_tag rest after found.value read
  have inRaw := flat_kept '[' ']' (by decide) flat _ thinned body tag.closed (by rw [shape]; exact ⟨before, after, by simp⟩)
  obtain ⟨front, back, split⟩ := inRaw
  have opened : raw = front ++ '[' :: (body ++ [']'] ++ back) := by
    rw [← split]
    simp [enclosed]
  intro entered known
  have filled : trim found.value.name ≠ [] := by
    intro empty
    rw [nameOf?, Catalog.normalize, empty] at known
    cases known
  obtain ⟨value, beyond, seen, named⟩ := bar_seen body lead found.value.name tail sign tag filled back
  obtain ⟨sighted, present, same⟩ := first_of_one _ id one front (body ++ [']'] ++ back) beyond '[' value opened seen
  refine ⟨sighted.value, ?_, same.trans (named.trans known)⟩
  simp only [mentioned, List.mem_append]
  exact .inl (.inl (.inl (.inl (.inl (.inl (.inl (.inl (by simp [present]))))))))

end Mentioned

end Video

end TaggedStory
