import TaggedStory.Proofs.Text.Members
import TaggedStory.Proofs.Text.Stripping
import TaggedStory.Text.Width
/-!
Texts without blanks at their ends, and the plain texts that a tag can carry as they are.
-/
set_option autoImplicit false

namespace TaggedStory.Text

-- No blank at either end; the empty text has none.
def Tight (text : List Char) : Prop :=
  (∀ c ∈ text.head?, isBlank c = false) ∧ ∀ c ∈ text.getLast?, isBlank c = false

theorem drop_blanks_unchanged (text : List Char) :
    text.dropWhile isBlank = text ↔ ∀ c ∈ text.head?, isBlank c = false :=
  drop_while_unchanged isBlank text

theorem trim_tight (text : List Char) (tight : Tight text) : trim text = text :=
  (strip_fixed isBlank text).mpr tight

theorem trim_inside (text : List Char) : trim text <:+: text :=
  strip_inside isBlank text

theorem drop_blanks_head (text : List Char) : ∀ c ∈ (text.dropWhile isBlank).head?, isBlank c = false :=
  drop_while_head isBlank text

theorem trim_tightens (text : List Char) : Tight (trim text) :=
  strip_stripped isBlank text

theorem trim_trim (text : List Char) : trim (trim text) = trim text :=
  trim_tight _ (trim_tightens text)

theorem trim_solid (c : Char) (rest : List Char) (solid : isBlank c = false) : trim (c :: rest) ≠ [] := by
  have left : trimLeft (c :: rest) = c :: rest := (drop_blanks_unchanged _).mpr (by simpa using solid)
  rw [trim, left, trimRight, ne_eq, List.reverse_eq_nil_iff, List.dropWhile_eq_nil_iff]
  intro blank
  rw [blank c (by simp)] at solid
  cases solid

theorem trim_fixed_tight (text : List Char) (fixed : trim text = text) : Tight text :=
  (strip_fixed isBlank text).mp fixed

theorem trim_spaced (text : List Char) (nonempty : text ≠ []) (tight : Tight text) : trim (text ++ [' ']) = text := by
  have left : trimLeft (text ++ [' ']) = text ++ [' '] := by
    refine (drop_blanks_unchanged _).mpr ?_
    have head := tight.1
    rw [List.head?_append]
    rw [List.head?_eq_some_head nonempty] at head ⊢
    exact head
  have right : text.reverse.dropWhile isBlank = text.reverse :=
    (drop_blanks_unchanged text.reverse).mpr (by simpa using tight.2)
  rw [trim, left, trimRight, List.reverse_append, List.reverse_singleton, List.singleton_append,
    List.dropWhile_cons_of_pos (by decide), right, List.reverse_reverse]

theorem tight_nil : Tight [] := by
  simp [Tight]

theorem tight_joined (text next : List Char) (nonempty : text ≠ []) (other : next ≠ [])
    (first : ∀ c ∈ text.head?, isBlank c = false) (last : ∀ c ∈ next.getLast?, isBlank c = false) :
    Tight (text ++ next) := by
  refine ⟨?_, ?_⟩
  · rw [List.head?_append]
    rw [List.head?_eq_some_head nonempty] at first ⊢
    rwa [Option.some_or]
  · rw [List.getLast?_append]
    rw [List.getLast?_eq_some_getLast other] at last ⊢
    rwa [Option.some_or]

theorem tight_append (text next : List Char) (first : Tight text) (second : Tight next) :
    Tight (text ++ next) := by
  by_cases empty : text = []
  · rwa [empty, List.nil_append]
  · by_cases emptyNext : next = []
    · rwa [emptyNext, List.append_nil]
    · exact tight_joined text next empty emptyNext first.1 second.2

theorem tight_insert (text inner next : List Char) (whole : Tight (text ++ next)) (tight : Tight inner) :
    Tight (text ++ (inner ++ next)) := by
  by_cases empty : text = []
  · rw [empty, List.nil_append] at whole ⊢
    exact tight_append inner next tight whole
  · by_cases emptyNext : next = []
    · rw [emptyNext, List.append_nil] at whole ⊢
      exact tight_append text inner whole tight
    · obtain ⟨first, last⟩ := whole
      rw [List.head?_append, List.head?_eq_some_head empty, Option.some_or] at first
      rw [List.getLast?_append, List.getLast?_eq_some_getLast emptyNext, Option.some_or] at last
      refine tight_joined _ _ empty (List.append_ne_nil_of_right_ne_nil inner emptyNext) ?_ ?_
      · rwa [List.head?_eq_some_head empty]
      · rwa [List.getLast?_append, List.getLast?_eq_some_getLast emptyNext, Option.some_or]

theorem tight_flatten (pieces : List (List Char)) (each : ∀ piece ∈ pieces, Tight piece) :
    Tight pieces.flatten := by
  induction pieces with
  | nil => exact tight_nil
  | cons piece pieces ih =>
      rw [List.flatten_cons]
      exact tight_append piece _ (each piece List.mem_cons_self)
        (ih fun piece member => each piece (List.mem_cons_of_mem _ member))

theorem tight_enclosed (opening closing : Char) (body : List Char) (first : isBlank opening = false)
    (last : isBlank closing = false) : Tight (opening :: (body ++ [closing])) := by
  refine ⟨by simpa using first, ?_⟩
  rw [← List.cons_append, List.getLast?_concat]
  simpa using last

def isSign (c : Char) : Bool :=
  c == '[' || c == ']' || c == '《' || c == '》' || c == '<' || c == '>' || c == '\x7b' || c == '\x7d'

def isWide (c : Char) : Bool :=
  (0xff01 ≤ c.toNat && c.toNat ≤ 0xff5e) || c.toNat == 0x3000

structure Plain (text : String) : Prop where
  nonempty : text ≠ ""
  trimmed : trim text.toList = text.toList
  inline : '\n' ∉ text.toList
  unsigned : ∀ c ∈ text.toList, isSign c = false
  halfWidth : ∀ c ∈ text.toList, isWide c = false

instance (text : String) : Decidable (Plain text) :=
  decidable_of_iff (text ≠ "" ∧ trim text.toList = text.toList ∧ '\n' ∉ text.toList ∧
      (∀ c ∈ text.toList, isSign c = false) ∧ ∀ c ∈ text.toList, isWide c = false)
    ⟨fun ⟨nonempty, trimmed, inline, unsigned, halfWidth⟩ => ⟨nonempty, trimmed, inline, unsigned, halfWidth⟩,
      fun plain => ⟨plain.nonempty, plain.trimmed, plain.inline, plain.unsigned, plain.halfWidth⟩⟩

theorem narrow_char_half (c : Char) (half : isWide c = false) : narrowChar c = c := by
  simp only [isWide, Bool.or_eq_false_iff, Bool.and_eq_false_iff, decide_eq_false_iff_not, beq_eq_false_iff_ne] at half
  rw [narrowChar, if_neg (fun wide => half.1.elim (absurd wide.1) (absurd wide.2)), if_neg half.2]

theorem narrow_half (text : List Char) (half : ∀ c ∈ text, isWide c = false) : narrow text = text := by
  have each : text.map narrowChar = text.map id :=
    List.map_congr_left fun c member => narrow_char_half c (half c member)
  rw [narrow, each, List.map_id]

theorem narrow_char_place (c : Char) (wide : 0xff01 ≤ c.toNat ∧ c.toNat ≤ 0xff5e) : (narrowChar c).toNat = c.toNat - 0xfee0 := by
  have small : c.toNat - 0xfee0 < 0xd800 := by omega
  rw [narrowChar, if_pos wide, Char.ofNat, dif_pos (.inl small)]
  rfl

theorem narrow_is_half (text : List Char) : ∀ c ∈ narrow text, isWide c = false := by
  intro c member
  obtain ⟨d, _, rfl⟩ := List.mem_map.mp member
  by_cases wide : 0xff01 ≤ d.toNat ∧ d.toNat ≤ 0xff5e
  · simp only [isWide, narrow_char_place d wide, Bool.or_eq_false_iff, Bool.and_eq_false_iff, decide_eq_false_iff_not,
      beq_eq_false_iff_ne]
    omega
  · rw [narrowChar, if_neg wide]
    split
    case isTrue => decide
    case isFalse solid =>
      simp only [isWide, Bool.or_eq_false_iff, Bool.and_eq_false_iff, decide_eq_false_iff_not, beq_eq_false_iff_ne]
      exact ⟨not_and_or.mp wide, solid⟩

theorem trim_empty (text : List Char) : trim text = [] ↔ ∀ c ∈ text, isBlank c = true := by
  induction text with
  | nil => simp [trim, trimLeft, trimRight]
  | cons c text ih =>
      cases blank : isBlank c with
      | false => simp [trim_solid c text blank, blank]
      | true =>
          have shorter : trim (c :: text) = trim text := by rw [trim, trimLeft, List.dropWhile_cons_of_pos blank]; rfl
          simp [shorter, ih, blank]

theorem blank_narrow (c : Char) : isBlank (narrowChar c) = isBlank c := by
  by_cases wide : 0xff01 ≤ c.toNat ∧ c.toNat ≤ 0xff5e
  · rw [Bool.eq_iff_iff]
    simp only [isBlank, narrow_char_place c wide, Bool.or_eq_true, Bool.and_eq_true, decide_eq_true_eq, beq_iff_eq]
    omega
  · rw [narrowChar, if_neg wide]
    split
    case isTrue ideographic => simp [isBlank, ideographic]
    case isFalse => rfl

theorem trim_empty_narrow (text : List Char) : (trim (narrow text)).isEmpty = (trim text).isEmpty := by
  rw [Bool.eq_iff_iff, List.isEmpty_iff, List.isEmpty_iff, trim_empty, trim_empty]
  simp only [narrow, List.forall_mem_map, blank_narrow]

theorem narrow_twice (text : List Char) : narrow (narrow text) = narrow text :=
  narrow_half _ (narrow_is_half text)

theorem narrowed_twice (text : String) : narrowed (narrowed text) = narrowed text := by
  simp only [narrowed, String.toList_ofList, narrow_twice]

-- Neither a sign nor a wide character, as a tag may hold between the signs that enclose it.
def Calm (text : List Char) : Prop :=
  ∀ c ∈ text, isSign c = false ∧ isWide c = false

instance (text : List Char) : Decidable (Calm text) :=
  inferInstanceAs (Decidable (∀ c ∈ text, isSign c = false ∧ isWide c = false))

namespace Calm

variable {text next : List Char}

theorem append (first : Calm text) (second : Calm next) : Calm (text ++ next) :=
  List.forall_mem_append.mpr ⟨first, second⟩

theorem cons {c : Char} (first : isSign c = false ∧ isWide c = false) (calm : Calm text) : Calm (c :: text) :=
  List.forall_mem_cons.mpr ⟨first, calm⟩

theorem absent (calm : Calm text) (c : Char) (sign : isSign c = true) : c ∉ text := by
  intro member
  rw [(calm c member).1] at sign
  cases sign

end Calm

namespace Plain

variable {text : String}

theorem nonempty_list (plain : Plain text) : text.toList ≠ [] := by
  simpa using plain.nonempty

theorem tight (plain : Plain text) : Tight text.toList :=
  trim_fixed_tight text.toList plain.trimmed

theorem calm (plain : Plain text) : Calm text.toList :=
  fun c member => ⟨plain.unsigned c member, plain.halfWidth c member⟩

theorem absent (plain : Plain text) (c : Char) (sign : isSign c = true) : c ∉ text.toList :=
  plain.calm.absent c sign

end Plain

theorem tight_optional (text : String) (either : text = "" ∨ Plain text) : Tight text.toList := by
  rcases either with rfl | filled
  · exact tight_nil
  · exact filled.tight

-- A piece that can stand anywhere in a text in which none of some signs is to be found.
structure Tame (signs : List Char) (text : List Char) : Prop where
  tight : Tight text
  clear : ∀ c ∈ text, c ∉ signs
  half : ∀ c ∈ text, isWide c = false

namespace Tame

variable {signs : List Char}

theorem nil : Tame signs [] :=
  ⟨tight_nil, by simp, by simp⟩

theorem append (text next : List Char) (first : Tame signs text) (second : Tame signs next) :
    Tame signs (text ++ next) :=
  ⟨tight_append text next first.tight second.tight,
    fun c member => (List.mem_append.mp member).elim (first.clear c) (second.clear c),
    fun c member => (List.mem_append.mp member).elim (first.half c) (second.half c)⟩

theorem flatMap {α : Type} (items : List α) (piece : α → List Char) (each : ∀ item ∈ items, Tame signs (piece item)) :
    Tame signs (items.flatMap piece) := by
  induction items with
  | nil => exact nil
  | cons item items ih =>
      rw [List.flatMap_cons]
      exact append _ _ (each item List.mem_cons_self) (ih fun other member => each other (List.mem_cons_of_mem _ member))

theorem fewer (other text : List Char) (tame : Tame signs text) (within : ∀ c ∈ other, c ∈ signs) : Tame other text :=
  ⟨tame.tight, fun c member sign => tame.clear c member (within c sign), tame.half⟩

theorem absent {text : List Char} (tame : Tame signs text) (c : Char) (sign : c ∈ signs) : c ∉ text :=
  fun member => tame.clear c member sign

theorem plain (text : String) (plain : Plain text) (known : ∀ c ∈ signs, isSign c = true) : Tame signs text.toList :=
  ⟨plain.tight, fun c member sign => plain.absent c (known c sign) member, plain.halfWidth⟩

theorem optional (text : String) (either : text = "" ∨ Plain text) (known : ∀ c ∈ signs, isSign c = true) :
    Tame signs text.toList := by
  rcases either with rfl | filled
  · exact nil
  · exact Tame.plain text filled known

theorem enclosed (opening closing : Char) (body : List Char) (first : isBlank opening = false)
    (last : isBlank closing = false) (ends : ∀ c ∈ [opening, closing], c ∉ signs ∧ isWide c = false)
    (clear : ∀ c ∈ body, c ∉ signs) (half : ∀ c ∈ body, isWide c = false) :
    Tame signs (opening :: (body ++ [closing])) := by
  refine ⟨tight_enclosed opening closing body first last, fun c member => ?_, fun c member => ?_⟩ <;>
    rw [List.mem_cons, List.mem_append, List.mem_singleton] at member
  · rcases member with rfl | member | rfl
    · exact (ends c (by simp)).1
    · exact clear c member
    · exact (ends c (by simp)).1
  · rcases member with rfl | member | rfl
    · exact (ends c (by simp)).2
    · exact half c member
    · exact (ends c (by simp)).2

theorem angled (known : ∀ c ∈ signs, isSign c = true ∧ c ≠ '<' ∧ c ≠ '>') (body : List Char)
    (calm : Calm body) : Tame signs ('<' :: (body ++ ['>'])) := by
  refine Tame.enclosed '<' '>' _ (by decide) (by decide) (fun c member => ?_)
    (fun c member sign => calm.absent c (known c sign).1 member) fun c member => (calm c member).2
  rw [List.mem_cons, List.mem_singleton] at member
  rcases member with rfl | rfl
  · exact ⟨fun sign => (known '<' sign).2.1 rfl, by decide⟩
  · exact ⟨fun sign => (known '>' sign).2.2 rfl, by decide⟩

end Tame

end TaggedStory.Text
