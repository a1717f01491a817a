import TaggedStory.Proofs.Tag.Splitting
/-!
Texts in which all signs of the operators stand side by side, so that they are split at one place only, and operands that
hold no such signs.
-/
set_option autoImplicit false

namespace TaggedStory.Tag

open Text Scanner

-- All signs of a text stand side by side in one symbol.
structure Lone (signs lead symbol rest : List Char) : Prop where
  filled : symbol ≠ []
  known : ∀ c ∈ symbol, c ∈ signs
  clearLead : ∀ c ∈ signs, c ∉ lead
  clearRest : ∀ c ∈ signs, c ∉ rest

section Signs

variable (signs text : List Char)

theorem filter_clear (clear : ∀ c ∈ signs, c ∉ text) : text.filter (· ∈ signs) = [] :=
  List.filter_eq_nil_iff.mpr fun c member => by simpa using fun sign => clear c sign member

theorem filter_known (known : ∀ c ∈ text, c ∈ signs) : text.filter (· ∈ signs) = text :=
  List.filter_eq_self.mpr fun c member => by simpa using known c member

end Signs

namespace Lone

variable {signs lead symbol rest : List Char} (lone : Lone signs lead symbol rest)

include lone

theorem signs_found : (lead ++ (symbol ++ rest)).filter (· ∈ signs) = symbol := by
  rw [List.filter_append, List.filter_append, filter_clear signs lead lone.clearLead, filter_known signs symbol lone.known,
    filter_clear signs rest lone.clearRest, List.nil_append, List.append_nil]

-- Signs that stand side by side in the text stand so in the symbol.
theorem within (front other after : List Char) (known : ∀ c ∈ other, c ∈ signs)
    (same : lead ++ (symbol ++ rest) = front ++ (other ++ after)) : other <:+: symbol := by
  have found := lone.signs_found
  rw [same, List.filter_append, List.filter_append, filter_known signs other known] at found
  exact ⟨_, _, by rw [List.append_assoc, found]⟩

theorem place (front after : List Char) (same : lead ++ (symbol ++ rest) = front ++ (symbol ++ after)) :
    front = lead ∧ after = rest := by
  have found := congrArg List.length lone.signs_found
  rw [same, List.filter_append, List.filter_append, filter_known signs symbol lone.known] at found
  simp only [List.length_append] at found
  have clear : front.filter (· ∈ signs) = [] := List.length_eq_zero_iff.mp (by omega)
  obtain ⟨c, more, shape⟩ := List.exists_cons_of_ne_nil lone.filled
  have sign : c ∈ signs := lone.known c (by rw [shape]; exact List.mem_cons_self)
  have absent : c ∉ front := fun member => by simpa [sign] using List.filter_eq_nil_iff.mp clear c member
  rw [shape, List.cons_append, List.cons_append] at same
  obtain ⟨rfl, rests⟩ := first_closing_unique c front lead _ _ absent (lone.clearLead c sign) same.symm
  exact ⟨rfl, List.append_cancel_left rests⟩

end Lone

-- A name or a value as it stands between blanks.
structure Operand (signs text : List Char) : Prop where
  filled : text ≠ []
  tight : Tight text
  inline : '\n' ∉ text
  unsigned : ∀ c ∈ signs, c ∉ text

instance (signs text : List Char) : Decidable (Operand signs text) :=
  decidable_of_iff (text ≠ [] ∧ ((∀ c ∈ text.head?, isBlank c = false) ∧ ∀ c ∈ text.getLast?, isBlank c = false) ∧
      '\n' ∉ text ∧ ∀ c ∈ signs, c ∉ text)
    ⟨fun ⟨filled, tight, inline, unsigned⟩ => ⟨filled, tight, inline, unsigned⟩,
      fun operand => ⟨operand.filled, operand.tight, operand.inline, operand.unsigned⟩⟩

theorem blank_lacks (gap : List Char) (blank : ∀ c ∈ gap, isBlank c = true) (c : Char) (solid : isBlank c = false) : c ∉ gap := by
  intro member
  rw [blank c member] at solid
  cases solid

section Splits

variable {α : Type} {operator : Scanner α} {letters : α → List Char} {accepted : α → Prop}
variable (spelled : Spelled operator letters accepted) (value? : List Char → Option (List Char)) {signs : List Char}
variable (known : ∀ other, ∀ c ∈ letters other, c ∈ signs)

include spelled known

-- No operator is found whose letters do not stand in the symbol.
theorem lone_none (lead symbol rest : List Char) (lone : Lone signs lead symbol rest)
    (outside : ∀ other, accepted other → ¬ letters other <:+: symbol) : split? operator value? (lead ++ (symbol ++ rest)) = none :=
  split_none spelled value? _ fun front after other _ accept same =>
    absurd (lone.within front _ after (known other) same) (outside other accept)

variable (before name left rest value : List Char) (found : α)

theorem lone_split (named : Operand signs name) (blankBefore : ∀ c ∈ before, isBlank c = true) (inline : '\n' ∉ before)
    (blankLeft : ∀ c ∈ left, isBlank c = true) (lone : Lone signs (before ++ (name ++ left)) (letters found) rest)
    (accept : accepted found) (alike : ∀ other, (letters other).length = (letters found).length) (read : value? rest = some value) :
    split? operator value? (before ++ (name ++ (left ++ (letters found ++ rest)))) = some ⟨name, found, value⟩ := by
  have own : operation? operator value? (left ++ (letters found ++ rest)) = some (found, value) :=
    (operation_iff spelled value? _ _ _).mpr ⟨left, rest, rfl, blankLeft, accept, read⟩
  have trimmed : trim (before ++ name) = name := by
    simpa using trim_between before name [] named.filled named.tight blankBefore (by simp)
  have solid : ∀ c ∈ (before ++ name).getLast?, isBlank c = false := by
    rw [List.getLast?_append_of_ne_nil _ named.filled]
    exact named.tight.2
  have led := split_led spelled value? (before ++ name) _ value found (List.append_ne_nil_of_right_ne_nil _ named.filled) solid
    (by simp [inline, named.inline]) own ?_
  · rw [← List.append_assoc, led, trimmed]
  · intro front after other _ _ shape
    have whole : before ++ (name ++ left) ++ (letters found ++ rest) = front ++ (letters other ++ after) := by
      rw [← shape]
      simp
    have same := (lone.within front _ after (known other) whole).eq_of_length (alike other)
    rw [same] at whole
    exact ⟨left, by rw [(lone.place front after whole).1, List.append_assoc]⟩

end Splits

end TaggedStory.Tag
