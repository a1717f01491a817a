import TaggedStory.Proofs.Text.Members
import TaggedStory.Text.Scanner
/-!
What a recogniser does with a text made of pieces: it reads a piece whatever follows it, or finds
nothing at any place of one.
-/
set_option autoImplicit false

namespace TaggedStory.Text

theorem drop_word_append (word rest : List Char) : dropWord? word (word ++ rest) = some rest := by
  induction word with
  | nil => cases rest <;> rfl
  | cons w word ih => rw [List.cons_append, dropWord?, if_pos rfl, ih]

theorem drop_word_some (word text rest : List Char) :
    dropWord? word text = some rest ↔ text = word ++ rest := by
  constructor
  · intro found
    induction word generalizing text with
    | nil =>
        rw [dropWord?] at found
        simpa using found
    | cons w word ih =>
        cases text with
        | nil => cases found
        | cons c text =>
            rw [dropWord?] at found
            by_cases same : w = c
            · rw [if_pos same] at found
              rw [ih text found, same, List.cons_append]
            · rw [if_neg same] at found
              cases found
  · intro same
    rw [same, drop_word_append]

-- Two words differ at a place that both have.
def clash : List Char → List Char → Bool
  | w :: word, c :: lead => w != c || clash word lead
  | _, _ => false

theorem clash_dropped (word lead rest : List Char) (different : clash word lead = true) :
    dropWord? word (lead ++ rest) = none := by
  induction word generalizing lead with
  | nil => cases lead <;> cases different
  | cons w word ih =>
      cases lead with
      | nil => cases different
      | cons c lead =>
          rw [List.cons_append, dropWord?]
          by_cases same : w = c
          · rw [if_pos same]
            rw [clash, same, bne_self_eq_false, Bool.false_or] at different
            exact ih lead different
          · rw [if_neg same]

theorem remove_first_front (word rest : List Char) (nonempty : word ≠ []) :
    removeFirst word (word ++ rest) = rest := by
  cases word with
  | nil => exact absurd rfl nonempty
  | cons w word =>
      have front := drop_word_append (w :: word) rest
      rw [List.cons_append] at front ⊢
      rw [removeFirst, front]

namespace Scanner

variable {α β : Type}

def Reads (s : Scanner α) (piece : List Char) (value : α) : Prop :=
  ∀ rest, StateT.run s (piece ++ rest) = some (value, rest)

def Refuses (s : Scanner α) (lead : List Char) : Prop :=
  ∀ rest, StateT.run s (lead ++ rest) = none

-- The recogniser refuses at every place of a piece that `rest` follows.
def Misses (s : Scanner α) : List Char → List Char → Prop
  | [], _ => True
  | c :: piece, rest => StateT.run s (c :: (piece ++ rest)) = none ∧ Misses s piece rest

instance decideMisses (s : Scanner α) : (piece rest : List Char) → Decidable (Misses s piece rest)
  | [], _ => isTrue trivial
  | c :: piece, rest =>
      have := decideMisses s piece rest
      inferInstanceAs (Decidable (StateT.run s (c :: (piece ++ rest)) = none ∧ Misses s piece rest))

def Skips (s : Scanner α) (piece : List Char) : Prop :=
  ∀ rest, Misses s piece rest

def Opens (s : Scanner α) (sign : Char) : Prop :=
  ∀ c rest, c ≠ sign → StateT.run s (c :: rest) = none

-- Nothing is read from a text that does not start with the word.
def Begins (s : Scanner α) (expected : String) : Prop :=
  ∀ text, dropWord? expected.toList text = none → StateT.run s text = none

section Openings

theorem opens_one (accepts : Char → Bool) (sign : Char) (only : ∀ c, accepts c = true → c = sign) :
    Opens (one accepts) sign := by
  intro c rest different
  have rejected : accepts c = false := by
    cases accepted : accepts c with
    | false => rfl
    | true => exact absurd (only c accepted) different
  change (if accepts c then some (c, rest) else none) = none
  rw [rejected]
  rfl

theorem opens_word (expected : String) (sign : Char) (first : expected.toList.head? = some sign) :
    Opens (word expected) sign := by
  intro c rest different
  obtain ⟨tail, shape⟩ := List.head?_eq_some_iff.mp first
  change (dropWord? expected.toList (c :: rest)).map _ = none
  rw [shape, dropWord?, if_neg (Ne.symm different)]
  rfl

theorem opens_bind (s : Scanner α) (next : α → Scanner β) (sign : Char) (opens : Opens s sign) :
    Opens (s >>= next) sign := by
  intro c rest different
  rw [StateT.run_bind, opens c rest different]
  rfl

theorem opens_or_else (s t : Scanner α) (sign : Char) (first : Opens s sign) (second : Opens t sign) :
    Opens (s <|> t) sign := by
  intro c rest different
  change (StateT.run s (c :: rest) <|> StateT.run t (c :: rest)) = none
  rw [first c rest different, second c rest different]
  rfl

theorem opens_begins (s : Scanner α) (expected : String) (sign : Char) (begins : Begins s expected)
    (first : expected.toList.head? = some sign) : Opens s sign := by
  intro c rest different
  obtain ⟨tail, shape⟩ := List.head?_eq_some_iff.mp first
  refine begins _ ?_
  rw [shape, dropWord?, if_neg (Ne.symm different)]

theorem begins_word (expected : String) : Begins (word expected) expected := by
  intro text other
  change (dropWord? expected.toList text).map _ = none
  rw [other]
  rfl

theorem begins_bind (s : Scanner α) (next : α → Scanner β) (expected : String) (begins : Begins s expected) :
    Begins (s >>= next) expected := by
  intro text other
  rw [StateT.run_bind, begins text other]
  rfl

theorem begins_refuses (s : Scanner α) (expected : String) (begins : Begins s expected) (leads : List String)
    (clashes : ∀ lead ∈ leads, clash expected.toList lead.toList = true) : ∀ lead ∈ leads, Refuses s lead.toList :=
  fun lead member rest => begins _ (clash_dropped _ _ rest (clashes lead member))

theorem or_else_refuses (s t : Scanner α) (lead : List Char) (first : Refuses s lead) (second : Refuses t lead) :
    Refuses (s <|> t) lead := by
  intro rest
  change (StateT.run s (lead ++ rest) <|> StateT.run t (lead ++ rest)) = none
  rw [first rest, second rest]
  rfl

theorem begins_longer (expected longer : String) (leads : expected.toList <+: longer.toList) :
    Begins (word longer) expected := by
  intro text other
  cases dropped : dropWord? longer.toList text with
  | none => exact Option.map_eq_none_iff.mpr dropped
  | some rest =>
      obtain ⟨more, same⟩ := leads
      rw [(drop_word_some _ _ _).mp dropped, ← same, List.append_assoc, drop_word_append] at other
      cases other

end Openings

section Missing

variable (s : Scanner α)

theorem misses_append (piece next rest : List Char) :
    Misses s (piece ++ next) rest ↔ Misses s piece (next ++ rest) ∧ Misses s next rest := by
  induction piece with
  | nil => simp [Misses]
  | cons c piece ih => simp only [List.cons_append, Misses, ih, List.append_assoc, and_assoc]

theorem misses_each (piece rest : List Char) (refused : ∀ c ∈ piece, ∀ after, StateT.run s (c :: after) = none) :
    Misses s piece rest := by
  induction piece with
  | nil => trivial
  | cons c piece ih =>
      exact ⟨refused c List.mem_cons_self _, ih fun d member => refused d (List.mem_cons_of_mem c member)⟩

theorem misses_unopened (sign : Char) (opens : Opens s sign) (piece rest : List Char)
    (absent : sign ∉ piece) : Misses s piece rest :=
  misses_each s piece rest fun c member after => opens c after fun same => absent (same ▸ member)

theorem misses_begins (expected : String) (begins : Begins s expected) (piece rest : List Char)
    (misses : Misses (word expected) piece rest) : Misses s piece rest := by
  induction piece with
  | nil => trivial
  | cons c piece ih => exact ⟨begins _ (Option.map_eq_none_iff.mp misses.1), ih misses.2⟩

theorem skips_unopened (sign : Char) (opens : Opens s sign) (piece : List Char) (absent : sign ∉ piece) :
    Skips s piece :=
  fun rest => misses_unopened s sign opens piece rest absent

theorem skips_nil : Skips s [] :=
  fun _ => trivial

theorem skips_append (piece next : List Char) (first : Skips s piece) (second : Skips s next) :
    Skips s (piece ++ next) :=
  fun rest => (misses_append s piece next rest).mpr ⟨first _, second rest⟩

theorem skips_flat_map {ι : Type} (items : List ι) (piece : ι → List Char) (each : ∀ item ∈ items, Skips s (piece item)) :
    Skips s (items.flatMap piece) := by
  induction items with
  | nil => exact skips_nil s
  | cons item items ih =>
      rw [List.flatMap_cons]
      exact skips_append s _ _ (each item List.mem_cons_self)
        (ih fun other member => each other (List.mem_cons_of_mem _ member))

theorem here_none (text : List Char) (refused : StateT.run s text = none) : here? s text = none := by
  rw [here?, refused]

theorem first_misses (piece rest : List Char) (misses : Misses s piece rest) :
    first? s (piece ++ rest) = first? s rest := by
  induction piece with
  | nil => rfl
  | cons c piece ih => rw [List.cons_append, first?, here_none s _ misses.1, ih misses.2]

theorem first_none (text : List Char) (misses : Misses s text []) : first? s text = none := by
  have skipped := first_misses s text [] misses
  rwa [List.append_nil] at skipped

theorem all_misses (piece rest : List Char) (misses : Misses s piece rest) :
    all s (piece ++ rest) = all s rest := by
  induction piece with
  | nil => rfl
  | cons c piece ih =>
      have skipped := ih misses.2
      rw [all] at skipped ⊢
      rw [List.cons_append, allFrom, here_none s _ misses.1, skipped]

theorem all_none (text : List Char) (misses : Misses s text []) : all s text = [] := by
  have skipped := all_misses s text [] misses
  rwa [List.append_nil] at skipped

theorem erase_misses (piece rest : List Char) (misses : Misses s piece rest) :
    erase s (piece ++ rest) = piece ++ erase s rest := by
  induction piece with
  | nil => rfl
  | cons c piece ih =>
      have skipped := ih misses.2
      rw [erase] at skipped ⊢
      rw [List.cons_append, eraseFrom, here_none s _ misses.1, skipped]
      rfl

theorem erase_none (text : List Char) (misses : Misses s text []) : erase s text = text := by
  have skipped := erase_misses s text [] misses
  rwa [List.append_nil, show erase s [] = [] from rfl, List.append_nil] at skipped

theorem remove_first_misses (expected : String) (piece rest : List Char)
    (misses : Misses (word expected) piece rest) :
    removeFirst expected.toList (piece ++ rest) = piece ++ removeFirst expected.toList rest := by
  induction piece with
  | nil => rfl
  | cons c piece ih =>
      have refused : dropWord? expected.toList (c :: (piece ++ rest)) = none := Option.map_eq_none_iff.mp misses.1
      rw [List.cons_append, removeFirst, refused, List.cons_append, ih misses.2]

end Missing

section Reading

variable (s : Scanner α) (piece : List Char) (value : α)

theorem here_reads (reads : Reads s piece value) (rest : List Char) :
    here? s (piece ++ rest) = some ⟨piece, value⟩ := by
  rw [here?, reads rest]
  simp

theorem first_reads (nonempty : piece ≠ []) (reads : Reads s piece value) (rest : List Char) :
    first? s (piece ++ rest) = some ⟨piece, value⟩ := by
  cases piece with
  | nil => exact absurd rfl nonempty
  | cons c piece =>
      have here := here_reads s (c :: piece) value reads rest
      rw [List.cons_append] at here ⊢
      rw [first?, here]

theorem all_from_skips (token rest : List Char) : allFrom s token.length (token ++ rest) = allFrom s 0 rest := by
  induction token with
  | nil => rfl
  | cons c token ih => rw [List.length_cons, List.cons_append, allFrom, ih]

theorem all_reads (nonempty : piece ≠ []) (reads : Reads s piece value) (rest : List Char) :
    all s (piece ++ rest) = ⟨piece, value⟩ :: all s rest := by
  cases piece with
  | nil => exact absurd rfl nonempty
  | cons c piece =>
      have here := here_reads s (c :: piece) value reads rest
      rw [List.cons_append] at here ⊢
      rw [all, allFrom, here]
      simp only [List.length_cons, Nat.add_sub_cancel, all_from_skips]
      rfl

theorem erase_from_skips (token rest : List Char) :
    eraseFrom s token.length (token ++ rest) = eraseFrom s 0 rest := by
  induction token with
  | nil => rfl
  | cons c token ih => rw [List.length_cons, List.cons_append, eraseFrom, ih]

theorem erase_reads (nonempty : piece ≠ []) (reads : Reads s piece value) (rest : List Char) :
    erase s (piece ++ rest) = erase s rest := by
  cases piece with
  | nil => exact absurd rfl nonempty
  | cons c piece =>
      have here := here_reads s (c :: piece) value reads rest
      rw [List.cons_append] at here ⊢
      rw [erase, eraseFrom, here]
      simp only [List.length_cons, Nat.add_sub_cancel, erase_from_skips]
      rfl

end Reading

end Scanner

end TaggedStory.Text
