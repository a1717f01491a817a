import TaggedStory.Proofs.Text.Scanning
/-!
A word occurs in a text when it is an infix of it, and when its recogniser finds it somewhere.
-/
set_option autoImplicit false

namespace TaggedStory.Text

theorem drop_word_prefix (word text : List Char) : (dropWord? word text).isSome = true ↔ word <+: text := by
  constructor
  · intro found
    obtain ⟨rest, dropped⟩ := Option.isSome_iff_exists.mp found
    exact ⟨rest, ((drop_word_some word text rest).mp dropped).symm⟩
  · rintro ⟨rest, rfl⟩
    rw [drop_word_append]
    rfl

theorem occurs_inside (word text : List Char) : occurs word text = true ↔ word <:+: text := by
  induction text with
  | nil => rw [occurs, List.isEmpty_iff, List.infix_nil]
  | cons c text ih => rw [occurs, Bool.or_eq_true, drop_word_prefix, ih, List.infix_cons_iff]

theorem occurs_first (word : String) (nonempty : word.toList ≠ []) (text : List Char) :
    occurs word.toList text = ((Scanner.word word).first? text).isSome := by
  induction text with
  | nil =>
      cases letters : word.toList with
      | nil => exact absurd letters nonempty
      | cons w rest => rfl
  | cons c text ih =>
      have run : StateT.run (Scanner.word word) (c :: text) =
          (dropWord? word.toList (c :: text)).map fun rest => ((), rest) := rfl
      rw [occurs, Scanner.first?, Scanner.here?, run]
      cases dropWord? word.toList (c :: text) with
      | none => exact ih
      | some rest => rfl

theorem not_occurs (word : String) (nonempty : word.toList ≠ []) (text : List Char)
    (absent : (Scanner.word word).first? text = none) : occurs word.toList text = false := by
  rw [occurs_first word nonempty text, absent]
  rfl

-- A word that is not inside a text does not start there either, if the text goes on with another sign.
theorem misses_word (word : String) (text rest : List Char) (absent : ¬ word.toList <:+: text)
    (stops : ∀ c ∈ rest.head?, c ∉ word.toList.tail) : (Scanner.word word).Misses text rest := by
  induction text with
  | nil => trivial
  | cons c text ih =>
      refine ⟨?_, ih fun inside => absent (List.infix_cons_iff.mpr (.inr inside))⟩
      cases dropped : dropWord? word.toList (c :: (text ++ rest)) with
      | none => exact Option.map_eq_none_iff.mpr dropped
      | some after =>
          exfalso
          have shape := (drop_word_some _ _ _).mp dropped
          rcases List.append_eq_append_iff.mp (show c :: text ++ rest = word.toList ++ after from shape) with
            ⟨more, whole, tail⟩ | ⟨more, whole, _⟩
          · cases more with
            | nil =>
                rw [List.append_nil] at whole
                exact absent (whole ▸ List.infix_rfl)
            | cons d more =>
                refine stops d (by rw [tail]; rfl) ?_
                rw [whole]
                exact List.mem_append_right text List.mem_cons_self
          · exact absent (whole ▸ (List.prefix_append _ _).isInfix)

theorem skips_cut (word : String) (sign : Char) (first : word.toList.head? = some sign) (text : List Char) (c : Char)
    (absent : ¬ word.toList <:+: text) (outside : c ∉ word.toList) : (Scanner.word word).Skips (text ++ [c]) := by
  intro rest
  have other : sign ∉ [c] := by
    rw [List.mem_singleton]
    rintro rfl
    exact outside (List.mem_of_mem_head? first)
  rw [Scanner.misses_append]
  refine ⟨misses_word word text _ absent (by simpa using fun member => outside (List.mem_of_mem_tail member)), ?_⟩
  exact Scanner.misses_unopened _ sign (Scanner.opens_word word sign first) [c] rest other

end TaggedStory.Text
