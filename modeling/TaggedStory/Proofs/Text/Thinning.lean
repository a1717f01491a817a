import TaggedStory.Proofs.Text.Plain
import TaggedStory.Proofs.Text.Scanning
/-!
Texts that lose pieces. A piece that is cut out begins with one of some signs; what stands between an
opening sign and the next closing sign in the text that is left stood so in the text before, or such a
sign stood between the two.
-/
set_option autoImplicit false

namespace TaggedStory.Text

inductive Thinned (starts : Char → Prop) : List Char → List Char → Prop where
  | part (text rest : List Char) (inside : rest <:+: text) : Thinned starts text rest
  | cut (before after token : List Char) (sign : Char) (start : starts sign) :
      Thinned starts (before ++ sign :: (token ++ after)) (before ++ after)
  | chain (text middle rest : List Char) (first : Thinned starts text middle) (second : Thinned starts middle rest) :
      Thinned starts text rest

def enclosed (opening closing : Char) (body : List Char) : List Char :=
  opening :: (body ++ [closing])

-- Nothing stands between an opening sign and the next closing sign.
def Spanless (opening closing : Char) (text : List Char) : Prop :=
  ∀ body, body ≠ [] → closing ∉ body → ¬ enclosed opening closing body <:+: text

section Thinning

variable {starts : Char → Prop}

theorem thinned_same (text : List Char) : Thinned starts text text :=
  .part text text List.infix_rfl

theorem thinned_sublist (text rest : List Char) (thinned : Thinned starts text rest) : rest.Sublist text := by
  induction thinned with
  | part text rest inside => exact inside.sublist
  | cut before after token sign start =>
      exact (List.Sublist.refl before).append ((List.sublist_append_right token after).cons sign)
  | chain text middle rest first second ihFirst ihSecond => exact ihSecond.trans ihFirst

-- The signs were as close together before, or a piece between them has been cut out.
theorem cut_enclosed (opening closing sign : Char) (before after token body : List Char) (other : sign ≠ closing)
    (absent : closing ∉ body) (stands : enclosed opening closing body <:+: before ++ after) :
    ∃ wide, closing ∉ wide ∧ enclosed opening closing wide <:+: before ++ sign :: (token ++ after) ∧
      (wide = body ∨ sign ∈ wide) := by
  rcases List.infix_append_iff.mp stands with inBefore | inAfter | ⟨left, right, split, atEnd, atStart⟩
  · exact ⟨body, absent, inBefore.trans (List.prefix_append _ _).isInfix, .inl rfl⟩
  · refine ⟨body, absent, inAfter.trans (List.IsSuffix.isInfix ?_), .inl rfl⟩
    exact ((List.suffix_append token after).trans (List.suffix_cons sign _)).trans (List.suffix_append _ _)
  · obtain ⟨front, rfl⟩ := atEnd
    obtain ⟨back, rfl⟩ := atStart
    rcases List.eq_nil_or_concat right with rfl | ⟨inner, last, same⟩
    · refine ⟨body, absent, ⟨front, sign :: (token ++ back), ?_⟩, .inl rfl⟩
      rw [split]
      simp
    rw [List.concat_eq_append] at same
    subst same
    cases left with
    | nil =>
        refine ⟨body, absent, ⟨front ++ sign :: token, back, ?_⟩, .inl rfl⟩
        rw [split]
        simp
    | cons c left =>
        rw [enclosed, List.cons_append, List.cons.injEq, ← List.append_assoc] at split
        obtain ⟨rfl, split⟩ := split
        obtain ⟨rfl, single⟩ := List.append_inj' split rfl
        obtain rfl := List.cons.inj single |>.1
        -- The closing sign may stand in the piece that is cut out already.
        have stays : closing ∈ token ++ (inner ++ [closing]) := by simp
        obtain ⟨near, far, found, first⟩ := List.eq_append_cons_of_mem stays
        refine ⟨left ++ sign :: near, ?_, ⟨front, far ++ back, ?_⟩, .inr (by simp)⟩
        · simp only [List.mem_append, List.mem_cons, not_or] at absent ⊢
          exact ⟨absent.1, Ne.symm other, first⟩
        · have same := congrArg (fun text => front ++ opening :: (left ++ sign :: (text ++ back))) found
          simpa [enclosed] using same.symm

theorem thinned_enclosed (opening closing : Char) (outside : ¬ starts closing) (text rest : List Char)
    (thinned : Thinned starts text rest) (body : List Char) (absent : closing ∉ body)
    (stands : enclosed opening closing body <:+: rest) :
    ∃ wide, closing ∉ wide ∧ enclosed opening closing wide <:+: text ∧ (wide = body ∨ ∃ c ∈ wide, starts c) := by
  induction thinned generalizing body with
  | part text rest inside => exact ⟨body, absent, stands.trans inside, .inl rfl⟩
  | cut before after token sign start =>
      obtain ⟨wide, lacks, found, either⟩ := cut_enclosed opening closing sign before after token body
        (fun same => outside (same ▸ start)) absent stands
      exact ⟨wide, lacks, found, either.imp_right fun member => ⟨sign, member, start⟩⟩
  | chain text middle rest first second ihFirst ihSecond =>
      obtain ⟨wide, lacks, found, either⟩ := ihSecond body absent stands
      obtain ⟨wider, lacksAll, foundAll, eitherAll⟩ := ihFirst wide lacks found
      refine ⟨wider, lacksAll, foundAll, ?_⟩
      rcases eitherAll with rfl | signed
      · exact either
      · exact .inr signed

theorem spanless_thinned (opening closing : Char) (outside : ¬ starts closing) (text rest : List Char)
    (thinned : Thinned starts text rest) (spanless : Spanless opening closing text) :
    Spanless opening closing rest := by
  intro body nonempty absent stands
  obtain ⟨wide, lacks, found, either⟩ := thinned_enclosed opening closing outside text rest thinned body absent stands
  refine spanless wide ?_ lacks found
  rcases either with rfl | ⟨c, member, _⟩
  · exact nonempty
  · exact List.ne_nil_of_mem member

end Thinning

end TaggedStory.Text
