import TaggedStory.Proofs.Tag.Conditions
import TaggedStory.Proofs.Tag.Effects
/-!
What a rule does with a tag that stands anywhere in a text: the recogniser passes over all that
precedes the tag, and so does its removal, which looks for the letters of the tag alone.
-/
set_option autoImplicit false

namespace TaggedStory.Tag.Rule

open Text Scanner

variable {R α β σ : Type}

-- Where the letters of the tag stood, the recogniser would succeed.
theorem token_missed (s : Scanner α) (tag : List Char) (value : α) (reads : s.Reads tag value) (piece rest : List Char)
    (misses : s.Misses piece rest) : (word (String.ofList tag)).Misses piece rest := by
  induction piece with
  | nil => trivial
  | cons c piece ih =>
      refine ⟨?_, ih misses.2⟩
      cases dropped : dropWord? (String.ofList tag).toList (c :: (piece ++ rest)) with
      | none => exact Option.map_eq_none_iff.mpr dropped
      | some after =>
          have refused := misses.1
          rw [(drop_word_some _ _ _).mp dropped, String.toList_ofList, reads after] at refused
          cases refused

theorem take_among (s : Scanner α) (tag : List Char) (value : α) (reads : s.Reads tag value) (nonempty : tag ≠ [])
    (before after : List Char) (misses : s.Misses before (tag ++ after)) (tight : Tight (before ++ after)) :
    take tag (before ++ (tag ++ after)) = before ++ after := by
  have removed := remove_first_misses (String.ofList tag) before (tag ++ after)
    (token_missed s tag value reads before _ misses)
  rw [String.toList_ofList, remove_first_front tag after nonempty] at removed
  rw [take, removed, trim_tight _ tight]

-- The rule looks for one tag, which may be absent, and changes the record as the tag says.
def Takes (rule : Rule R) (s : Scanner α) (tag : List Char) (change : R → R) : Prop :=
  ∃ name act, rule = first name s act ∧
    (tag = [] ∧ (∀ record, change record = record) ∨
      tag ≠ [] ∧ ∃ value, s.Reads tag value ∧ ∀ record, act record value = .ok (some (change record)))

section Takes

variable (rule : Rule R) (s : Scanner α) (tag : List Char) (change : R → R) (takes : rule.Takes s tag change)
variable (record : R)

include takes

theorem takes_among (before after : List Char) (misses : s.Misses before (tag ++ after)) (absent : s.first? after = none)
    (tight : Tight (before ++ after)) :
    rule.apply (before ++ (tag ++ after), record) = .ok (before ++ after, change record) := by
  obtain ⟨name, act, rfl, ⟨rfl, unchanged⟩ | ⟨nonempty, value, reads, accepted⟩⟩ := takes
  · have missed := s.first_misses before after misses
    rw [List.nil_append, unchanged, first_absent name s act _ record (missed.trans absent)]
  · have present := s.first_misses before (tag ++ after) misses
    rw [s.first_reads tag value nonempty reads after] at present
    rw [first_found name s act _ record _ _ present (accepted record),
      take_among s tag value reads nonempty before after misses tight]

theorem takes_front (rest : List Char) (absent : s.first? rest = none) (tight : Tight rest) :
    rule.apply (tag ++ rest, record) = .ok (rest, change record) :=
  takes_among rule s tag change takes record [] rest (s.skips_nil _) absent tight

end Takes

section Every

variable (piece : σ → List Char) (pick : σ → Option β) (token : β → List Char) (change : β → R → R)
variable (s : Scanner α) (value : β → α)

-- A part of the text is a tag that the recogniser reads, or nothing is found in it.
def Parted (part : σ) : Prop :=
  match pick part with
  | some tag => piece part = token tag ∧ token tag ≠ [] ∧ s.Reads (token tag) (value tag)
  | none => s.Skips (piece part)

theorem all_among (parts : List σ) (parted : ∀ part ∈ parts, Parted piece pick token s value part) :
    s.all (parts.flatMap piece) = (parts.filterMap pick).map fun tag => ⟨token tag, value tag⟩ := by
  induction parts with
  | nil => rfl
  | cons part parts ih =>
      have this := parted part List.mem_cons_self
      have rest := ih fun other member => parted other (List.mem_cons_of_mem _ member)
      rw [Parted] at this
      cases picked : pick part with
      | none =>
          rw [picked] at this
          rw [List.flatMap_cons, List.filterMap_cons_none picked, s.all_misses _ _ (this _), rest]
      | some tag =>
          rw [picked] at this
          obtain ⟨shape, nonempty, reads⟩ := this
          rw [List.flatMap_cons, List.filterMap_cons_some picked, shape, s.all_reads _ _ nonempty reads, rest,
            List.map_cons]

-- All tags have been found before; each is removed from among what the others leave.
theorem steps_among (done parts : List σ) (move : β → Move R) (record : R)
    (passed : ∀ part ∈ done, pick part = none)
    (parted : ∀ part ∈ done ++ parts, Parted piece pick token s value part)
    (tight : ∀ kept : List σ, kept.Sublist (done ++ parts) → kept.filter (fun part => (pick part).isNone) =
      (done ++ parts).filter (fun part => (pick part).isNone) → Tight (kept.flatMap piece))
    (tokens : ∀ tag, (move tag).token = token tag)
    (accepted : ∀ tag ∈ parts.filterMap pick, ∀ record, (move tag).act record = .ok (some (change tag record))) :
    ((parts.filterMap pick).map move).foldlM (step true) ((done ++ parts).flatMap piece, record) =
      .ok (((done ++ parts).filter fun part => (pick part).isNone).flatMap piece,
        (parts.filterMap pick).foldl (fun record tag => change tag record) record) := by
  induction parts generalizing done record with
  | nil =>
      have all : done.filter (fun part => (pick part).isNone) = done :=
        List.filter_eq_self.mpr fun part member => by rw [passed part member, Option.isNone_none]
      rw [List.append_nil, all]
      rfl
  | cons part parts ih =>
      cases picked : pick part with
      | none =>
          have shape : done ++ part :: parts = (done ++ [part]) ++ parts := by simp
          have more : ∀ other ∈ done ++ [part], pick other = none := by
            intro other member
            rcases List.mem_append.mp member with member | member
            · exact passed other member
            · rw [List.mem_singleton.mp member, picked]
          rw [List.filterMap_cons_none picked] at accepted ⊢
          rw [shape] at parted tight ⊢
          exact ih (done ++ [part]) record more parted tight accepted
      | some tag =>
          have this := parted part (by simp)
          rw [Parted, picked] at this
          obtain ⟨shape, nonempty, reads⟩ := this
          rw [List.filterMap_cons_some picked] at accepted ⊢
          have shorter : (done ++ parts).Sublist (done ++ part :: parts) :=
            (List.Sublist.refl done).append (List.sublist_cons_self part parts)
          have same : (done ++ part :: parts).filter (fun part => (pick part).isNone) =
              (done ++ parts).filter fun part => (pick part).isNone := by
            simp [picked]
          have skips : s.Skips (done.flatMap piece) := s.skips_flat_map done piece fun other member => by
            have skipped := parted other (List.mem_append_left _ member)
            rw [Parted, passed other member] at skipped
            exact skipped
          have tightLeft : Tight (done.flatMap piece ++ parts.flatMap piece) := by
            rw [← List.flatMap_append]
            exact tight _ shorter same.symm
          have moved := step_accepted true (move tag) ((done ++ part :: parts).flatMap piece) record _
            (accepted tag List.mem_cons_self record)
          rw [if_pos rfl, tokens, List.flatMap_append, List.flatMap_cons, shape,
            take_among s _ _ reads nonempty _ _ (skips _) tightLeft, ← List.flatMap_append] at moved
          rw [List.map_cons, List.foldlM_cons, List.flatMap_append, List.flatMap_cons, shape, moved, same]
          refine ih done _ passed (fun other member => parted other (shorter.subset member)) (fun kept within keeps => ?_)
            fun other member => accepted other (List.mem_cons_of_mem _ member)
          exact tight kept (within.trans shorter) (keeps.trans same.symm)

end Every

end TaggedStory.Tag.Rule

namespace TaggedStory.Tag

open Text Scanner

variable {R σ : Type} (piece : σ → List Char)

-- Tight pieces between the parts of a tight text leave it tight.
theorem mixed_tight (loose : σ → Option (List Char)) (parts : List σ) (before : List Char)
    (shape : ∀ part ∈ parts, ∀ text, loose part = some text → piece part = text)
    (tight : ∀ part ∈ parts, loose part = none → Tight (piece part))
    (whole : Tight (before ++ (parts.filterMap loose).flatten)) : Tight (before ++ parts.flatMap piece) := by
  induction parts generalizing before with
  | nil => exact whole
  | cons part parts ih =>
      have shapeRest := fun other member => shape other (List.mem_cons_of_mem part member)
      have tightRest := fun other member => tight other (List.mem_cons_of_mem part member)
      rw [List.flatMap_cons]
      cases found : loose part with
      | none =>
          rw [List.filterMap_cons_none found] at whole
          exact tight_insert _ _ _ (ih before shapeRest tightRest whole) (tight part List.mem_cons_self found)
      | some text =>
          rw [List.filterMap_cons_some found, List.flatten_cons, ← List.append_assoc] at whole
          rw [shape part List.mem_cons_self text found, ← List.append_assoc]
          exact ih (before ++ text) shapeRest tightRest whole

section Conditions

variable (add : Condition → R → R) (pick : σ → Option Condition) (parts : List σ) (record : R)

theorem conditions_among
    (safe : ∀ part ∈ parts, ∀ condition, pick part = some condition →
      SafeCondition condition ∧ piece part = conditionPiece condition)
    (other : ∀ part ∈ parts, pick part = none → '《' ∉ piece part)
    (tight : ∀ kept : List σ, kept.Sublist parts → kept.filter (fun part => (pick part).isNone) =
      parts.filter (fun part => (pick part).isNone) → Tight (kept.flatMap piece)) :
    (conditionRule add).apply (parts.flatMap piece, record) =
      .ok ((parts.filter fun part => (pick part).isNone).flatMap piece,
        (parts.filterMap pick).foldl (fun record condition => add condition record) record) := by
  have parted : ∀ part ∈ parts, Rule.Parted piece pick conditionPiece guillemet conditionBody part := by
    intro part member
    rw [Rule.Parted]
    cases picked : pick part with
    | none => exact guillemet.skips_unopened '《' (opens_span '《' '》') _ (other part member picked)
    | some condition =>
        obtain ⟨safeCondition, shape⟩ := safe part member condition picked
        exact ⟨shape, List.cons_ne_nil _ _, condition_piece_reads condition safeCondition⟩
  simp only [Rule.apply, conditionRule, Rule.every,
    Rule.all_among piece pick conditionPiece guillemet conditionBody parts parted, List.map_map]
  refine Rule.steps_among piece pick conditionPiece add guillemet conditionBody [] parts _ record (by simp) parted tight
    (fun _ => rfl) fun condition member record => ?_
  obtain ⟨part, present, picked⟩ := List.mem_filterMap.mp member
  simp only [Function.comp_apply, Rule.move, (safe part present condition picked).1.body_reads, Option.map_some]

end Conditions

section Effects

variable (add : Effect → R → R) (pick : σ → Option Effect) (parts : List σ) (record : R)

theorem effects_among
    (safe : ∀ part ∈ parts, ∀ effect, pick part = some effect → SafeEffect effect ∧ piece part = effectPiece effect)
    (other : ∀ part ∈ parts, pick part = none → '<' ∉ piece part) (noGuillemet : ∀ part ∈ parts, '《' ∉ piece part)
    (tight : ∀ kept : List σ, kept.Sublist parts → kept.filter (fun part => (pick part).isNone) =
      parts.filter (fun part => (pick part).isNone) → Tight (kept.flatMap piece)) :
    (effectRule add).apply (parts.flatMap piece, record) =
      .ok ((parts.filter fun part => (pick part).isNone).flatMap piece,
        (parts.filterMap pick).foldl (fun record effect => add effect record) record) := by
  have parted : ∀ part ∈ parts, Rule.Parted piece pick effectPiece angle effectBody part := by
    intro part member
    rw [Rule.Parted]
    cases picked : pick part with
    | none => exact angle.skips_unopened '<' (opens_span '<' '>') _ (other part member picked)
    | some effect =>
        obtain ⟨safeEffect, shape⟩ := safe part member effect picked
        exact ⟨shape, List.cons_ne_nil _ _, effect_piece_reads effect safeEffect⟩
  have view : effectView (parts.flatMap piece) = parts.flatMap piece := by
    refine view_unchanged _ (fun member => ?_) fun s opens refused => s.erase_none _ ?_
    · obtain ⟨part, present, inside⟩ := List.mem_flatMap.mp member
      exact noGuillemet part present inside
    · refine s.skips_flat_map parts piece (fun part member => ?_) _
      cases picked : pick part with
      | none => exact s.skips_unopened '<' opens _ (other part member picked)
      | some effect =>
          obtain ⟨safeEffect, shape⟩ := safe part member effect picked
          rw [shape]
          exact safeEffect.tag_missed s opens (refused effect safeEffect)
  simp only [Rule.apply, effectRule, view,
    Rule.all_among piece pick effectPiece angle effectBody parts parted, List.map_map]
  refine Rule.steps_among piece pick effectPiece add angle effectBody [] parts _ record (by simp) parted tight
    (fun _ => rfl) fun effect member record => ?_
  obtain ⟨part, present, picked⟩ := List.mem_filterMap.mp member
  simp only [Function.comp_apply, Rule.move, (safe part present effect picked).1.body_reads, Option.map_some]

end Effects

end TaggedStory.Tag
