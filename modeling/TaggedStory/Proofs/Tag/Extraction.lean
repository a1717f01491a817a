import TaggedStory.Proofs.Tag.Effects
import TaggedStory.Proofs.Tag.Ending
import TaggedStory.Proofs.Tag.Removal
/-!
Conditions and effects that are taken out of a text. Their tags are found where they stand and removed where their letters
first occur, which is the same place unless a tag that stays holds a copy of them. What is left has nothing to take.
-/
set_option autoImplicit false

namespace TaggedStory.Tag

open Text Scanner

section Collecting

variable {α : Type} (seen : Piece → Option (List Char)) (read : List Char → Option α)

def inside (piece : Piece) : Option α :=
  (seen piece).bind read

def holds (piece : Piece) : Bool :=
  (inside seen read piece).isSome

def sighted (pieces : List Piece) : List (Found (List Char)) :=
  pieces.filterMap fun piece => (seen piece).map fun body => ⟨piece.letters, body⟩

def collecting (record : List α) (body : List Char) : Attempt (Option (List α)) :=
  .ok ((read body).map fun item => record ++ [item])

theorem collecting_steps (pieces : List Piece) (text : List Char) (record : List α) :
    ((sighted seen pieces).map (Rule.move (collecting read))).foldlM (Rule.step true) (text, record) =
      .ok ((pieces.filter (holds seen read)).foldl (fun text piece => Rule.take piece.letters text) text,
        record ++ pieces.filterMap (inside seen read)) := by
  induction pieces generalizing text record with
  | nil => simp [sighted, pure, Except.pure]
  | cons piece pieces ih =>
      cases sight : seen piece with
      | none =>
          have nothing : inside seen read piece = none := by rw [inside, sight]; rfl
          rw [sighted, List.filterMap_cons_none (by rw [sight]; rfl), ← sighted, ih, List.filterMap_cons_none nothing,
            List.filter_cons_of_neg (by simp [holds, nothing])]
      | some body =>
          have own : inside seen read piece = read body := by rw [inside, sight]; rfl
          rw [sighted, List.filterMap_cons_some (by rw [sight]; rfl), ← sighted, List.map_cons, List.foldlM_cons]
          cases result : read body with
          | none =>
              have declined : (Rule.move (collecting read) ⟨piece.letters, body⟩).act record = .ok none := by
                simp [Rule.move, collecting, result]
              rw [Rule.step_declined true _ (text, record) declined, List.filterMap_cons_none (own.trans result),
                List.filter_cons_of_neg (by simp [holds, own, result])]
              exact ih text record
          | some item =>
              have accepted : (Rule.move (collecting read) ⟨piece.letters, body⟩).act record = .ok (some (record ++ [item])) := by
                simp [Rule.move, collecting, result]
              rw [Rule.step_accepted true _ text record _ accepted, List.filterMap_cons_some (own.trans result),
                List.filter_cons_of_pos (by simp [holds, own, result])]
              have later := ih (Rule.take piece.letters text) (record ++ [item])
              rw [List.append_assoc, List.singleton_append] at later
              exact later

variable {seen read}

-- A rule that sees the pieces of a row takes the accepted ones, one after the other.
theorem collect_in_turn (rule : Rule (List α)) (consumes : rule.consumes = true) (pieces : List Piece)
    (moves : rule.moves (spell pieces) = (sighted seen pieces).map (Rule.move (collecting read))) :
    collect rule (spell pieces) = ((pieces.filter (holds seen read)).foldl (fun text piece => Rule.take piece.letters text) (spell pieces),
      pieces.filterMap (inside seen read)) := by
  have steps := collecting_steps seen read pieces (spell pieces) []
  rw [List.nil_append] at steps
  rw [collect, Rule.apply, moves, consumes, steps]

theorem holds_tight (tagged : ∀ piece, seen piece ≠ none → ∃ family body, piece = .tag family body) (piece : Piece)
    (own : holds seen read piece = true) : Tight piece.letters := by
  have something : seen piece ≠ none := by
    intro nothing
    rw [holds, inside, nothing] at own
    cases own
  obtain ⟨family, body, rfl⟩ := tagged piece something
  exact tight_enclosed _ _ body (by cases family <;> decide) (by cases family <;> decide)

-- What is left is a row in which nothing is accepted.
theorem collect_again (take : List Char → List Char × List α) (Row : List Piece → Prop)
    (narrow : ∀ pieces rest : List Piece, rest.Sublist pieces → Row pieces → Row rest)
    (takes : ∀ pieces, Row pieces → take (spell pieces) = (left (holds seen read) pieces, pieces.filterMap (inside seen read)))
    (pieces : List Piece) (row : Row pieces) :
    take (left (holds seen read) pieces) = (left (holds seen read) pieces, []) := by
  obtain ⟨rest, sublist, untaken, same⟩ := left_row (holds seen read) pieces
  have none : rest.any (holds seen read) = false := List.any_eq_false.mpr fun piece member => by simp [untaken piece member]
  have nothing : rest.filterMap (inside seen read) = [] :=
    List.filterMap_eq_nil_iff.mpr fun piece member => by simpa [holds] using untaken piece member
  rw [same, takes rest (narrow pieces rest sublist row), nothing, left, if_neg (by simp [none])]

end Collecting

-- No tag that stays holds a copy of a tag that is taken behind it.
def Apart (taken : Piece → Bool) (pieces : List Piece) : Prop :=
  pieces.Pairwise fun piece later => taken later = true → taken piece = false → ¬ later.letters <:+: piece.letters

instance (taken : Piece → Bool) (pieces : List Piece) : Decidable (Apart taken pieces) :=
  inferInstanceAs (Decidable (pieces.Pairwise _))

theorem skips_enclosed (family : Family) (body : List Char) (token : List Char) (outside : family.closing ∉ token.dropLast)
    (absent : ¬ token <:+: (Piece.tag family body).letters) : Skips (word (String.ofList token)) (Piece.tag family body).letters := by
  refine skips_sealed token _ family.closing ?_ outside absent
  rw [Piece.letters, enclosed, ← List.cons_append, List.getLast?_concat]

theorem enclosed_front (family other : Family) (body : List Char) (absent : family.closing ∉ body) :
    family.closing ∉ (Piece.tag other body).letters.dropLast := by
  rw [Piece.letters, enclosed, ← List.cons_append, List.dropLast_concat, List.mem_cons, not_or]
  exact ⟨by cases family <;> cases other <;> decide, absent⟩

section Conditions

def conditionIn : Piece → Option Condition :=
  inside (Piece.body? .guillemet) condition?

def holdsCondition : Piece → Bool :=
  holds (Piece.body? .guillemet) condition?

theorem body_tagged (family : Family) (piece : Piece) (something : piece.body? family ≠ none) :
    ∃ body, piece = .tag family body := by
  cases piece with
  | letter c => exact absurd rfl something
  | tag other body =>
      rw [Piece.body?] at something
      split at something
      · rename_i both
        exact ⟨body, by rw [both.1]⟩
      · exact absurd rfl something

theorem holds_condition_tag (piece : Piece) (own : holdsCondition piece = true) : ∃ body, piece = .tag .guillemet body := by
  refine body_tagged .guillemet piece fun nothing => ?_
  rw [holdsCondition, holds, inside, nothing] at own
  cases own

variable (pieces : List Piece) (closed : Closed .guillemet pieces) (apart : Apart holdsCondition pieces)

include closed apart

theorem conditions_unhidden : Unhidden holdsCondition pieces := by
  refine ((apart.and (closed_letters .guillemet pieces closed)).imp_of_mem ?_)
  rintro piece later member memberLater ⟨apart, letters⟩ taken remains
  obtain ⟨body, rfl⟩ := holds_condition_tag later taken
  cases piece with
  | letter c =>
      refine skips_letter _ c (fun d head => ?_) (letters_filled _)
      obtain rfl : Family.opening .guillemet = d := by simpa [Piece.letters, enclosed] using head
      exact letters c body rfl rfl
  | tag other inner =>
      by_cases same : other = .guillemet
      · subst same
        exact skips_enclosed .guillemet inner _ (enclosed_front _ _ body (closed_bodies _ pieces closed body memberLater))
          (apart taken remains)
      · have absent := closed_others .guillemet pieces closed other same inner member
        exact skips_unopened _ '《' (opens_word _ '《' (by rw [String.toList_ofList]; rfl)) _ absent

omit apart in
theorem conditions_in_turn : takeConditions (spell pieces) =
    ((pieces.filter holdsCondition).foldl (fun text piece => Rule.take piece.letters text) (spell pieces),
      pieces.filterMap conditionIn) := by
  refine collect_in_turn _ rfl pieces ?_
  have found := decides_all _ _ pieces (span_decides .guillemet pieces closed)
  exact congrArg (List.map _) found

theorem take_conditions_row : takeConditions (spell pieces) = (left holdsCondition pieces, pieces.filterMap conditionIn) := by
  have tight : ∀ piece ∈ pieces, holdsCondition piece = true → Tight piece.letters := fun piece _ own =>
    holds_tight (fun piece something => ⟨.guillemet, body_tagged .guillemet piece something⟩) piece own
  rw [conditions_in_turn pieces closed, taken_in_turn _ pieces (conditions_unhidden pieces closed apart) tight]

theorem take_conditions_again : takeConditions (left holdsCondition pieces) = (left holdsCondition pieces, []) := by
  refine collect_again takeConditions (fun pieces => Closed .guillemet pieces ∧ Apart holdsCondition pieces) ?_ ?_ pieces ⟨closed, apart⟩
  · exact fun pieces rest sublist row => ⟨closed_sublist _ pieces rest sublist row.1, row.2.sublist sublist⟩
  · exact fun pieces row => take_conditions_row pieces row.1 row.2

end Conditions

section Marks

variable (family : Family) (s : Scanner Unit)

-- What a recogniser of marks reads is erased from the copy in which effects are looked for.
def erased? : Piece → Option Unit
  | .letter _ => none
  | .tag other body => if other = family then (StateT.run s (enclosed family.opening family.closing body)).map Prod.fst else none

def stays (piece : Piece) : Bool :=
  (erased? family s piece).isNone

theorem enclosed_ends (body : List Char) : enclosed family.opening family.closing body = (family.opening :: body) ++ [family.closing] :=
  rfl

theorem mark_decides (opens : Opens s family.opening) (ends : Ends family.closing s) (pieces : List Piece)
    (closed : Closed family pieces)
    (flat : ∀ body, .tag family body ∈ pieces → Misses s body [family.closing] ∨ (erased? family s (.tag family body)).isSome) :
    Decides s (erased? family s) pieces := by
  refine closed_decides family s _ opens ends.needs (fun _ => rfl) (fun other body different => if_neg different) pieces closed
    fun body member => ?_
  have absent : family.closing ∉ family.opening :: body := by
    rw [List.mem_cons, not_or]
    exact ⟨(closing_apart family).symm, closed_bodies family pieces closed body member⟩
  have own : erased? family s (.tag family body) = (StateT.run s (enclosed family.opening family.closing body)).map Prod.fst := if_pos rfl
  rcases ends.settled _ absent with ⟨value, reads⟩ | refuses
  · have run := reads []
    rw [List.append_nil, ← enclosed_ends] at run
    rw [own, run]
    exact reads
  · have run := refuses []
    rw [List.append_nil, ← enclosed_ends] at run
    have missed : erased? family s (.tag family body) = none := by rw [own, run]; rfl
    have within : Misses s body [family.closing] := (flat body member).resolve_right (by simp [missed])
    rw [missed]
    refine fun rest => ⟨refuses rest, (misses_append s body [family.closing] rest).mpr ⟨?_, ?_⟩⟩
    · exact ends_misses s ends body rest (fun inside => absent (List.mem_cons_of_mem _ inside)) within
    · exact misses_unopened s family.opening opens _ _ (by simpa using closing_apart family)

theorem mark_erased_row (opens : Opens s family.opening) (ends : Ends family.closing s) (pieces : List Piece)
    (closed : Closed family pieces)
    (flat : ∀ body, .tag family body ∈ pieces → Misses s body [family.closing] ∨ (erased? family s (.tag family body)).isSome) :
    s.erase (spell pieces) = spell (pieces.filter (stays family s)) :=
  decides_erase s _ pieces (mark_decides family s opens ends pieces closed flat)

end Marks

theorem guillemets_read (body : List Char) (absent : '》' ∉ body) :
    StateT.run guillemets (enclosed '《' '》' body) = some ((), []) := by
  have others : StateT.run (many (· ≠ '》')) (body ++ ['》']) = some (body, ['》']) :=
    run_many _ body '》' [] (fun c member => decide_eq_true fun same => absent (same ▸ member)) (by simp)
  refine (bind_succeeds _ _ _ _ _).mpr ⟨(), body ++ ['》'], (char_succeeds '《' _ _ ()).mpr rfl, ?_⟩
  exact (bind_succeeds _ _ _ _ _).mpr ⟨body, ['》'], others, (char_succeeds '》' _ _ ()).mpr rfl⟩

section Effects

def unquoted (pieces : List Piece) : List Piece :=
  pieces.filter (stays .guillemet guillemets)

def visible (pieces : List Piece) : List Piece :=
  (((unquoted pieces).filter (stays .angle (openMark "color"))).filter (stays .angle plainMark)).filter (stays .angle (openMark "size"))

def isMarked (piece : Piece) : Bool :=
  !(stays .guillemet guillemets piece && stays .angle (openMark "color") piece && stays .angle plainMark piece &&
    stays .angle (openMark "size") piece)

def effectBody? (piece : Piece) : Option (List Char) :=
  if isMarked piece then none else piece.body? .angle

theorem effect_body_tagged (piece : Piece) (something : effectBody? piece ≠ none) :
    (∃ body, piece = .tag .angle body) ∧ isMarked piece = false := by
  rw [effectBody?] at something
  cases marked : isMarked piece with
  | true => simp [marked] at something
  | false => exact ⟨body_tagged .angle piece (by simpa [marked] using something), rfl⟩

def effectIn : Piece → Option Effect :=
  inside effectBody? effect?

def holdsEffect : Piece → Bool :=
  holds effectBody? effect?

def marks : List (Scanner Unit) :=
  [openMark "color", plainMark, openMark "size"]

-- Guillemet tags and angle tags stand side by side, and no mark of rich text begins within an angle tag.
structure Orderly (pieces : List Piece) : Prop where
  quotes : Closed .guillemet pieces
  angles : Closed .angle (unquoted pieces)
  flat : ∀ piece ∈ pieces, ∀ body ∈ piece.body? .angle, ∀ mark ∈ marks, Misses mark body ['>']
  sealed : ∀ piece ∈ pieces, holdsEffect piece = true → '》' ∉ piece.letters

theorem orderly_sublist (pieces rest : List Piece) (sublist : rest.Sublist pieces) (orderly : Orderly pieces) : Orderly rest :=
  ⟨closed_sublist _ pieces rest sublist orderly.quotes, closed_sublist _ _ _ (sublist.filter _) orderly.angles,
    fun piece member => orderly.flat piece (sublist.subset member), fun piece member => orderly.sealed piece (sublist.subset member)⟩

theorem holds_effect_tag (piece : Piece) (own : holdsEffect piece = true) :
    (∃ body, piece = .tag .angle body) ∧ isMarked piece = false := by
  have something : effectBody? piece ≠ none := by
    intro nothing
    rw [holdsEffect, holds, inside, nothing] at own
    cases own
  exact effect_body_tagged piece something

section Rows

variable (pieces : List Piece) (orderly : Orderly pieces)

include orderly

theorem view_row : effectView (spell pieces) = spell (visible pieces) := by
  have quoted : guillemets.erase (spell pieces) = spell (unquoted pieces) := by
    refine mark_erased_row .guillemet guillemets opens_guillemets guillemets_end pieces orderly.quotes fun body member => .inr ?_
    have read := guillemets_read body (closed_bodies .guillemet pieces orderly.quotes body member)
    rw [erased?, if_pos rfl]
    exact congrArg (fun run => (run.map Prod.fst).isSome) read
  have flat (rest : List Piece) (sublist : rest.Sublist (unquoted pieces)) (s : Scanner Unit) (known : s ∈ marks)
      (body : List Char) (member : .tag .angle body ∈ rest) : Misses s body ['>'] := by
    by_cases empty : body = []
    · rw [empty]
      trivial
    · exact orderly.flat _ (List.mem_of_mem_filter (sublist.subset member)) body (if_pos ⟨rfl, empty⟩) s known
  have mark (rest : List Piece) (sublist : rest.Sublist (unquoted pieces)) (s : Scanner Unit) (known : s ∈ marks)
      (opens : Opens s '<') (ends : Ends '>' s) : s.erase (spell rest) = spell (rest.filter (stays .angle s)) :=
    mark_erased_row .angle s opens ends rest (closed_sublist _ _ _ sublist orderly.angles) fun body member =>
      .inl (flat rest sublist s known body member)
  have first := List.filter_sublist (p := stays .angle (openMark "color")) (l := unquoted pieces)
  have second := (List.filter_sublist (p := stays .angle plainMark)).trans first
  rw [effectView, quoted,
    mark _ (List.Sublist.refl _) _ (by simp [marks]) (opens_open_mark "color") (open_mark_ends "color" (by decide)),
    mark _ first _ (by simp [marks]) opens_plain_mark plain_mark_ends,
    mark _ second _ (by simp [marks]) (opens_open_mark "size") (open_mark_ends "size" (by decide))]
  rfl

theorem effects_sighted : angle.all (effectView (spell pieces)) = sighted effectBody? pieces := by
  have sublist : (visible pieces).Sublist (unquoted pieces) :=
    List.filter_sublist.trans (List.filter_sublist.trans List.filter_sublist)
  have found := decides_all _ _ _ (span_decides .angle _ (closed_sublist _ _ _ sublist orderly.angles))
  have unmarked : visible pieces = pieces.filter fun piece => !isMarked piece := by
    simp only [visible, unquoted, List.filter_filter]
    refine List.filter_congr fun piece _ => ?_
    simp only [isMarked, Bool.not_not]
    ac_rfl
  rw [view_row pieces orderly]
  refine Eq.trans found ?_
  rw [unmarked, List.filterMap_filter, sighted]
  refine List.filterMap_congr fun piece _ => ?_
  rw [effectBody?]
  cases isMarked piece <;> rfl

theorem letters_unquoted : pieces.Pairwise fun piece later => ∀ c body, piece = .letter c → later = .tag .angle body → c ≠ '<' := by
  have letters := closed_letters .angle _ orderly.angles
  rw [unquoted, List.pairwise_filter] at letters
  refine letters.imp ?_
  rintro piece later both c body rfl rfl
  exact both rfl rfl c body rfl rfl

theorem effects_in_turn : takeEffects (spell pieces) =
    ((pieces.filter holdsEffect).foldl (fun text piece => Rule.take piece.letters text) (spell pieces),
      pieces.filterMap effectIn) :=
  collect_in_turn _ rfl pieces (congrArg (List.map _) (effects_sighted pieces orderly))

variable (apart : Apart holdsEffect pieces)

include apart

theorem effects_unhidden : Unhidden holdsEffect pieces := by
  refine ((apart.and (letters_unquoted pieces orderly)).imp_of_mem ?_)
  rintro piece later member memberLater ⟨apart, letters⟩ taken remains
  obtain ⟨⟨body, rfl⟩, unmarked⟩ := holds_effect_tag later taken
  cases piece with
  | letter c =>
      refine skips_letter _ c (fun d head => ?_) (letters_filled _)
      obtain rfl : Family.opening .angle = d := by simpa [Piece.letters, enclosed] using head
      exact letters c body rfl rfl
  | tag other inner =>
      refine skips_enclosed other inner _ ?_ (apart taken remains)
      cases other with
      | guillemet => exact fun inside => orderly.sealed _ memberLater taken (List.dropLast_subset _ inside)
      | angle =>
          have absent := closed_bodies .angle _ orderly.angles body (List.mem_filter.mpr ⟨memberLater, rfl⟩)
          exact enclosed_front .angle .angle body absent

theorem take_effects_row : takeEffects (spell pieces) = (left holdsEffect pieces, pieces.filterMap effectIn) := by
  have tight : ∀ piece ∈ pieces, holdsEffect piece = true → Tight piece.letters := fun piece _ own =>
    holds_tight (fun piece something => ⟨.angle, (effect_body_tagged piece something).1⟩) piece own
  rw [effects_in_turn pieces orderly, taken_in_turn _ pieces (effects_unhidden pieces orderly apart) tight]

theorem take_effects_again : takeEffects (left holdsEffect pieces) = (left holdsEffect pieces, []) := by
  refine collect_again takeEffects (fun pieces => Orderly pieces ∧ Apart holdsEffect pieces) ?_ ?_ pieces ⟨orderly, apart⟩
  · exact fun pieces rest sublist row => ⟨orderly_sublist pieces rest sublist row.1, row.2.sublist sublist⟩
  · exact fun pieces row => take_effects_row pieces row.1 row.2

end Rows

end Effects

-- Every text is a row of letters and guillemet tags, and its conditions are taken out of it when no tag that stays holds a
-- copy of one that is taken behind it. The same holds of effects when no guillemets and no mark of rich text stand within an
-- angle tag.
theorem tags_taken_out (text : List Char) : (∃ pieces, Closed .guillemet pieces ∧ spell pieces = text) ∧
    ∀ pieces, spell pieces = text →
      (Closed .guillemet pieces → Apart holdsCondition pieces →
        takeConditions text = (left holdsCondition pieces, pieces.filterMap conditionIn) ∧
          takeConditions (left holdsCondition pieces) = (left holdsCondition pieces, [])) ∧
      (Orderly pieces → Apart holdsEffect pieces →
        takeEffects text = (left holdsEffect pieces, pieces.filterMap effectIn) ∧
          takeEffects (left holdsEffect pieces) = (left holdsEffect pieces, [])) := by
  refine ⟨closed_exists .guillemet text, ?_⟩
  rintro pieces rfl
  constructor
  · exact fun closed apart => ⟨take_conditions_row pieces closed apart, take_conditions_again pieces closed apart⟩
  · exact fun orderly apart => ⟨take_effects_row pieces orderly apart, take_effects_again pieces orderly apart⟩

theorem gate_taken_out :
    (takeConditions "《问》《x>1》 门".toList = ("《问》 门".toList, [⟨"x", .greater, "1"⟩]) ∧
      takeConditions "《问》 门".toList = ("《问》 门".toList, [])) ∧
    takeEffects "《a<b》<b><金币 -5> 门".toList = ("《a<b》<b> 门".toList, [⟨"金币", .subtract, "5", .normal⟩]) ∧
      takeEffects "《a<b》<b> 门".toList = ("《a<b》<b> 门".toList, []) := by
  have conditions := (tags_taken_out "《问》《x>1》 门".toList).2
    [.tag .guillemet ['问'], .tag .guillemet "x>1".toList, .letter ' ', .letter '门'] rfl
  have effects := (tags_taken_out "《a<b》<b><金币 -5> 门".toList).2
    [.tag .guillemet "a<b".toList, .tag .angle ['b'], .tag .angle "金币 -5".toList, .letter ' ', .letter '门'] rfl
  exact ⟨conditions.1 (by decide) (by decide), effects.2 ⟨by decide, by decide, by decide, by decide⟩ (by decide)⟩

-- A copy of the tag that stays in front of it is removed in its place, and the tag itself can be taken again.
theorem copied_tag_stays : (¬ ∀ text, takeConditions (takeConditions text).1 = ((takeConditions text).1, [])) ∧
    ¬ ∀ text, takeEffects (takeEffects text).1 = ((takeEffects text).1, []) := by
  have condition : takeConditions "《AD《x>1》》《x>1》".toList = ("《AD》《x>1》".toList, [⟨"x", .greater, "1"⟩]) := by decide
  have effect : takeEffects "《a<x+1>》<x+1>".toList = ("《a》<x+1>".toList, [⟨"x", .add, "1", .normal⟩]) :=
    (effects_in_turn [.tag .guillemet "a<x+1>".toList, .tag .angle "x+1".toList] ⟨by decide, by decide, by decide, by decide⟩).trans (by decide)
  have effectAgain : takeEffects "《a》<x+1>".toList = ("《a》".toList, [⟨"x", .add, "1", .normal⟩]) :=
    (effects_in_turn [.tag .guillemet ['a'], .tag .angle "x+1".toList] ⟨by decide, by decide, by decide, by decide⟩).trans (by decide)
  constructor <;> intro once
  · have again := once "《AD《x>1》》《x>1》".toList
    rw [condition] at again
    exact absurd again (by decide)
  · have again := once "《a<x+1>》<x+1>".toList
    rw [effect, effectAgain] at again
    exact absurd again (by decide)

end TaggedStory.Tag
