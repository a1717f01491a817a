import TaggedStory.Proofs.Attempt
import TaggedStory.Tag.Rule
/-!
Parts of a record that rules leave as they are.
-/
set_option autoImplicit false

namespace TaggedStory.Tag.Rule

open Text

variable {R α β : Type} {view : R → β}

def Keeps (view : R → β) (rule : Rule R) : Prop :=
  ∀ text, ∀ move ∈ rule.moves text, ∀ record changed,
    move.act record = .ok (some changed) → view changed = view record

theorem keeps_first {name : String} {scanner : Scanner α} {act : R → α → Attempt (Option R)}
    (acts : ∀ record value changed, act record value = .ok (some changed) → view changed = view record) :
    Keeps view (first name scanner act) := by
  intro text move member record changed accepted
  obtain ⟨found, _, rfl⟩ := Option.map_eq_some_iff.mp (Option.mem_toList.mp member)
  exact acts record found.value changed accepted

theorem keeps_every {name : String} {scanner : Scanner α} {act : R → α → Attempt (Option R)}
    (acts : ∀ record value changed, act record value = .ok (some changed) → view changed = view record) :
    Keeps view (every name scanner act) := by
  intro text move member record changed accepted
  obtain ⟨found, _, rfl⟩ := List.mem_map.mp member
  exact acts record found.value changed accepted

theorem keeps_set {name : String} {scanner : Scanner α} {change : α → R → R}
    (changes : ∀ value record, view (change value record) = view record) :
    Keeps view (set name scanner change) := by
  apply keeps_first
  intro record value changed accepted
  simp only [Except.ok.injEq, Option.some.injEq] at accepted
  rw [← accepted, changes]

theorem keeps_set_every {name : String} {scanner : Scanner α} {change : α → R → R}
    (changes : ∀ value record, view (change value record) = view record) :
    Keeps view (setEvery name scanner change) := by
  apply keeps_every
  intro record value changed accepted
  simp only [Except.ok.injEq, Option.some.injEq] at accepted
  rw [← accepted, changes]

theorem keeps_literal {name word : String} {change : R → R}
    (changes : ∀ record, view (change record) = view record) : Keeps view (literal name word change) :=
  keeps_set fun _ record => changes record

theorem keeps_drop {name : String} {scanner : Scanner α} : Keeps view (drop name scanner) :=
  keeps_set fun _ _ => rfl

theorem keeps_keeping {rule : Rule R} (keeps : Keeps view rule) : Keeps view rule.keeping := keeps

theorem keeps_conditions {add : Condition → R → R}
    (adds : ∀ condition record, view (add condition record) = view record) :
    Keeps view (conditionRule add) := by
  apply keeps_every
  intro record body changed accepted
  simp only [Except.ok.injEq, Option.map_eq_some_iff] at accepted
  obtain ⟨condition, _, rfl⟩ := accepted
  exact adds condition record

theorem keeps_effects {add : Effect → R → R}
    (adds : ∀ effect record, view (add effect record) = view record) : Keeps view (effectRule add) := by
  intro text move member record changed accepted
  obtain ⟨found, _, rfl⟩ := List.mem_map.mp member
  simp only [move, Except.ok.injEq, Option.map_eq_some_iff] at accepted
  obtain ⟨effect, _, rfl⟩ := accepted
  exact adds effect record

theorem step_keeps (consumes : Bool) (move : Move R)
    (acts : ∀ record changed, move.act record = .ok (some changed) → view changed = view record)
    (state result : List Char × R) (done : step consumes state move = .ok result) :
    view result.2 = view state.2 := by
  rw [step, attempt_map_ok] at done
  obtain ⟨outcome, acted, rfl⟩ := done
  cases outcome with
  | none => rfl
  | some changed => exact acts state.2 changed acted

theorem apply_keeps (rule : Rule R) (keeps : Keeps view rule) (state result : List Char × R)
    (done : rule.apply state = .ok result) : view result.2 = view state.2 :=
  attempt_fold_preserves (step rule.consumes) (fun state => view state.2) _
    (fun state move member => step_keeps rule.consumes move (keeps _ move member) state)
    state result done

theorem apply_all_keeps (rules : List (Rule R)) (keeps : ∀ rule ∈ rules, Keeps view rule)
    (state result : List Char × R) (done : applyAll rules state = .ok result) : view result.2 = view state.2 :=
  attempt_fold_preserves (fun state (rule : Rule R) => rule.apply state) (fun state => view state.2) rules
    (fun state rule member => apply_keeps rule (keeps rule member) state)
    state result done

end TaggedStory.Tag.Rule
