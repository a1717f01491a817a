import TaggedStory.Proofs.Text.Plain
import TaggedStory.Proofs.Text.Scanning
import TaggedStory.Tag.Rule
/-!
What a rule does with the tags in front of a text, and with a text that has none for it.
-/
set_option autoImplicit false

namespace TaggedStory.Tag.Rule

open Text

variable {R α β : Type}

theorem apply_all_cons (rule : Rule R) (rules : List (Rule R)) (state next : List Char × R)
    (done : rule.apply state = .ok next) : applyAll (rule :: rules) state = applyAll rules next := by
  rw [applyAll, List.foldlM_cons, done]
  rfl

theorem apply_all_append (rules more : List (Rule R)) (state next : List Char × R)
    (done : applyAll rules state = .ok next) : applyAll (rules ++ more) state = applyAll more next := by
  rw [applyAll] at done
  rw [applyAll, List.foldlM_append, done]
  rfl

theorem apply_all_stopped (rule : Rule R) (rules : List (Rule R)) (state : List Char × R) (fault : Fault)
    (stopped : rule.apply state = .error fault) : applyAll (rule :: rules) state = .error fault := by
  rw [applyAll, List.foldlM_cons, stopped]
  rfl

theorem take_front (token rest : List Char) (nonempty : token ≠ []) (tight : Tight rest) :
    take token (token ++ rest) = rest := by
  rw [take, remove_first_front token rest nonempty, trim_tight rest tight]

theorem step_accepted (consumes : Bool) (move : Move R) (text : List Char) (record changed : R)
    (accepted : move.act record = .ok (some changed)) :
    step consumes (text, record) move = .ok (if consumes then take move.token text else text, changed) := by
  rw [step, accepted]
  rfl

theorem step_declined (consumes : Bool) (move : Move R) (state : List Char × R)
    (declined : move.act state.2 = .ok none) : step consumes state move = .ok state := by
  rw [step, declined]
  rfl

section First

variable (name : String) (scanner : Scanner α) (act : R → α → Attempt (Option R))

theorem first_absent (text : List Char) (record : R) (absent : scanner.first? text = none) :
    (first name scanner act).apply (text, record) = .ok (text, record) := by
  simp [apply, first, absent, pure, Except.pure]

theorem first_found (text : List Char) (record changed : R) (found : Found α)
    (present : scanner.first? text = some found) (accepted : act record found.value = .ok (some changed)) :
    (first name scanner act).apply (text, record) = .ok (take found.token text, changed) := by
  have moved := step_accepted true (move act found) text record changed accepted
  simp only [apply, first, present, Option.map_some, Option.toList_some, List.foldlM_cons, List.foldlM_nil, moved]
  rfl

theorem first_stopped (text : List Char) (record : R) (found : Found α) (fault : Fault)
    (present : scanner.first? text = some found) (stopped : act record found.value = .error fault) :
    (first name scanner act).apply (text, record) = .error fault := by
  simp only [apply, first, present, Option.map_some, Option.toList_some, List.foldlM_cons, step, move, stopped]
  rfl

theorem kept_absent (text : List Char) (record : R) (absent : scanner.first? text = none) :
    (first name scanner act).keeping.apply (text, record) = .ok (text, record) := by
  simp [apply, keeping, first, absent, pure, Except.pure]

theorem kept_found (text : List Char) (record changed : R) (found : Found α)
    (present : scanner.first? text = some found) (accepted : act record found.value = .ok (some changed)) :
    (first name scanner act).keeping.apply (text, record) = .ok (text, changed) := by
  have moved := step_accepted false (move act found) text record changed accepted
  simp only [apply, keeping, first, present, Option.map_some, Option.toList_some, List.foldlM_cons, List.foldlM_nil, moved]
  rfl

-- The tag is absent, or it stands in front.
theorem first_tag (tag rest : List Char) (value : α) (record changed : R) (tight : Tight rest)
    (either : tag = [] ∧ scanner.first? rest = none ∧ changed = record ∨
      tag ≠ [] ∧ scanner.Reads tag value ∧ act record value = .ok (some changed)) :
    (first name scanner act).apply (tag ++ rest, record) = .ok (rest, changed) := by
  rcases either with ⟨rfl, absent, rfl⟩ | ⟨nonempty, reads, accepted⟩
  · exact first_absent name scanner act rest changed absent
  · have present := scanner.first_reads tag value nonempty reads rest
    rw [first_found name scanner act (tag ++ rest) record changed ⟨tag, value⟩ present accepted,
      take_front tag rest nonempty tight]

end First

section Every

variable (piece : β → List Char) (change : β → R → R) (ending : List Char)

theorem steps_front (tags : List β) (move : β → Move R) (record : R) (tightEnding : Tight ending)
    (tight : ∀ tag ∈ tags, piece tag ≠ [] ∧ Tight (piece tag)) (token : ∀ tag ∈ tags, (move tag).token = piece tag)
    (accepted : ∀ tag ∈ tags, ∀ record, (move tag).act record = .ok (some (change tag record))) :
    (tags.map move).foldlM (step true) (tags.flatMap piece ++ ending, record) =
      .ok (ending, tags.foldl (fun record tag => change tag record) record) := by
  induction tags generalizing record with
  | nil => rfl
  | cons tag tags ih =>
      obtain ⟨nonempty, _⟩ := tight tag List.mem_cons_self
      have later := fun other member => tight other (List.mem_cons_of_mem tag member)
      have tightRest : Tight (tags.flatMap piece ++ ending) := by
        refine tight_append _ _ (tight_flatten _ ?_) tightEnding
        intro text member
        obtain ⟨other, present, rfl⟩ := List.mem_map.mp member
        exact (later other present).2
      have moved := step_accepted true (move tag) (piece tag ++ (tags.flatMap piece ++ ending)) record _
        (accepted tag List.mem_cons_self record)
      rw [token tag List.mem_cons_self, if_pos rfl, take_front (piece tag) _ nonempty tightRest] at moved
      rw [List.map_cons, List.flatMap_cons, List.append_assoc, List.foldlM_cons, moved]
      exact ih _ later (fun other member => token other (List.mem_cons_of_mem _ member))
        (fun other member => accepted other (List.mem_cons_of_mem _ member))

theorem all_front (scanner : Scanner α) (value : β → α) (tags : List β)
    (reads : ∀ tag ∈ tags, piece tag ≠ [] ∧ scanner.Reads (piece tag) (value tag)) :
    scanner.all (tags.flatMap piece ++ ending) =
      tags.map (fun tag => ⟨piece tag, value tag⟩) ++ scanner.all ending := by
  induction tags with
  | nil => rfl
  | cons tag tags ih =>
      obtain ⟨nonempty, readsTag⟩ := reads tag List.mem_cons_self
      rw [List.flatMap_cons, List.append_assoc, scanner.all_reads _ _ nonempty readsTag,
        ih fun other member => reads other (List.mem_cons_of_mem _ member)]
      rfl

theorem every_front (name : String) (scanner : Scanner α) (act : R → α → Attempt (Option R)) (value : β → α)
    (tags : List β) (record : R) (tightEnding : Tight ending) (nothing : scanner.all ending = [])
    (reads : ∀ tag ∈ tags, piece tag ≠ [] ∧ Tight (piece tag) ∧ scanner.Reads (piece tag) (value tag))
    (accepted : ∀ tag ∈ tags, ∀ record, act record (value tag) = .ok (some (change tag record))) :
    (every name scanner act).apply (tags.flatMap piece ++ ending, record) =
      .ok (ending, tags.foldl (fun record tag => change tag record) record) := by
  have found := all_front piece ending scanner value tags fun tag member =>
    ⟨(reads tag member).1, (reads tag member).2.2⟩
  rw [nothing, List.append_nil] at found
  simp only [apply, every, found, List.map_map]
  exact steps_front piece change ending tags _ record tightEnding
    (fun tag member => ⟨(reads tag member).1, (reads tag member).2.1⟩) (fun _ _ => rfl) accepted

theorem steps_declined (moves : List (Move R)) (state : List Char × R)
    (declined : ∀ move ∈ moves, move.act state.2 = .ok none) : moves.foldlM (step true) state = .ok state := by
  induction moves with
  | nil => rfl
  | cons move moves ih =>
      rw [List.foldlM_cons, step_declined true move state (declined move List.mem_cons_self)]
      exact ih fun other member => declined other (List.mem_cons_of_mem _ member)

theorem every_declined (name : String) (scanner : Scanner α) (act : R → α → Attempt (Option R)) (text : List Char)
    (record : R) (declined : ∀ found ∈ scanner.all text, act record found.value = .ok none) :
    (every name scanner act).apply (text, record) = .ok (text, record) := by
  refine steps_declined _ _ fun tried member => ?_
  obtain ⟨found, present, rfl⟩ := List.mem_map.mp member
  exact declined found present

-- The record accepts the tag in front and then declines all others.
theorem every_once (name : String) (scanner : Scanner α) (act : R → α → Attempt (Option R)) (tag rest : List Char) (value : α)
    (record changed : R) (tight : Tight rest) (nonempty : tag ≠ []) (reads : scanner.Reads tag value)
    (accepted : act record value = .ok (some changed))
    (declined : ∀ found ∈ scanner.all rest, act changed found.value = .ok none) :
    (every name scanner act).apply (tag ++ rest, record) = .ok (rest, changed) := by
  have moved := step_accepted true (move act ⟨tag, value⟩) (tag ++ rest) record changed accepted
  rw [if_pos rfl, show (move act ⟨tag, value⟩).token = tag from rfl, take_front tag rest nonempty tight] at moved
  simp only [apply, every, scanner.all_reads tag value nonempty reads rest, List.map_cons, List.foldlM_cons, moved]
  refine steps_declined _ _ fun tried member => ?_
  obtain ⟨found, present, rfl⟩ := List.mem_map.mp member
  exact declined found present

end Every

-- A record that takes one item after the other holds all of them at the end of its list.
theorem collected (put : List β → R → R) (none : ∀ record, put [] record = record)
    (more : ∀ item items record, put items (put [item] record) = put (item :: items) record) (items : List β) (record : R) :
    items.foldl (fun record item => put [item] record) record = put items record := by
  induction items generalizing record with
  | nil => exact (none record).symm
  | cons item items ih => rw [List.foldl_cons, ih, more]

end TaggedStory.Tag.Rule
