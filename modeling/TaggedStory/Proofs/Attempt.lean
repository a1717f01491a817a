import TaggedStory.Fault
/-!
Attempts that succeed: what their parts gave.
-/
set_option autoImplicit false

namespace TaggedStory

variable {α β σ ε : Type}

theorem attempt_map_ok (attempt : Except ε α) (change : α → β) (result : β) :
    attempt.map change = .ok result ↔ ∃ value, attempt = .ok value ∧ change value = result := by
  cases attempt with
  | error fault => simp [Except.map]
  | ok value => simp [Except.map]

theorem attempt_bind_ok (attempt : Except ε α) (next : α → Except ε β) (result : β) :
    attempt >>= next = .ok result ↔ ∃ value, attempt = .ok value ∧ next value = .ok result := by
  cases attempt with
  | error fault => simp [bind, Except.bind]
  | ok value => simp [bind, Except.bind]

theorem attempt_pure_ok (value result : α) : (pure value : Except ε α) = .ok result ↔ value = result := by
  simp [pure, Except.pure]

-- What every step upholds, a whole run upholds.
theorem attempt_fold_upholds (step : σ → α → Except ε σ) (holds : σ → Prop) (items : List α)
    (steps : ∀ state, holds state → ∀ item ∈ items, ∀ next, step state item = .ok next → holds next)
    (state result : σ) (start : holds state) (done : items.foldlM step state = .ok result) : holds result := by
  induction items generalizing state with
  | nil =>
      rw [List.foldlM_nil, attempt_pure_ok] at done
      exact done ▸ start
  | cons item rest ih =>
      rw [List.foldlM_cons, attempt_bind_ok] at done
      obtain ⟨next, first, done⟩ := done
      exact ih (fun state held item member => steps state held item (List.mem_cons_of_mem _ member)) next
        (steps state start item List.mem_cons_self next first) done

theorem attempt_fold_preserves (step : σ → α → Except ε σ) (view : σ → β) (items : List α)
    (steps : ∀ state, ∀ item ∈ items, ∀ next, step state item = .ok next → view next = view state)
    (state result : σ) (done : items.foldlM step state = .ok result) : view result = view state :=
  attempt_fold_upholds step (fun other => view other = view state) items
    (fun other same item member next first => (steps other item member next first).trans same) state result rfl done

theorem attempt_map_stops (attempt : Except ε α) (change : α → β) (fault : ε) :
    attempt.map change = .error fault ↔ attempt = .error fault := by
  cases attempt <;> simp [Except.map]

-- A run that stops has stopped at one of its steps.
theorem attempt_fold_stops (step : σ → α → Except ε σ) (items : List α) (state : σ) (fault : ε)
    (stopped : items.foldlM step state = .error fault) : ∃ now, ∃ item ∈ items, step now item = .error fault := by
  induction items generalizing state with
  | nil => cases stopped
  | cons item rest ih =>
      rw [List.foldlM_cons] at stopped
      cases first : step state item with
      | error cause =>
          rw [first] at stopped
          cases stopped
          exact ⟨state, item, List.mem_cons_self, first⟩
      | ok next =>
          rw [first] at stopped
          obtain ⟨now, other, member, refused⟩ := ih next stopped
          exact ⟨now, other, List.mem_cons_of_mem item member, refused⟩

theorem attempt_error_returns (fault : ε) : ¬ ∃ value, (.error fault : Except ε α) = .ok value := by
  rintro ⟨value, same⟩
  cases same

theorem attempt_map_returns (attempt : Except ε α) (change : α → β) :
    (∃ result, attempt.map change = .ok result) ↔ ∃ value, attempt = .ok value := by
  cases attempt <;> simp [Except.map]

theorem attempt_pair_returns {γ : Type} (first : Except ε α) (second : Except ε β) (join : α → β → γ) :
    (∃ result, (first >>= fun value => second >>= fun other => pure (join value other)) = .ok result) ↔
      (∃ value, first = .ok value) ∧ ∃ value, second = .ok value := by
  cases first <;> cases second <;> simp [bind, Except.bind, pure, Except.pure]

theorem attempt_bind_returns (attempt : Except ε α) (next : α → Except ε β) (value : α) (first : attempt = .ok value)
    (onward : ∃ result, next value = .ok result) : ∃ result, attempt >>= next = .ok result := by
  rw [first]
  exact onward

theorem attempt_fold_returns (step : σ → α → Except ε σ) (items : List α)
    (steps : ∀ state, ∀ item ∈ items, ∃ next, step state item = .ok next) (state : σ) :
    ∃ result, items.foldlM step state = .ok result := by
  induction items generalizing state with
  | nil => exact ⟨state, rfl⟩
  | cons item rest ih =>
      obtain ⟨next, first⟩ := steps state item List.mem_cons_self
      rw [List.foldlM_cons]
      exact attempt_bind_returns _ _ next first (ih (fun state item member => steps state item (List.mem_cons_of_mem _ member)) next)

end TaggedStory
