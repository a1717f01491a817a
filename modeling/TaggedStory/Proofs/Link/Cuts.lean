import TaggedStory.Proofs.Link.Expansion
/-!
How many links a resolver cuts. Once every entity has been resolved, it has cut one exactly if bypassed entities
form a cycle; further questions about entities then change nothing, and no answer is ever given otherwise again.
-/
set_option autoImplicit false

namespace TaggedStory

namespace Network

variable (net : Network)

-- What a question gives.
def answer (memory : Memory) : Question → List (String × List String)
  | .one id => [(id, (net.resolve id memory).1)]
  | .all => (net.resolveAll memory).1

-- The ids whose successors a question asks for.
def asked : Question → List String
  | .one id => [id]
  | .all => net.entities

section Memory

variable (memory : Memory)

theorem answer_each (question : Question) : net.resolveEach memory (net.asked question) =
    (net.answer memory question, net.remember memory question) := by
  cases question <;> rfl

theorem resolve_learns (exact : memory.Exact net) (id : String) :
    (net.resolve id memory).2.find? id = some (net.resolve id memory).1 := by
  have closed := walk_closed net id memory exact
  rw [resolve]
  cases known : memory.find? id with
  | some found =>
      rw [walk, known]
      exact known
  | none =>
      rw [walk, known] at closed ⊢
      simp only at closed ⊢
      split at closed
      case isTrue complete =>
        simp only [complete, if_true]
        rw [Memory.find_learn, if_pos rfl]
      case isFalse incomplete => exact absurd (List.isEmpty_iff.mpr closed) incomplete

theorem each_learned (exact : memory.Exact net) (ids : List String) :
    ∀ pair ∈ (net.resolveEach memory ids).1, (net.resolveEach memory ids).2.find? pair.1 = some pair.2 := by
  induction ids generalizing memory with
  | nil => simp [resolveEach]
  | cons id rest ih =>
      intro pair member
      rcases List.mem_cons.mp member with rfl | member
      · exact (resolve_each_grows net _ rest).known id _ (resolve_learns net memory exact id)
      · exact ih _ (resolve_exact net id memory exact).2.2 pair member

theorem each_asked (ids : List String) : (net.resolveEach memory ids).1.map Prod.fst = ids := by
  induction ids generalizing memory with
  | nil => rfl
  | cons id rest ih => exact congrArg (List.cons id) (ih (net.resolve id memory).2)

-- What is known is given again, and nothing is learned.
theorem each_again (pairs : List (String × List String)) (known : ∀ pair ∈ pairs, memory.find? pair.1 = some pair.2) :
    net.resolveEach memory (pairs.map Prod.fst) = (pairs, memory) := by
  induction pairs with
  | nil => rfl
  | cons pair rest ih =>
      have given : net.resolve pair.1 memory = (pair.2, memory) := by
        rw [resolve, walk, known pair List.mem_cons_self]
      have others := ih fun other member => known other (List.mem_cons_of_mem _ member)
      simp only [List.map_cons, resolveEach, given, others]

end Memory

theorem answer_stays (prior later : List Question) (question : Question) :
    net.answer (net.memoryAfter (prior ++ question :: later)) question = net.answer (net.memoryAfter prior) question ∧
      net.remember (net.memoryAfter (prior ++ question :: later)) question = net.memoryAfter (prior ++ question :: later) := by
  have first := answer_each net (net.memoryAfter prior) question
  have learned := each_learned net _ (memory_after_exact net prior) (net.asked question)
  have ids := each_asked net (net.memoryAfter prior) (net.asked question)
  rw [first] at learned ids
  have grown := history_grows net (net.remember (net.memoryAfter prior) question) later
  have again := each_again net (net.memoryAfter (prior ++ question :: later)) (net.answer (net.memoryAfter prior) question)
    fun pair member => by
      rw [memory_after_append]
      exact grown.known _ _ (learned pair member)
  rw [ids, answer_each] at again
  exact Prod.ext_iff.mp again

section Everything

variable (history : List Question) (everything : .all ∈ history)

include everything

theorem all_known (id : String) (present : net.isEntity id = true) : (net.memoryAfter history).find? id ≠ none := by
  obtain ⟨prior, later, rfl⟩ := List.append_of_mem everything
  have learned := each_learned net _ (memory_after_exact net prior) net.entities
  have ids := each_asked net (net.memoryAfter prior) net.entities
  have listed : id ∈ net.entities := by simpa [isEntity] using present
  rw [← ids, List.mem_map] at listed
  obtain ⟨pair, member, rfl⟩ := listed
  have grown := history_grows net (net.remember (net.memoryAfter prior) .all) later
  rw [memory_after_append, List.foldl_cons, grown.known _ _ (learned pair member)]
  exact Option.some_ne_none _

theorem settled_question (question : Question) (entities : ∀ id, question = .one id → net.isEntity id = true) :
    net.remember (net.memoryAfter history) question = net.memoryAfter history := by
  cases question with
  | one id =>
      have known := all_known net history everything id (entities id rfl)
      obtain ⟨found, known⟩ := Option.ne_none_iff_exists'.mp known
      rw [remember, resolve, walk, known]
  | all =>
      obtain ⟨prior, later, rfl⟩ := List.append_of_mem everything
      exact (answer_stays net prior later .all).2

end Everything

-- An id from which bypassed entities do not go on for ever is on no cycle.
theorem grounded_off_cycle (id : String) (grounded : Acc net.Behind id) :
    ∀ link cycle, net.Cycle link cycle → id ∉ cycle := by
  induction grounded with
  | intro id _ ih =>
      intro link cycle closed member
      obtain ⟨next, inside, linked⟩ := cycle_next net link cycle closed id member
      exact ih next ⟨linked, closed.bypassed next inside⟩ link cycle closed inside

theorem cut_iff_cycle (history : List Question) (everything : .all ∈ history) :
    0 < (net.memoryAfter history).cyclicBypassCount ↔ ∃ link cycle, net.Cycle link cycle := by
  rw [Memory.cyclicBypassCount, List.length_pos_iff]
  constructor
  · intro cut
    obtain ⟨link, member⟩ := List.exists_mem_of_ne_nil _ cut
    exact ⟨link, (cuts_cyclic net history).2 link member⟩
  · rintro ⟨link, cycle, closed⟩ uncut
    have member := List.mem_of_mem_head? closed.first
    have known := all_known net history everything link.2 (closed.bypassed link.2 member).1
    obtain ⟨found, known⟩ := Option.ne_none_iff_exists'.mp known
    have unwound := history_unwinds net history uncut link.2 found known
    exact grounded_off_cycle net link.2 unwound.grounded link cycle closed member

theorem cuts_count_cycles (history : List Question) :
    let memory := net.memoryAfter history
    (∀ question, memory.cyclicBypassCount ≤ (net.remember memory question).cyclicBypassCount) ∧
    (memory.cuts.Nodup ∧ ∀ link ∈ memory.cuts, ∃ cycle, net.Cycle link cycle) ∧
    (.all ∈ history →
      (0 < memory.cyclicBypassCount ↔ ∃ link cycle, net.Cycle link cycle) ∧
      ∀ question, (∀ id, question = .one id → net.isEntity id = true) → net.remember memory question = memory) ∧
    ∀ prior question later, history = prior ++ question :: later →
      net.answer memory question = net.answer (net.memoryAfter prior) question := by
  refine ⟨fun question => ?_, cuts_cyclic net history, fun everything => ⟨?_, ?_⟩, ?_⟩
  · exact (remember_grows net _ question).cuts.length_le
  · exact cut_iff_cycle net history everything
  · exact settled_question net history everything
  · rintro prior question later rfl
    exact (answer_stays net prior later question).1

-- Two bypassed entities linked to each other; which of the two links is cut depends on where the walk comes from.
def ring : Network :=
  build [("A", "B"), ("B", "C"), ("C", "B"), ("B", "X"), ("C", "Y"), ("D", "C")] ["A", "B", "C", "D", "X", "Y"] ["B", "C"]

theorem ring_cut : 0 < (ring.memoryAfter [.one "D", .all]).cyclicBypassCount ∧
    ring.remember (ring.memoryAfter [.one "D", .all]) (.one "A") = ring.memoryAfter [.one "D", .all] := by
  have settled := (cuts_count_cycles ring [.one "D", .all]).2.2.1 (by simp)
  refine ⟨settled.1.mpr ⟨("C", "B"), ["B", "C"], ?_⟩, settled.2 (.one "A") ?_⟩
  · exact ⟨by decide, by decide, by decide, rfl, rfl, by decide⟩
  · rintro id ⟨⟩
    decide

end Network

end TaggedStory
