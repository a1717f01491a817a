import Mathlib.Data.List.Nodup
import TaggedStory.Proofs.Link.Resolution
/-!
The links that a resolver cuts. Each of them closes a cycle of bypassed entities, and what was found once is
never found otherwise later.
-/
set_option autoImplicit false

namespace TaggedStory

namespace Network

-- Distinct bypassed entities, each linked to the next one, and the link that leads from the last back to the first.
structure Cycle (net : Network) (link : String × String) (cycle : List String) : Prop where
  distinct : cycle.Nodup
  bypassed : ∀ id ∈ cycle, net.isEntity id = true ∧ net.isBypassed id = true
  linked : cycle.IsChain fun id next => next ∈ net.targets id
  first : cycle.head? = some link.2
  last : cycle.getLast? = some link.1
  closed : link.2 ∈ net.targets link.1

theorem cycle_next (net : Network) (link : String × String) (cycle : List String) (closed : net.Cycle link cycle) (id : String)
    (member : id ∈ cycle) : ∃ next ∈ cycle, next ∈ net.targets id := by
  obtain ⟨front, back, rfl⟩ := List.append_of_mem member
  cases back with
  | nil =>
      have last : id = link.1 := by simpa using closed.last
      exact ⟨link.2, List.mem_of_mem_head? closed.first, last ▸ closed.closed⟩
  | cons next rest => exact ⟨next, by simp, (List.isChain_append_cons_cons.mp closed.linked).2.1⟩

-- The ids on the way to the one whose links are walked, the latest first. All but the one that was asked for are
-- bypassed entities.
structure Trail (net : Network) (chain : List String) : Prop where
  distinct : chain.Nodup
  linked : chain.IsChain fun later earlier => later ∈ net.targets earlier
  bypassed : ∀ id ∈ chain.dropLast, net.isEntity id = true ∧ net.isBypassed id = true

section Trail

variable (net : Network) (id target : String) (chain : List String)

theorem trail_start : net.Trail [id] where
  distinct := List.nodup_singleton id
  linked := .singleton id
  bypassed := by simp

variable (linked : target ∈ net.targets id) (present : net.isEntity target = true) (skipped : net.isBypassed target = true)

include linked present skipped

theorem trail_onward (trail : net.Trail chain) (own : chain.head? = some id) (fresh : target ∉ chain) :
    net.Trail (target :: chain) := by
  obtain ⟨earlier, rfl⟩ := List.head?_eq_some_iff.mp own
  refine ⟨List.nodup_cons.mpr ⟨fresh, trail.distinct⟩, .cons_cons linked trail.linked, fun other member => ?_⟩
  rw [List.dropLast_cons_cons, List.mem_cons] at member
  rcases member with rfl | member
  · exact ⟨present, skipped⟩
  · exact trail.bypassed other member

-- The part of the trail from the target on, in the order of its links, is the cycle.
theorem trail_closes (trail : net.Trail chain) (own : chain.head? = some id) (back : target ∈ chain) :
    ∃ cycle, net.Cycle (id, target) cycle := by
  obtain ⟨front, rest, rfl⟩ := List.append_of_mem back
  have split : front ++ target :: rest = (front ++ [target]) ++ rest := by simp
  have inside : (front ++ [target]) <+: front ++ target :: rest := ⟨rest, split.symm⟩
  refine ⟨(front ++ [target]).reverse, ?_, fun other member => ?_, ?_, ?_, ?_, linked⟩
  · exact List.nodup_reverse.mpr (trail.distinct.sublist inside.sublist)
  · rw [List.mem_reverse, List.mem_append, List.mem_singleton] at member
    rcases member with member | rfl
    · exact trail.bypassed other (by rw [List.dropLast_append_cons]; exact List.mem_append_left _ member)
    · exact ⟨present, skipped⟩
  · exact List.isChain_reverse.mpr <| trail.linked.infix inside.isInfix
  · simp
  · rw [List.getLast?_reverse]
    rw [split, List.head?_append] at own
    cases front <;> simpa using own

end Trail

-- What a walk may do to a memory: lists that are known stay, and links that are cut are new and close a cycle.
structure Grown (net : Network) (before after : Memory) : Prop where
  known : ∀ id found, before.find? id = some found → after.find? id = some found
  cuts : before.cuts <+: after.cuts
  distinct : before.cuts.Nodup → after.cuts.Nodup
  cyclic : ∀ link ∈ after.cuts, link ∈ before.cuts ∨ ∃ cycle, net.Cycle link cycle

section Grown

variable (net : Network) (before : Memory)

theorem grown_same : net.Grown before before where
  known := fun _ _ known => known
  cuts := List.prefix_rfl
  distinct := fun distinct => distinct
  cyclic := fun _ member => .inl member

theorem grown_chain (middle after : Memory) (first : net.Grown before middle) (second : net.Grown middle after) :
    net.Grown before after where
  known := fun id found known => second.known id found (first.known id found known)
  cuts := first.cuts.trans second.cuts
  distinct := fun distinct => second.distinct (first.distinct distinct)
  cyclic := fun link member => (second.cyclic link member).elim (first.cyclic link) .inr

theorem grown_cut (link : String × String) (closes : ∃ cycle, net.Cycle link cycle) :
    net.Grown before (before.cut link) := by
  have known : (before.cut link).known = before.known := before.cut_known link
  by_cases present : before.cuts.contains link = true
  · rw [Memory.cut, if_pos present]
    exact grown_same net before
  · have cuts : (before.cut link).cuts = before.cuts ++ [link] := by rw [Memory.cut, if_neg present]
    refine ⟨fun id found => ?_, ?_, fun distinct => ?_, fun other member => ?_⟩
    · simp only [Memory.find?, known, imp_self]
    · exact cuts ▸ List.prefix_append _ _
    · rw [cuts, ← List.concat_eq_append]
      exact distinct.concat (by simpa using present)
    · rw [cuts, List.mem_append, List.mem_singleton] at member
      rcases member with old | rfl
      · exact .inl old
      · exact .inr closes

-- A list is learned for an id that was not known when its walk began.
theorem grown_learn (after : Memory) (id : String) (found : List String) (unknown : before.find? id = none)
    (grown : net.Grown before after) : net.Grown before (after.learn id found) where
  known := by
    intro other answer known
    rw [Memory.find_learn, if_neg]
    · exact grown.known other answer known
    · rintro rfl
      rw [unknown] at known
      cases known
  cuts := grown.cuts
  distinct := grown.distinct
  cyclic := grown.cyclic

end Grown

theorem walk_grows (net : Network) :
    (∀ id chain memory, net.Trail (id :: chain) → net.Grown memory (net.walk id chain memory).memory) ∧
    (∀ id chain targets state, net.Trail chain → chain.head? = some id → targets ⊆ net.targets id →
      net.Grown state.memory (net.walkAll id chain targets state).memory) := by
  apply walk_induct net
    (fun id chain memory result => net.Trail (id :: chain) → net.Grown memory result.memory)
    (fun id chain targets state result => net.Trail chain → chain.head? = some id → targets ⊆ net.targets id →
      net.Grown state.memory result.memory)
  case known =>
    intro id chain memory found present _
    exact grown_same net memory
  case closed =>
    intro id chain memory result unknown ih _ trail
    exact grown_learn net memory _ id _ unknown (ih trail rfl (List.Subset.refl _))
  case unclosed =>
    intro id chain memory result unknown ih _ trail
    exact ih trail rfl (List.Subset.refl _)
  case finished =>
    intro id chain state _ _ _
    exact grown_same net state.memory
  case absent =>
    intro id chain target rest state outside ih trail own linked
    exact ih trail own (List.subset_of_cons_subset linked)
  case cut =>
    rintro id chain target rest state _ inside skipped back rfl ih trail own linked
    have closes := trail_closes net id target chain (linked List.mem_cons_self) inside skipped trail own back
    exact grown_chain net _ _ _ (grown_cut net state.memory (id, target) closes)
      (ih trail own (List.subset_of_cons_subset linked))
  case onward =>
    rintro id chain target rest state inner _ inside skipped fresh - innerIh rfl ih trail own linked
    have onward := trail_onward net id target chain (linked List.mem_cons_self) inside skipped trail own fresh
    exact grown_chain net _ _ _ (innerIh onward) (ih trail own (List.subset_of_cons_subset linked))
  case kept =>
    rintro id chain target rest state _ inside unskipped rfl ih trail own linked
    exact ih trail own (List.subset_of_cons_subset linked)

section Questions

variable (net : Network) (memory : Memory)

theorem resolve_grows (id : String) : net.Grown memory (net.resolve id memory).2 :=
  (walk_grows net).1 id [] memory (trail_start net id)

theorem resolve_each_grows (ids : List String) : net.Grown memory (net.resolveEach memory ids).2 := by
  induction ids generalizing memory with
  | nil => exact grown_same net memory
  | cons id rest ih => exact grown_chain net _ _ _ (resolve_grows net memory id) (ih (net.resolve id memory).2)

theorem remember_grows (question : Question) : net.Grown memory (net.remember memory question) := by
  cases question with
  | one id => exact resolve_grows net memory id
  | all => exact resolve_each_grows net memory net.entities

theorem history_grows (later : List Question) : net.Grown memory (later.foldl net.remember memory) := by
  induction later generalizing memory with
  | nil => exact grown_same net memory
  | cons question rest ih => exact grown_chain net _ _ _ (remember_grows net memory question) (ih _)

end Questions

theorem memory_after_append (net : Network) (history later : List Question) :
    net.memoryAfter (history ++ later) = later.foldl net.remember (net.memoryAfter history) :=
  List.foldl_append

theorem cuts_cyclic (net : Network) (history : List Question) :
    (net.memoryAfter history).cuts.Nodup ∧ ∀ link ∈ (net.memoryAfter history).cuts, ∃ cycle, net.Cycle link cycle := by
  have grown := history_grows net {} history
  exact ⟨grown.distinct List.nodup_nil, fun link member => (grown.cyclic link member).resolve_left List.not_mem_nil⟩

end Network

end TaggedStory
