import TaggedStory.Proofs.Link.Resolution
/-!
Where no entity is bypassed, the successors of an entity are the ends of its own links that are
entities, in the order of the links and each once.
-/
set_option autoImplicit false

namespace TaggedStory

theorem add_all_first (found more : List String) :
    more.foldl addNew found = found ++ (more.filter fun item => !found.contains item).eraseDups := by
  induction more generalizing found with
  | nil => simp
  | cons item rest ih =>
      rw [List.foldl_cons, ih]
      by_cases present : found.contains item = true
      · rw [addNew, if_pos present, List.filter_cons_of_neg (by simpa using present)]
      · rw [addNew, if_neg present, List.filter_cons_of_pos (by simpa using present), List.eraseDups_cons,
          List.filter_filter, List.append_assoc, List.singleton_append]
        congr 3
        refine List.filter_congr fun other _ => ?_
        by_cases same : other = item <;> simp [same]

theorem erase_dups_of_nodup (items : List String) (distinct : items.Nodup) : items.eraseDups = items := by
  induction items with
  | nil => rfl
  | cons item rest ih =>
      obtain ⟨fresh, distinctRest⟩ := List.nodup_cons.mp distinct
      have others : rest.filter (fun other => !other == item) = rest := by
        refine List.filter_eq_self.mpr fun other member => ?_
        simpa using fun same : other = item => fresh (same ▸ member)
      rw [List.eraseDups_cons, others, ih distinctRest]

namespace Network

variable (net : Network)

def direct (id : String) : List String :=
  ((net.targets id).filter net.isEntity).eraseDups

variable (free : net.bypassed = [])

include free

theorem nothing_bypassed (id : String) : ¬ net.isBypassed id = true := by
  simp [isBypassed, free]

theorem walk_all_direct (id : String) (chain targets : List String) (state : Walk) :
    net.walkAll id chain targets state = { state with found := (targets.filter net.isEntity).foldl addNew state.found } := by
  induction targets generalizing state with
  | nil =>
      rw [walkAll]
      rfl
  | cons target rest ih =>
      cases present : net.isEntity target with
      | false => rw [walk_all_absent net id target chain rest state present, ih, List.filter_cons_of_neg (by simp [present])]
      | true =>
          rw [walk_all_kept net id target chain rest state present (nothing_bypassed net free target), ih,
            List.filter_cons_of_pos present, List.foldl_cons]

theorem resolve_direct (id : String) (memory : Memory) (fresh : memory.find? id = none) :
    net.resolve id memory = (net.direct id, memory.learn id (net.direct id)) := by
  have found : ((net.targets id).filter net.isEntity).foldl addNew [] = net.direct id := by
    rw [add_all_first, direct]
    simp
  rw [resolve, walk, fresh]
  simp only [walk_all_direct net free, found, List.filter_nil, List.isEmpty_nil, if_true]

theorem resolve_each_direct (ids : List String) (distinct : ids.Nodup) (memory : Memory)
    (fresh : ∀ id ∈ ids, memory.find? id = none) :
    (net.resolveEach memory ids).1 = ids.map (fun id => (id, net.direct id)) ∧
      (net.resolveEach memory ids).2.cuts = memory.cuts := by
  induction ids generalizing memory with
  | nil => exact ⟨rfl, rfl⟩
  | cons id rest ih =>
      obtain ⟨new, distinctRest⟩ := List.nodup_cons.mp distinct
      have resolved := resolve_direct net free id memory (fresh id List.mem_cons_self)
      have later : ∀ other ∈ rest, (memory.learn id (net.direct id)).find? other = none := by
        intro other member
        rw [Memory.find_learn, if_neg (show id ≠ other from fun same => new (same ▸ member))]
        exact fresh other (List.mem_cons_of_mem _ member)
      obtain ⟨answers, cuts⟩ := ih distinctRest (memory.learn id (net.direct id)) later
      simp only [resolveEach, resolved, answers, List.map_cons]
      exact ⟨trivial, cuts⟩

theorem resolve_all_direct (distinct : net.entities.Nodup) :
    (net.resolveAll {}).1 = net.entities.map (fun id => (id, net.direct id)) ∧
      (net.resolveAll {}).2.cyclicBypassCount = 0 := by
  obtain ⟨answers, cuts⟩ := resolve_each_direct net free net.entities distinct {} fun _ _ => rfl
  exact ⟨answers, congrArg List.length cuts⟩

end Network

end TaggedStory
