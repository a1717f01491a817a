import TaggedStory.Proofs.Link.Cycles
import TaggedStory.Proofs.Link.Direct
/-!
The order of successors. Where bypassed entities form no cycle, the successors are the plain expansion of the
links: in their order, each bypassed entity replaced by its own expansion, and every id at its first place only.
-/
set_option autoImplicit false

namespace TaggedStory

theorem add_all_fresh (items : List String) : items.foldl addNew [] = items.eraseDups := by
  rw [add_all_first]
  simp

theorem erase_dups_append (front back : List String) : (front ++ back).eraseDups = back.foldl addNew front.eraseDups := by
  rw [← add_all_fresh, List.foldl_append, add_all_fresh]

theorem add_all_listed (found more : List String) (item : String) (listed : item ∈ found ∨ item ∈ more) :
    addNew (more.foldl addNew found) item = more.foldl addNew found := by
  rw [addNew, if_pos (List.contains_iff_mem.mpr ((mem_add_all found more item).mpr listed))]

-- Adding what was collected is adding each item that went into it.
theorem add_all_collected (found listed more : List String) :
    (more.foldl addNew listed).foldl addNew found = more.foldl addNew (listed.foldl addNew found) := by
  induction more generalizing listed with
  | nil => rfl
  | cons item rest ih =>
      rw [List.foldl_cons, List.foldl_cons, ih]
      by_cases present : listed.contains item = true
      · rw [addNew, if_pos present, add_all_listed found listed item (.inr (List.contains_iff_mem.mp present))]
      · rw [addNew, if_neg present, List.foldl_append]
        rfl

theorem add_all_distinct (found more : List String) : more.eraseDups.foldl addNew found = more.foldl addNew found := by
  rw [← add_all_fresh, add_all_collected]
  rfl

namespace Network

variable (net : Network)

-- The targets in order, each bypassed entity replaced by what it expands to.
def spread (expand : String → List String) (targets : List String) : List String :=
  targets.flatMap fun target =>
    if !net.isEntity target then []
    else if net.isBypassed target then expand target
    else [target]

def Expands (expand : String → List String) : Prop :=
  ∀ id, expand id = net.spread expand (net.targets id)

-- The bypassed entities next to an id; where they go on for ever there is a cycle.
def Behind (next id : String) : Prop :=
  next ∈ net.targets id ∧ net.isEntity next = true ∧ net.isBypassed next = true

-- What a walk gives that cut nothing.
structure Unwound (id : String) (found : List String) : Prop where
  grounded : Acc net.Behind id
  ordered : ∀ expand, net.Expands expand → found = (expand id).eraseDups

def AllUnwound (memory : Memory) : Prop :=
  ∀ id found, memory.find? id = some found → net.Unwound id found

-- The same for the links to the targets in `seen`.
structure Unwinding (seen : List String) (state : Walk) : Prop where
  grounded : ∀ next ∈ seen, net.isEntity next = true → net.isBypassed next = true → Acc net.Behind next
  ordered : ∀ expand, net.Expands expand → state.found = (net.spread expand seen).eraseDups
  memory : net.AllUnwound state.memory

section Steps

variable (seen : List String) (target : String) (state inner : Walk)

theorem spread_next (expand : String → List String) :
    net.spread expand (seen ++ [target]) = net.spread expand seen ++ net.spread expand [target] :=
  List.flatMap_append

theorem unwinding_start (memory : Memory) (known : net.AllUnwound memory) : net.Unwinding [] ⟨[], [], memory⟩ where
  grounded := by simp
  ordered := by simp [spread]
  memory := known

variable (unwinding : net.Unwinding seen state)

include unwinding

theorem unwinding_absent (absent : net.isEntity target = false) : net.Unwinding (seen ++ [target]) state where
  grounded := by
    intro next member present
    rw [List.mem_append, List.mem_singleton] at member
    rcases member with old | rfl
    · exact unwinding.grounded next old present
    · rw [absent] at present
      cases present
  ordered := by
    intro expand expands
    rw [spread_next, show net.spread expand [target] = [] by simp [spread, absent], List.append_nil]
    exact unwinding.ordered expand expands
  memory := unwinding.memory

theorem unwinding_kept (present : net.isEntity target = true) (kept : net.isBypassed target = false) :
    net.Unwinding (seen ++ [target]) { state with found := addNew state.found target } where
  grounded := by
    intro next member inside skipped
    rw [List.mem_append, List.mem_singleton] at member
    rcases member with old | rfl
    · exact unwinding.grounded next old inside skipped
    · rw [kept] at skipped
      cases skipped
  ordered := by
    intro expand expands
    rw [spread_next, show net.spread expand [target] = [target] by simp [spread, present, kept], erase_dups_append,
      ← unwinding.ordered expand expands]
    rfl
  memory := unwinding.memory

theorem unwinding_onward (present : net.isEntity target = true) (skipped : net.isBypassed target = true)
    (answered : net.Unwound target inner.found)
    (known : net.AllUnwound inner.memory) (openCuts : List String) :
    net.Unwinding (seen ++ [target]) ⟨inner.found.foldl addNew state.found, openCuts, inner.memory⟩ where
  grounded := by
    intro next member inside bypassed
    rw [List.mem_append, List.mem_singleton] at member
    rcases member with old | rfl
    · exact unwinding.grounded next old inside bypassed
    · exact answered.grounded
  ordered := by
    intro expand expands
    rw [spread_next, show net.spread expand [target] = expand target by simp [spread, present, skipped],
      erase_dups_append, ← unwinding.ordered expand expands, answered.ordered expand expands, add_all_distinct]
  memory := known

end Steps

theorem unwinding_done (id : String) (state : Walk) (unwinding : net.Unwinding (net.targets id) state) :
    net.Unwound id state.found where
  grounded := .intro id fun next behind => unwinding.grounded next behind.1 behind.2.1 behind.2.2
  ordered := fun expand expands => by rw [expands id, unwinding.ordered expand expands]

theorem learned_unwound (memory : Memory) (id : String) (answer : List String) (own : net.Unwound id answer)
    (known : net.AllUnwound memory) : net.AllUnwound (memory.learn id answer) := by
  intro other found present
  rw [Memory.find_learn] at present
  by_cases same : id = other
  · rw [if_pos same, Option.some.injEq] at present
    exact same ▸ present ▸ own
  · rw [if_neg same] at present
    exact known other found present

theorem uncut_before (before after : Memory) (grown : net.Grown before after) (uncut : after.cuts = []) : before.cuts = [] :=
  List.prefix_nil.mp (uncut ▸ grown.cuts)

theorem walk_unwinds :
    (∀ id chain memory, net.Trail (id :: chain) → net.AllUnwound memory → (net.walk id chain memory).memory.cuts = [] →
      net.Unwound id (net.walk id chain memory).found ∧ net.AllUnwound (net.walk id chain memory).memory) ∧
    (∀ id chain targets state, ∀ seen, net.Trail chain → chain.head? = some id → targets ⊆ net.targets id →
      net.Unwinding seen state → (net.walkAll id chain targets state).memory.cuts = [] →
        net.Unwinding (seen ++ targets) (net.walkAll id chain targets state)) := by
  apply walk_induct net
    (fun id chain memory result => net.Trail (id :: chain) → net.AllUnwound memory → result.memory.cuts = [] →
      net.Unwound id result.found ∧ net.AllUnwound result.memory)
    (fun id chain targets state result => ∀ seen, net.Trail chain → chain.head? = some id → targets ⊆ net.targets id →
      net.Unwinding seen state → result.memory.cuts = [] → net.Unwinding (seen ++ targets) result)
  case known =>
    intro id chain memory found present _ known _
    exact ⟨known id found present, known⟩
  case closed =>
    intro id chain memory result unknown ih _ trail known uncut
    have unwinding := ih [] trail rfl (List.Subset.refl _) (unwinding_start net memory known) uncut
    have done := unwinding_done net id result unwinding
    exact ⟨done, learned_unwound net _ id _ done unwinding.memory⟩
  case unclosed =>
    intro id chain memory result unknown ih _ trail known uncut
    have unwinding := ih [] trail rfl (List.Subset.refl _) (unwinding_start net memory known) uncut
    exact ⟨unwinding_done net id result unwinding, unwinding.memory⟩
  case finished =>
    intro id chain state seen _ _ _ unwinding _
    rwa [List.append_nil]
  case absent =>
    intro id chain target rest state outside ih seen trail own linked unwinding uncut
    rw [List.append_cons]
    exact ih _ trail own (List.subset_of_cons_subset linked) (unwinding_absent net seen target state unwinding outside) uncut
  case cut =>
    rintro id chain target rest state _ inside skipped back rfl ih seen trail own linked unwinding uncut
    -- The link was cut, which the rest of the walk does not undo.
    have before := uncut_before net _ _ ((walk_grows net).2 id chain rest _ trail own (List.subset_of_cons_subset linked)) uncut
    have cut : (id, target) ∈ (state.memory.cut (id, target)).cuts := by
      rw [Memory.cut]
      split
      case isTrue listed => exact List.contains_iff_mem.mp listed
      case isFalse => simp
    rw [before] at cut
    cases cut
  case onward =>
    rintro id chain target rest state inner _ inside skipped fresh - innerIh rfl ih seen trail own linked unwinding uncut
    have onward := trail_onward net id target chain (linked List.mem_cons_self) inside skipped trail own fresh
    have before := uncut_before net _ _ ((walk_grows net).2 id chain rest _ trail own (List.subset_of_cons_subset linked)) uncut
    obtain ⟨answered, known⟩ := innerIh onward unwinding.memory before
    rw [List.append_cons]
    exact ih _ trail own (List.subset_of_cons_subset linked)
      (unwinding_onward net seen target state inner unwinding inside skipped answered known _) uncut
  case kept =>
    rintro id chain target rest state _ inside unskipped rfl ih seen trail own linked unwinding uncut
    rw [List.append_cons]
    exact ih _ trail own (List.subset_of_cons_subset linked)
      (unwinding_kept net seen target state unwinding inside unskipped) uncut

section Questions

variable (memory : Memory) (known : net.AllUnwound memory)

include known

theorem resolve_unwinds (id : String) (uncut : (net.resolve id memory).2.cuts = []) :
    net.Unwound id (net.resolve id memory).1 ∧ net.AllUnwound (net.resolve id memory).2 :=
  (walk_unwinds net).1 id [] memory (trail_start net id) known uncut

theorem resolve_each_unwinds (ids : List String) (uncut : (net.resolveEach memory ids).2.cuts = []) :
    net.AllUnwound (net.resolveEach memory ids).2 := by
  induction ids generalizing memory with
  | nil => exact known
  | cons id rest ih =>
      have before := uncut_before net _ _ (resolve_each_grows net (net.resolve id memory).2 rest) uncut
      exact ih _ (resolve_unwinds net memory known id before).2 uncut

theorem remember_unwinds (question : Question) (uncut : (net.remember memory question).cuts = []) :
    net.AllUnwound (net.remember memory question) := by
  cases question with
  | one id => exact (resolve_unwinds net memory known id uncut).2
  | all => exact resolve_each_unwinds net memory known net.entities uncut

theorem run_unwinds (history : List Question) (uncut : (history.foldl net.remember memory).cuts = []) :
    net.AllUnwound (history.foldl net.remember memory) := by
  induction history generalizing memory with
  | nil => exact known
  | cons question rest ih =>
      have before := uncut_before net _ _ (history_grows net _ rest) uncut
      exact ih _ (remember_unwinds net memory known question before) uncut

end Questions

theorem history_unwinds (history : List Question) (uncut : (net.memoryAfter history).cuts = []) :
    net.AllUnwound (net.memoryAfter history) :=
  run_unwinds net {} (fun id found present => by cases present) history uncut

section Acyclic

variable (acyclic : ∀ link cycle, ¬ net.Cycle link cycle)

include acyclic

theorem acyclic_uncut (history : List Question) : (net.memoryAfter history).cuts = [] := by
  refine List.eq_nil_iff_forall_not_mem.mpr fun link member => ?_
  obtain ⟨cycle, closed⟩ := (cuts_cyclic net history).2 link member
  exact acyclic link cycle closed

theorem acyclic_unwound (history : List Question) (id : String) :
    net.Unwound id (net.resolve id (net.memoryAfter history)).1 := by
  have known := history_unwinds net history (acyclic_uncut net acyclic history)
  have uncut := acyclic_uncut net acyclic (history ++ [.one id])
  rw [memory_after_append] at uncut
  exact (resolve_unwinds net _ known id uncut).1

end Acyclic

-- Each id has its expansion once those of the bypassed entities behind it are there.
theorem expansion_exists (grounded : WellFounded net.Behind) : ∃ expand, net.Expands expand := by
  let step (id : String) (behind : ∀ next, net.Behind next id → List String) : List String :=
    (net.targets id).attach.flatMap fun (target : { next // next ∈ net.targets id }) =>
      if present : net.isEntity target.1 = true then
        if skipped : net.isBypassed target.1 = true then behind target.1 ⟨target.2, present, skipped⟩ else [target.1]
      else []
  refine ⟨grounded.fix step, fun id => ?_⟩
  rw [grounded.fix_eq, spread]
  conv_rhs => rw [← List.attach_map_subtype_val (net.targets id), List.flatMap_map]
  refine List.flatMap_congr fun target _ => ?_
  by_cases present : net.isEntity target.1 = true <;> simp [present]

theorem order_without_cycles (links : List (String × String)) (entities bypassed : List String)
    (acyclic : ∀ link cycle, ¬ (build links entities bypassed).Cycle link cycle) :
    let net := build links entities bypassed
    (∃ expand, net.Expands expand) ∧ ∀ expand, net.Expands expand → ∀ history id,
      (net.resolve id (net.memoryAfter history)).1 = (expand id).eraseDups := by
  intro net
  have unwound := acyclic_unwound net acyclic
  refine ⟨expansion_exists net ⟨fun id => (unwound [] id).grounded⟩, fun expand expands history id => ?_⟩
  exact (unwound history id).ordered expand expands

-- Two bypassed entities in a row, with links past them.
def bridgeLinks : List (String × String) :=
  [("A", "X"), ("A", "C"), ("X", "Y"), ("X", "C"), ("Y", "B"), ("Y", "C")]

def bridge : Network :=
  build bridgeLinks ["A", "X", "Y", "B", "C"] ["X", "Y"]

def bridgeExpansion (id : String) : List String :=
  if id = "A" then ["B", "C", "C", "C"]
  else if id = "X" then ["B", "C", "C"]
  else if id = "Y" then ["B", "C"]
  else []

theorem bridge_acyclic (link : String × String) (cycle : List String) : ¬ bridge.Cycle link cycle := by
  intro closed
  have onward : ∀ id ∈ cycle, ∃ next ∈ cycle, next ∈ bridge.targets id ∧ (next = "X" ∨ next = "Y") := by
    intro id member
    obtain ⟨next, inside, linked⟩ := cycle_next bridge link cycle closed id member
    exact ⟨next, inside, linked, by simpa [bridge, isBypassed, build] using (closed.bypassed next inside).2⟩
  have noY : "Y" ∉ cycle := by
    intro member
    obtain ⟨next, _, linked, rfl | rfl⟩ := onward "Y" member
    · exact absurd linked (by decide)
    · exact absurd linked (by decide)
  have noX : "X" ∉ cycle := by
    intro member
    obtain ⟨next, inside, linked, rfl | rfl⟩ := onward "X" member
    · exact absurd linked (by decide)
    · exact noY inside
  obtain ⟨next, inside, _, rfl | rfl⟩ := onward link.2 (List.mem_of_mem_head? closed.first)
  · exact noX inside
  · exact noY inside

theorem bridge_expands : bridge.Expands bridgeExpansion := by
  intro id
  by_cases known : id ∈ ["A", "X", "Y"]
  · simp only [List.mem_cons, List.not_mem_nil, or_false] at known
    rcases known with rfl | rfl | rfl <;> decide
  · simp only [List.mem_cons, List.not_mem_nil, or_false, not_or] at known
    obtain ⟨noA, noX, noY⟩ := known
    simp [bridgeExpansion, noA, noX, noY, spread, targets, bridge, build, bridgeLinks, Ne.symm noA, Ne.symm noX, Ne.symm noY]

theorem bridge_in_order : (∀ link cycle, ¬ bridge.Cycle link cycle) ∧
    (bridge.resolve "A" (bridge.memoryAfter [.one "Y", .all])).1 = ["B", "C"] := by
  have ordered := (order_without_cycles bridgeLinks ["A", "X", "Y", "B", "C"] ["X", "Y"] bridge_acyclic).2
  exact ⟨bridge_acyclic, ordered bridgeExpansion bridge_expands [.one "Y", .all] "A"⟩

-- The link to the nameless entity is none, although the entity is there and nothing is bypassed.
theorem nameless_end_left_out : ¬ ∀ (links : List (String × String)) (entities bypassed : List String),
    let whole : Network := ⟨entities, bypassed, links⟩
    let net := build links entities bypassed
    (∀ link cycle, ¬ whole.Cycle link cycle) → ∀ expand, whole.Expands expand → ∀ history id,
      (net.resolve id (net.memoryAfter history)).1 = (expand id).eraseDups := by
  intro all
  have acyclic : ∀ link cycle, ¬ (⟨["a", ""], [], [("a", "")]⟩ : Network).Cycle link cycle := by
    intro link cycle closed
    have bypassed := (closed.bypassed link.2 (List.mem_of_mem_head? closed.first)).2
    simp [isBypassed] at bypassed
  have expands : (⟨["a", ""], [], [("a", "")]⟩ : Network).Expands fun id => if id = "a" then [""] else [] := by
    intro id
    by_cases own : id = "a"
    · subst own
      decide
    · simp [own, Ne.symm own, spread, targets]
  have listed := all [("a", "")] ["a", ""] [] acyclic _ expands [] "a"
  have direct := congrArg Prod.fst (resolve_direct (build [("a", "")] ["a", ""] []) rfl "a" {} rfl)
  have none : (build [("a", "")] ["a", ""] []).direct "a" = [] := by decide
  have same : ([] : List String) = [""] := none.symm.trans (direct.symm.trans listed)
  cases same

end Network

end TaggedStory
