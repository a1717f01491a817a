import Mathlib.Data.List.Chain
import TaggedStory.Link.Resolver
/-!
The successors that a resolver finds are the ids that links reach through bypassed entities, each once,
whatever was resolved before.
-/
set_option autoImplicit false

namespace TaggedStory

namespace Network

-- The rest of a path, from the end of a link on: past bypassed entities none of which is blocked, up to
-- the first entity that is kept. `Reaches` is a link followed by such a path with nothing blocked.
inductive Leads (net : Network) (blocked : List String) : String → String → Prop where
  | kept {target : String} (present : net.isEntity target = true) (kept : net.isBypassed target = false) :
      Leads net blocked target target
  | through {middle next target : String} (present : net.isEntity middle = true)
      (skipped : net.isBypassed middle = true) (free : middle ∉ blocked) (linked : next ∈ net.targets middle)
      (onward : Leads net blocked next target) : Leads net blocked middle target

theorem leads_reaches (net : Network) (blocked : List String) (next target : String)
    (path : net.Leads blocked next target) (id : String) (linked : next ∈ net.targets id) : net.Reaches id target := by
  induction path generalizing id with
  | kept present kept => exact .link linked present kept
  | through present skipped _ inner _ ih => exact .through linked present skipped (ih _ inner)

theorem reaches_iff_leads (net : Network) (id target : String) :
    net.Reaches id target ↔ ∃ next ∈ net.targets id, net.Leads [] next target := by
  constructor
  · intro path
    induction path with
    | link linked present kept => exact ⟨_, linked, .kept present kept⟩
    | through linked present skipped _ ih =>
        obtain ⟨next, inner, onward⟩ := ih
        exact ⟨_, linked, .through present skipped List.not_mem_nil inner onward⟩
  · rintro ⟨next, linked, path⟩
    exact leads_reaches net [] next target path id linked

theorem leads_fewer_blocked (net : Network) (few many : List String) (fewer : few ⊆ many) (next target : String)
    (path : net.Leads many next target) : net.Leads few next target := by
  induction path with
  | kept present kept => exact .kept present kept
  | through present skipped free linked _ ih =>
      exact .through present skipped (fun blocked => free (fewer blocked)) linked ih

-- A path that comes back to an id can start there for good, so that it need not pass the id at all.
theorem leads_without_return (net : Network) (few many : List String) (id : String)
    (only : ∀ other ∈ many, other ∈ few ∨ other = id) (next target : String) (path : net.Leads few next target) :
    net.Leads many next target ∨ ∃ first ∈ net.targets id, net.Leads many first target := by
  induction path with
  | kept present kept => exact .inl (.kept present kept)
  | @through middle next target present skipped free linked _ ih =>
      rcases ih with onward | restart
      · by_cases back : middle = id
        · exact .inr ⟨next, back ▸ linked, onward⟩
        · refine .inl (.through present skipped ?_ linked onward)
          intro blocked
          exact (only middle blocked).elim free back
      · exact .inr restart

theorem walk_all_absent (net : Network) (id target : String) (chain rest : List String) (state : Walk)
    (absent : net.isEntity target = false) :
    net.walkAll id chain (target :: rest) state = net.walkAll id chain rest state := by
  rw [walkAll]
  simp [absent]

theorem walk_all_cut (net : Network) (id target : String) (chain rest : List String) (state : Walk)
    (present : net.isEntity target = true) (skipped : net.isBypassed target = true)
    (back : chain.contains target = true) :
    net.walkAll id chain (target :: rest) state =
      net.walkAll id chain rest
        { state with openCuts := addNew state.openCuts target, memory := state.memory.cut (id, target) } := by
  rw [walkAll]
  simp only [present, skipped, back, Bool.not_true, Bool.false_eq_true, if_false, dif_pos]

theorem walk_all_onward (net : Network) (id target : String) (chain rest : List String) (state : Walk)
    (present : net.isEntity target = true) (skipped : net.isBypassed target = true)
    (fresh : ¬ chain.contains target = true) :
    net.walkAll id chain (target :: rest) state =
      net.walkAll id chain rest
        ⟨(net.walk target chain state.memory).found.foldl addNew state.found,
          (net.walk target chain state.memory).openCuts.foldl addNew state.openCuts,
          (net.walk target chain state.memory).memory⟩ := by
  rw [walkAll]
  simp only [present, skipped, Bool.not_true, Bool.false_eq_true, if_false, dif_pos, dif_neg fresh]

theorem walk_all_kept (net : Network) (id target : String) (chain rest : List String) (state : Walk)
    (present : net.isEntity target = true) (kept : ¬ net.isBypassed target = true) :
    net.walkAll id chain (target :: rest) state =
      net.walkAll id chain rest { state with found := addNew state.found target } := by
  rw [walkAll]
  simp only [present, kept, Bool.not_true, Bool.false_eq_true, if_false, dif_neg, not_false_eq_true]

-- The ways in which a walk goes on: what each of them keeps holds of every walk.
theorem walk_induct (net : Network) (one : String → List String → Memory → Walk → Prop)
    (every : String → List String → List String → Walk → Walk → Prop)
    (known : ∀ id chain memory found, memory.find? id = some found → one id chain memory ⟨found, [], memory⟩)
    (closed : ∀ id chain memory result, memory.find? id = none →
      every id (id :: chain) (net.targets id) ⟨[], [], memory⟩ result → result.openCuts.filter (· ≠ id) = [] →
        one id chain memory ⟨result.found, [], result.memory.learn id result.found⟩)
    (unclosed : ∀ id chain memory result, memory.find? id = none →
      every id (id :: chain) (net.targets id) ⟨[], [], memory⟩ result → result.openCuts.filter (· ≠ id) ≠ [] →
        one id chain memory { result with openCuts := result.openCuts.filter (· ≠ id) })
    (finished : ∀ id chain state, every id chain [] state state)
    (absent : ∀ id chain target rest state, net.isEntity target = false →
      every id chain rest state (net.walkAll id chain rest state) →
        every id chain (target :: rest) state (net.walkAll id chain rest state))
    (cut : ∀ id chain target rest state next, net.isEntity target = true → net.isBypassed target = true → target ∈ chain →
      next = { state with openCuts := addNew state.openCuts target, memory := state.memory.cut (id, target) } →
      every id chain rest next (net.walkAll id chain rest next) →
        every id chain (target :: rest) state (net.walkAll id chain rest next))
    (onward : ∀ id chain target rest state inner next, net.isEntity target = true → net.isBypassed target = true →
      target ∉ chain → inner = net.walk target chain state.memory → one target chain state.memory inner →
      next = ⟨inner.found.foldl addNew state.found, inner.openCuts.foldl addNew state.openCuts, inner.memory⟩ →
      every id chain rest next (net.walkAll id chain rest next) →
        every id chain (target :: rest) state (net.walkAll id chain rest next))
    (kept : ∀ id chain target rest state next, net.isEntity target = true → net.isBypassed target = false →
      next = { state with found := addNew state.found target } →
      every id chain rest next (net.walkAll id chain rest next) →
        every id chain (target :: rest) state (net.walkAll id chain rest next)) :
    (∀ id chain memory, one id chain memory (net.walk id chain memory)) ∧
    (∀ id chain targets state, every id chain targets state (net.walkAll id chain targets state)) := by
  apply walk.mutual_induct net (fun id chain memory => one id chain memory (net.walk id chain memory))
    (fun id chain targets state => every id chain targets state (net.walkAll id chain targets state))
  case case1 =>
    intro id chain memory found present
    rw [walk, present]
    exact known id chain memory found present
  case case2 =>
    intro id chain memory unknown result openCuts complete ih
    have none := List.isEmpty_iff.mp complete
    rw [walk, unknown]
    simp only [complete, result, openCuts, if_true]
    rw [show (net.walkAll id (id :: chain) (net.targets id) ⟨[], [], memory⟩).openCuts.filter (· ≠ id) = [] from none]
    exact closed id chain memory _ unknown ih none
  case case3 =>
    intro id chain memory unknown result openCuts incomplete ih
    rw [walk, unknown]
    simp only [result, openCuts, incomplete]
    exact unclosed id chain memory _ unknown ih fun none => incomplete (List.isEmpty_iff.mpr none)
  case case4 =>
    intro id chain state
    rw [walkAll]
    exact finished id chain state
  case case5 =>
    intro id chain state target rest outside ih
    have outside : net.isEntity target = false := by simpa using outside
    rw [walk_all_absent net id target chain rest state outside]
    exact absent id chain target rest state outside ih
  case case6 =>
    intro id chain state target rest inside skipped back ih
    have inside : net.isEntity target = true := by simpa using inside
    rw [walk_all_cut net id target chain rest state inside skipped back]
    exact cut id chain target rest state _ inside skipped (List.contains_iff_mem.mp back) rfl ih
  case case7 =>
    intro id chain state target rest inside skipped fresh inner innerIh ih
    have inside : net.isEntity target = true := by simpa using inside
    rw [walk_all_onward net id target chain rest state inside skipped fresh]
    exact onward id chain target rest state _ _ inside skipped (by simpa using fresh) rfl innerIh rfl ih
  case case8 =>
    intro id chain state target rest inside unskipped ih
    have inside : net.isEntity target = true := by simpa using inside
    rw [walk_all_kept net id target chain rest state inside unskipped]
    exact kept id chain target rest state _ inside (by simpa using unskipped) rfl ih

-- Each target is looked up on its own, so only which ids are bypassed counts, not how they are listed.
theorem walk_same (net other : Network) (entities : net.entities = other.entities) (links : net.links = other.links)
    (bypassed : ∀ id, net.isBypassed id = other.isBypassed id) :
    (∀ id chain memory, net.walk id chain memory = other.walk id chain memory) ∧
    (∀ id chain targets state, net.walkAll id chain targets state = other.walkAll id chain targets state) := by
  have isEntity : ∀ id, net.isEntity id = other.isEntity id := fun id => by rw [isEntity, isEntity, entities]
  have targets : ∀ id, net.targets id = other.targets id := fun id => by rw [targets, targets, links]
  apply walk_induct net (fun id chain memory result => result = other.walk id chain memory)
    (fun id chain targets state result => result = other.walkAll id chain targets state)
  case known =>
    intro id chain memory found present
    rw [walk, present]
  case closed =>
    intro id chain memory result unknown same none
    rw [targets] at same
    rw [walk, unknown]
    simp only [← same, none, List.isEmpty_nil, if_true]
  case unclosed =>
    intro id chain memory result unknown same some_
    rw [targets] at same
    rw [walk, unknown]
    simp only [← same, List.isEmpty_iff, some_, if_false]
  case finished =>
    intro id chain state
    rw [walkAll]
  case absent =>
    intro id chain target rest state outside same
    rw [walk_all_absent other id target chain rest state (isEntity target ▸ outside), same]
  case cut =>
    rintro id chain target rest state _ inside skipped back rfl same
    rw [walk_all_cut other id target chain rest state (isEntity target ▸ inside) (bypassed target ▸ skipped)
      (List.contains_iff_mem.mpr back), same]
  case onward =>
    rintro id chain target rest state inner _ inside skipped fresh - own rfl same
    rw [walk_all_onward other id target chain rest state (isEntity target ▸ inside) (bypassed target ▸ skipped)
      (by simpa using fresh), same, own]
  case kept =>
    rintro id chain target rest state _ inside unskipped rfl same
    rw [walk_all_kept other id target chain rest state (isEntity target ▸ inside) (by simp [← bypassed, unskipped]), same]

theorem resolve_all_same (net other : Network) (entities : net.entities = other.entities) (links : net.links = other.links)
    (bypassed : ∀ id, net.isBypassed id = other.isBypassed id) (memory : Memory) : net.resolveAll memory = other.resolveAll memory := by
  have each : ∀ ids memory, net.resolveEach memory ids = other.resolveEach memory ids := by
    intro ids
    induction ids with
    | nil => exact fun _ => rfl
    | cons id rest ih =>
        intro memory
        simp only [resolveEach, resolve, (walk_same net other entities links bypassed).1, ih]
  rw [resolveAll, resolveAll, entities, each]

end Network

theorem mem_add_new (items : List String) (item other : String) :
    other ∈ addNew items item ↔ other ∈ items ∨ other = item := by
  by_cases present : items.contains item = true
  · rw [addNew, if_pos present]
    refine ⟨.inl, ?_⟩
    rintro (old | rfl)
    · exact old
    · exact List.contains_iff_mem.mp present
  · rw [addNew, if_neg present]
    simp

theorem add_new_nodup (items : List String) (item : String) (unique : items.Nodup) : (addNew items item).Nodup := by
  by_cases present : items.contains item = true
  · rwa [addNew, if_pos present]
  · rw [addNew, if_neg present]
    rw [List.contains_iff_mem] at present
    exact List.nodup_append.mpr ⟨unique, by simp, by
      intro old member fresh single same
      rw [List.mem_singleton.mp single] at same
      exact present (same ▸ member)⟩

theorem mem_add_all (items more : List String) (other : String) :
    other ∈ more.foldl addNew items ↔ other ∈ items ∨ other ∈ more := by
  induction more generalizing items with
  | nil => simp
  | cons item rest ih => rw [List.foldl_cons, ih, mem_add_new, List.mem_cons, or_assoc]

theorem add_all_nodup (items more : List String) (unique : items.Nodup) : (more.foldl addNew items).Nodup := by
  induction more generalizing items with
  | nil => exact unique
  | cons item rest ih => exact ih _ (add_new_nodup items item unique)

namespace Memory

-- A remembered list is complete: it never shows that a link was cut while it was found.
def Exact (net : Network) (memory : Memory) : Prop :=
  ∀ id found, memory.find? id = some found →
    found.Nodup ∧ ∀ target, target ∈ found ↔ net.Reaches id target

theorem exact_empty (net : Network) : Exact net {} := by
  intro id found known
  simp [find?] at known

theorem cut_known (memory : Memory) (link : String × String) : (memory.cut link).known = memory.known := by
  unfold cut
  split <;> rfl

theorem exact_cut (net : Network) (memory : Memory) (link : String × String) (exact : Exact net memory) :
    Exact net (memory.cut link) := by
  intro id found known
  exact exact id found (by simpa only [find?, cut_known] using known)

theorem find_learn (memory : Memory) (id other : String) (found : List String) :
    (memory.learn id found).find? other = if id = other then some found else memory.find? other := by
  by_cases same : id = other <;> simp [find?, learn, same]

theorem exact_learn (net : Network) (memory : Memory) (id : String) (found : List String)
    (exact : Exact net memory) (unique : found.Nodup)
    (complete : ∀ target, target ∈ found ↔ net.Reaches id target) : Exact net (memory.learn id found) := by
  intro other answer known
  rw [find_learn] at known
  by_cases same : id = other
  · subst other
    rw [if_pos rfl, Option.some.injEq] at known
    subst answer
    exact ⟨unique, complete⟩
  · rw [if_neg same] at known
    exact exact other answer known

end Memory

namespace Network

-- What the links of one id have given, after those to the targets in `seen`. Completeness is relative to
-- the open cuts: only what lies behind one of them may be missing.
structure Gathered (net : Network) (id : String) (chain seen : List String) (state : Walk) : Prop where
  unique : state.found.Nodup
  sound : ∀ target ∈ state.found, net.Reaches id target
  complete : ∀ next ∈ seen, ∀ target, net.Leads state.openCuts next target → target ∈ state.found
  within : ∀ cut ∈ state.openCuts, cut ∈ chain
  exact : state.memory.Exact net

theorem gathered_start (net : Network) (id : String) (chain : List String) (memory : Memory)
    (exact : memory.Exact net) : net.Gathered id chain [] ⟨[], [], memory⟩ where
  unique := List.nodup_nil
  sound := by simp
  complete := by simp
  within := by simp
  exact := exact

theorem gathered_absent (net : Network) (id target : String) (chain seen : List String) (state : Walk)
    (gathered : net.Gathered id chain seen state) (absent : net.isEntity target = false) :
    net.Gathered id chain (seen ++ [target]) state := by
  refine { gathered with complete := ?_ }
  intro next member final path
  rw [List.mem_append, List.mem_singleton] at member
  rcases member with old | rfl
  · exact gathered.complete next old final path
  · cases path <;> simp_all

theorem gathered_cut (net : Network) (id target : String) (chain seen : List String) (state : Walk)
    (gathered : net.Gathered id chain seen state) (skipped : net.isBypassed target = true)
    (back : chain.contains target = true) :
    net.Gathered id chain (seen ++ [target])
      { state with openCuts := addNew state.openCuts target, memory := state.memory.cut (id, target) } where
  unique := gathered.unique
  sound := gathered.sound
  complete := by
    intro next member final path
    rw [List.mem_append, List.mem_singleton] at member
    rcases member with old | rfl
    · refine gathered.complete next old final (leads_fewer_blocked net _ _ ?_ next final path)
      intro cut open_
      exact (mem_add_new _ _ _).mpr (.inl open_)
    · cases path with
      | kept _ kept => simp [skipped] at kept
      | through _ _ free _ _ => exact absurd ((mem_add_new _ _ _).mpr (.inr rfl)) free
  within := by
    intro cut member
    rcases (mem_add_new _ _ _).mp member with old | rfl
    · exact gathered.within cut old
    · exact List.contains_iff_mem.mp back
  exact := Memory.exact_cut net _ _ gathered.exact

theorem gathered_onward (net : Network) (id target : String) (chain seen : List String) (state inner : Walk)
    (gathered : net.Gathered id chain seen state) (linked : target ∈ net.targets id)
    (present : net.isEntity target = true) (skipped : net.isBypassed target = true)
    (answered : net.Gathered target chain (net.targets target) inner) :
    net.Gathered id chain (seen ++ [target])
      ⟨inner.found.foldl addNew state.found, inner.openCuts.foldl addNew state.openCuts, inner.memory⟩ where
  unique := add_all_nodup _ _ gathered.unique
  sound := by
    intro final member
    rcases (mem_add_all _ _ _).mp member with old | fresh
    · exact gathered.sound final old
    · exact .through linked present skipped (answered.sound final fresh)
  complete := by
    intro next member final path
    rw [mem_add_all]
    rw [List.mem_append, List.mem_singleton] at member
    rcases member with old | rfl
    · refine .inl (gathered.complete next old final (leads_fewer_blocked net _ _ ?_ next final path))
      intro cut open_
      exact (mem_add_all _ _ _).mpr (.inl open_)
    · cases path with
      | kept _ kept => simp [skipped] at kept
      | @through _ next _ _ _ _ step onward =>
          refine .inr (answered.complete next step final (leads_fewer_blocked net _ _ ?_ next final onward))
          intro cut open_
          exact (mem_add_all _ _ _).mpr (.inr open_)
  within := by
    intro cut member
    exact ((mem_add_all _ _ _).mp member).elim (gathered.within cut) (answered.within cut)
  exact := answered.exact

theorem gathered_kept (net : Network) (id target : String) (chain seen : List String) (state : Walk)
    (gathered : net.Gathered id chain seen state) (linked : target ∈ net.targets id)
    (present : net.isEntity target = true) (kept : net.isBypassed target = false) :
    net.Gathered id chain (seen ++ [target]) { state with found := addNew state.found target } where
  unique := add_new_nodup _ _ gathered.unique
  sound := by
    intro final member
    rcases (mem_add_new _ _ _).mp member with old | rfl
    · exact gathered.sound final old
    · exact .link linked present kept
  complete := by
    intro next member final path
    rw [mem_add_new]
    rw [List.mem_append, List.mem_singleton] at member
    rcases member with old | rfl
    · exact .inl (gathered.complete next old final path)
    · cases path with
      | kept _ _ => exact .inr rfl
      | through _ skipped _ _ _ => simp [skipped] at kept
  within := gathered.within
  exact := gathered.exact

theorem gathered_known (net : Network) (id : String) (chain found : List String) (memory : Memory)
    (exact : memory.Exact net) (known : memory.find? id = some found) :
    net.Gathered id chain (net.targets id) ⟨found, [], memory⟩ where
  unique := (exact id found known).1
  sound := fun target member => ((exact id found known).2 target).mp member
  complete := by
    intro next linked target path
    exact ((exact id found known).2 target).mpr ((reaches_iff_leads net id target).mpr ⟨next, linked, path⟩)
  within := by simp
  exact := exact

theorem gathered_closed (net : Network) (id : String) (chain : List String) (state : Walk)
    (gathered : net.Gathered id (id :: chain) (net.targets id) state) :
    net.Gathered id chain (net.targets id) { state with openCuts := state.openCuts.filter (· ≠ id) } where
  unique := gathered.unique
  sound := gathered.sound
  complete := by
    intro next linked target path
    have only : ∀ cut ∈ state.openCuts, cut ∈ state.openCuts.filter (· ≠ id) ∨ cut = id := by
      intro cut member
      by_cases own : cut = id
      · exact .inr own
      · exact .inl (List.mem_filter.mpr ⟨member, by simpa using own⟩)
    rcases leads_without_return net _ state.openCuts id only next target path with direct | ⟨first, step, restart⟩
    · exact gathered.complete next linked target direct
    · exact gathered.complete first step target restart
  within := by
    intro cut member
    obtain ⟨member, other⟩ := List.mem_filter.mp member
    exact (List.mem_cons.mp (gathered.within cut member)).resolve_left (by simpa using other)
  exact := gathered.exact

theorem gathered_finished (net : Network) (id : String) (chain : List String) (state : Walk)
    (gathered : net.Gathered id chain (net.targets id) state) (closed : state.openCuts = []) (target : String) :
    target ∈ state.found ↔ net.Reaches id target := by
  refine ⟨gathered.sound target, ?_⟩
  intro path
  obtain ⟨next, linked, onward⟩ := (reaches_iff_leads net id target).mp path
  exact gathered.complete next linked target (closed ▸ onward)

theorem walk_gathers (net : Network) :
    (∀ id chain memory, memory.Exact net →
      net.Gathered id chain (net.targets id) (net.walk id chain memory)) ∧
    (∀ id chain targets state, ∀ seen, targets ⊆ net.targets id → net.Gathered id chain seen state →
      net.Gathered id chain (seen ++ targets) (net.walkAll id chain targets state)) := by
  apply walk_induct net
    (fun id chain memory result => memory.Exact net → net.Gathered id chain (net.targets id) result)
    (fun id chain targets state result => ∀ seen, targets ⊆ net.targets id → net.Gathered id chain seen state →
      net.Gathered id chain (seen ++ targets) result)
  case known =>
    intro id chain memory found present exact
    exact gathered_known net id chain found memory exact present
  case closed =>
    intro id chain memory result unknown ih none exact
    have closing := gathered_closed net id chain _
      (ih [] (List.Subset.refl _) (gathered_start net id (id :: chain) memory exact))
    have finished := gathered_finished net id chain _ closing none
    rw [none] at closing
    exact { closing with exact := Memory.exact_learn net _ id _ closing.exact closing.unique finished }
  case unclosed =>
    intro id chain memory result unknown ih _ exact
    exact gathered_closed net id chain _
      (ih [] (List.Subset.refl _) (gathered_start net id (id :: chain) memory exact))
  case finished =>
    intro id chain state seen _ gathered
    rwa [List.append_nil]
  case absent =>
    intro id chain target rest state outside ih seen linked gathered
    rw [List.append_cons]
    exact ih _ (List.subset_of_cons_subset linked) (gathered_absent net id target chain seen state gathered outside)
  case cut =>
    rintro id chain target rest state _ inside skipped back rfl ih seen linked gathered
    rw [List.append_cons]
    exact ih _ (List.subset_of_cons_subset linked)
      (gathered_cut net id target chain seen state gathered skipped (List.contains_iff_mem.mpr back))
  case onward =>
    rintro id chain target rest state inner _ inside skipped fresh - answered rfl ih seen linked gathered
    rw [List.append_cons]
    exact ih _ (List.subset_of_cons_subset linked)
      (gathered_onward net id target chain seen state inner gathered (linked List.mem_cons_self) inside skipped
        (answered gathered.exact))
  case kept =>
    rintro id chain target rest state _ inside unskipped rfl ih seen linked gathered
    rw [List.append_cons]
    exact ih _ (List.subset_of_cons_subset linked)
      (gathered_kept net id target chain seen state gathered (linked List.mem_cons_self) inside unskipped)

theorem walk_closed (net : Network) (id : String) (memory : Memory) (exact : memory.Exact net) :
    (net.walk id [] memory).openCuts = [] :=
  List.eq_nil_iff_forall_not_mem.mpr fun cut open_ => by
    simpa using ((walk_gathers net).1 id [] memory exact).within cut open_

theorem resolve_exact (net : Network) (id : String) (memory : Memory) (exact : memory.Exact net) :
    (net.resolve id memory).1.Nodup ∧ (∀ target, target ∈ (net.resolve id memory).1 ↔ net.Reaches id target) ∧
      (net.resolve id memory).2.Exact net := by
  have gathered := (walk_gathers net).1 id [] memory exact
  exact ⟨gathered.unique, gathered_finished net id [] _ gathered (walk_closed net id memory exact), gathered.exact⟩

theorem resolve_each_exact (net : Network) (ids : List String) (memory : Memory) (exact : memory.Exact net) :
    (net.resolveEach memory ids).2.Exact net := by
  induction ids generalizing memory with
  | nil => exact exact
  | cons id rest ih => exact ih _ (resolve_exact net id memory exact).2.2

-- What a caller can ask of a resolver, and what a history of such questions leaves in its memory.
inductive Question where
  | one (id : String)
  | all

def remember (net : Network) (memory : Memory) : Question → Memory
  | .one id => (net.resolve id memory).2
  | .all => (net.resolveAll memory).2

def memoryAfter (net : Network) (history : List Question) : Memory :=
  history.foldl net.remember {}

theorem remember_exact (net : Network) (memory : Memory) (question : Question) (exact : memory.Exact net) :
    (net.remember memory question).Exact net := by
  cases question with
  | one id => exact (resolve_exact net id memory exact).2.2
  | all => exact resolve_each_exact net net.entities memory exact

theorem memory_after_exact (net : Network) (history : List Question) : (net.memoryAfter history).Exact net := by
  have run : ∀ memory : Memory, memory.Exact net → (history.foldl net.remember memory).Exact net := by
    induction history with
    | nil => exact fun memory exact => exact
    | cons question rest ih => exact fun memory exact => ih _ (remember_exact net memory question exact)
  exact run {} (Memory.exact_empty net)

theorem mem_targets_build (links : List (String × String)) (entities bypassed : List String) (id target : String) :
    target ∈ (build links entities bypassed).targets id ↔ (id, target) ∈ links ∧ id ≠ "" ∧ target ≠ "" := by
  simp only [targets, build, List.mem_map, List.mem_filter, Bool.and_eq_true, decide_eq_true_eq, Prod.exists]
  constructor
  · rintro ⟨source, other, ⟨⟨member, named⟩, rfl⟩, rfl⟩
    exact ⟨member, named⟩
  · rintro ⟨member, named⟩
    exact ⟨id, target, ⟨⟨member, named⟩, rfl⟩, rfl⟩

theorem is_entity_build (links : List (String × String)) (entities bypassed : List String) (id : String) :
    (build links entities bypassed).isEntity id = true ↔ id ∈ entities := by
  simp [isEntity, build]

theorem is_bypassed_build (links : List (String × String)) (entities bypassed : List String) (id : String) :
    (build links entities bypassed).isBypassed id = true ↔ id ∈ bypassed := by
  simp [isBypassed, build]

-- A link that counts: both of its ends have a name.
def Joined (links : List (String × String)) (source target : String) : Prop :=
  (source, target) ∈ links ∧ source ≠ "" ∧ target ≠ ""

theorem reaches_build (links : List (String × String)) (entities bypassed : List String) (id target : String) :
    (build links entities bypassed).Reaches id target ↔
      target ∈ entities ∧ target ∉ bypassed ∧ ∃ inner : List String,
        (∀ middle ∈ inner, middle ∈ entities ∧ middle ∈ bypassed) ∧
          List.IsChain (Joined links) (id :: inner ++ [target]) := by
  constructor
  · intro path
    induction path with
    | @link id target linked present kept =>
        refine ⟨(is_entity_build ..).mp present, ?_, [], by simp, ?_⟩
        · intro member
          simp [(is_bypassed_build links entities bypassed target).mpr member] at kept
        · simpa [Joined] using (mem_targets_build ..).mp linked
    | @through id middle target linked present skipped _ ih =>
        obtain ⟨entity, kept, inner, within, chain⟩ := ih
        refine ⟨entity, kept, middle :: inner, ?_, ?_⟩
        · simpa using ⟨⟨(is_entity_build ..).mp present, (is_bypassed_build ..).mp skipped⟩, within⟩
        · exact .cons_cons ((mem_targets_build ..).mp linked) chain
  · rintro ⟨entity, kept, inner, within, chain⟩
    induction inner generalizing id with
    | nil =>
        have linked : Joined links id target := by simpa using chain
        refine .link ((mem_targets_build ..).mpr linked) ((is_entity_build ..).mpr entity) ?_
        simpa [isBypassed, build] using kept
    | cons middle rest ih =>
        obtain ⟨linked, chain⟩ := List.isChain_cons_cons.mp chain
        obtain ⟨present, skipped⟩ := within middle List.mem_cons_self
        exact .through ((mem_targets_build ..).mpr linked) ((is_entity_build ..).mpr present)
          ((is_bypassed_build ..).mpr skipped)
          (ih middle (fun other member => within other (List.mem_cons_of_mem _ member)) chain)

theorem resolve_after_any_history (links : List (String × String)) (entities bypassed : List String)
    (history : List Question) (id : String) :
    let net := build links entities bypassed
    let found := (net.resolve id (net.memoryAfter history)).1
    found.Nodup ∧ ∀ target, target ∈ found ↔
      target ∈ entities ∧ target ∉ bypassed ∧ ∃ inner : List String,
        (∀ middle ∈ inner, middle ∈ entities ∧ middle ∈ bypassed) ∧
          List.IsChain (Joined links) (id :: inner ++ [target]) := by
  intro net found
  obtain ⟨unique, exact, _⟩ := resolve_exact net id _ (memory_after_exact net history)
  exact ⟨unique, fun target => (exact target).trans (reaches_build links entities bypassed id target)⟩

end Network

end TaggedStory
