import Mathlib.Data.List.Duplicate
import TaggedStory.Story.Validation
/-!
Validation is exact: a flaw is reported where it is there and nowhere else, so that nothing is reported of the graphs
without flaws and of no others.
-/
set_option autoImplicit false

namespace TaggedStory

def Video.Ends (video : Video) : Prop :=
  video.isEndpoint = true ∨ video.isDeadpoint = true ∨ video.isReset = true

namespace Graph

def Declares (graph : Graph) (point : String) : Prop :=
  ∃ node ∈ graph.nodes, ∃ video, node.body = .video video ∧ video.isJumpPoint = true ∧ video.jumpPointId = point ∧ point ≠ ""

def JumpsTo (graph : Graph) (point : String) : Prop :=
  ∃ node ∈ graph.nodes, ∃ jump, node.body = .jump jump ∧ jump.point = point

-- What a flaw says of a graph. The last two are reported on demand only.
def Shows (graph : Graph) (options : ValidationOptions) : Flaw → Prop
  | .missingId => "" ∈ graph.ids
  | .duplicateId id => id ≠ "" ∧ List.Duplicate id graph.ids
  | .missingTarget id target => ∃ node ∈ graph.nodes, target ∈ node.next ∧ target ∉ graph.ids ∧ node.id = id
  | .noStart => graph.nodes ≠ [] ∧ graph.startName = ""
  | .unknownStart id => graph.nodes ≠ [] ∧ graph.startName ≠ "" ∧ graph.startName ∉ graph.ids ∧ graph.startName = id
  | .unknownJumpPoint id point =>
    ∃ node ∈ graph.nodes, ∃ jump, node.body = .jump jump ∧ ¬graph.Declares jump.point ∧ node.id = id ∧ jump.point = point
  | .unusedJumpPoint point => options.unusedJumpPoints = true ∧ graph.Declares point ∧ ¬graph.JumpsTo point
  | .deadEnd id => options.deadEnds = true ∧
    ∃ node ∈ graph.nodes, node.next = [] ∧ (∃ video, node.body = .video video ∧ ¬video.Ends) ∧ node.id = id

section Parts

variable (graph : Graph) (flaw : Flaw)

theorem missing_id_found (nodes : List Node) (seen : List String) :
    .missingId ∈ idFlaws seen nodes ↔ "" ∈ nodes.map Node.id := by
  induction nodes generalizing seen with
  | nil => simp [idFlaws]
  | cons node rest ih =>
      rw [idFlaws, List.mem_append, ih, List.map_cons, List.mem_cons]
      refine or_congr_left ?_
      split
      case isTrue unnamed => simp [unnamed]
      case isFalse named =>
        split
        all_goals simp [Ne.symm named]

-- An id that was seen before is used twice where it comes up once more.
theorem duplicate_id_found (nodes : List Node) (seen : List String) (id : String) :
    .duplicateId id ∈ idFlaws seen nodes ↔
      id ≠ "" ∧ (List.Duplicate id (nodes.map Node.id) ∨ id ∈ seen ∧ id ∈ nodes.map Node.id) := by
  induction nodes generalizing seen with
  | nil => simp [idFlaws]
  | cons node rest ih =>
      have first : .duplicateId id ∈ (if node.id = "" then [Flaw.missingId]
          else if seen.contains node.id then [.duplicateId node.id] else []) ↔ id ≠ "" ∧ id = node.id ∧ id ∈ seen := by
        split
        case isTrue unnamed => grind
        case isFalse named => split <;> grind
      rw [idFlaws, List.mem_append, first, ih, List.map_cons, List.duplicate_cons_iff, List.mem_cons, List.mem_cons]
      grind

theorem id_flaw_kinds (nodes : List Node) (seen : List String) (flaw : Flaw) (found : flaw ∈ idFlaws seen nodes) :
    flaw = .missingId ∨ ∃ id, flaw = .duplicateId id := by
  induction nodes generalizing seen with
  | nil => cases found
  | cons node rest ih =>
      rw [idFlaws, List.mem_append] at found
      rcases found with first | later
      · split at first
        · exact .inl (List.mem_singleton.mp first)
        · split at first
          · exact .inr ⟨_, List.mem_singleton.mp first⟩
          · cases first
      · exact ih _ later

theorem mem_id_flaws : flaw ∈ idFlaws [] graph.nodes ↔
    "" ∈ graph.ids ∧ .missingId = flaw ∨ ∃ id, (id ≠ "" ∧ List.Duplicate id graph.ids) ∧ .duplicateId id = flaw := by
  constructor
  · intro found
    rcases id_flaw_kinds _ _ flaw found with rfl | ⟨id, rfl⟩
    · exact .inl ⟨(missing_id_found _ _).mp found, rfl⟩
    · exact .inr ⟨id, by simpa [ids] using (duplicate_id_found _ _ id).mp found, rfl⟩
  · rintro (⟨unnamed, rfl⟩ | ⟨id, twice, rfl⟩)
    · exact (missing_id_found _ _).mpr unnamed
    · exact (duplicate_id_found _ _ id).mpr ⟨twice.1, .inl twice.2⟩

theorem mem_link_flaws : flaw ∈ graph.linkFlaws ↔
    ∃ node ∈ graph.nodes, ∃ target ∈ node.next, target ∉ graph.ids ∧ .missingTarget node.id target = flaw := by
  simp [linkFlaws, and_assoc]

theorem mem_start_flaws : flaw ∈ graph.startFlaws ↔ graph.nodes ≠ [] ∧
    (graph.startName = "" ∧ .noStart = flaw ∨
      graph.startName ≠ "" ∧ graph.startName ∉ graph.ids ∧ .unknownStart graph.startName = flaw) := by
  have single (one : Flaw) : flaw ∈ [one] ↔ one = flaw := by rw [List.mem_singleton, eq_comm]
  rw [startFlaws]
  by_cases empty : graph.nodes = []
  · simp [empty]
  by_cases unset : graph.startName = ""
  · simp [empty, unset, single]
  by_cases known : graph.startName ∈ graph.ids
  · simp [empty, unset, known]
  · simp [empty, unset, known, single]

theorem jump_point_of (node : Node) (point : String) : jumpPointOf? node = some point ↔
    ∃ video, node.body = .video video ∧ video.isJumpPoint = true ∧ video.jumpPointId = point ∧ point ≠ "" := by
  unfold jumpPointOf?
  split
  case h_1 video body =>
    simp only [body, Body.video.injEq, exists_eq_left', Bool.and_eq_true, decide_eq_true_eq]
    grind
  case h_2 other => simpa using fun video body => absurd body (other video)

theorem jump_target_of (node : Node) (point : String) : jumpTargetOf? node = some point ↔
    ∃ jump, node.body = .jump jump ∧ jump.point = point := by
  unfold jumpTargetOf?
  split
  case h_1 jump body => simp [body]
  case h_2 other => simpa using fun jump body => absurd body (other jump)

theorem mem_jump_points (point : String) : point ∈ graph.jumpPoints ↔ graph.Declares point := by
  simp only [jumpPoints, List.mem_eraseDups, List.mem_filterMap, jump_point_of, Declares]

theorem mem_jump_flaws : flaw ∈ graph.jumpFlaws ↔ ∃ node ∈ graph.nodes, ∃ jump, node.body = .jump jump ∧
    ¬graph.Declares jump.point ∧ .unknownJumpPoint node.id jump.point = flaw := by
  simp only [jumpFlaws, List.mem_filterMap, ← mem_jump_points]
  refine exists_congr fun node => and_congr_right fun _ => ?_
  cases target : jumpTargetOf? node with
  | none =>
    have none (jump : Jump) : node.body ≠ .jump jump := fun body => by simp [jumpTargetOf?, body] at target
    simp [none]
  | some point =>
    obtain ⟨jump, body, rfl⟩ := (jump_target_of node point).mp target
    simp [body]

theorem mem_unused_flaws : flaw ∈ graph.unusedFlaws ↔
    ∃ point, (graph.Declares point ∧ ¬graph.JumpsTo point) ∧ .unusedJumpPoint point = flaw := by
  have targets (point : String) : point ∈ graph.nodes.filterMap jumpTargetOf? ↔ graph.JumpsTo point := by
    simp only [List.mem_filterMap, jump_target_of, JumpsTo]
  simp only [unusedFlaws, sorted, List.mem_map, List.mem_mergeSort, List.mem_filter, mem_jump_points, Bool.not_eq_true',
    ← Bool.not_eq_true, List.contains_iff_mem, targets]

theorem dead_end_iff (node : Node) : isDeadEnd node = true ↔
    node.next = [] ∧ ∃ video, node.body = .video video ∧ ¬video.Ends := by
  unfold isDeadEnd
  split
  case h_1 video body => simp [body, Video.Ends, and_assoc]
  case h_2 other => simpa using fun _ video body => absurd body (other video)

theorem mem_dead_end_flaws : flaw ∈ graph.deadEndFlaws ↔ ∃ node ∈ graph.nodes,
    (node.next = [] ∧ ∃ video, node.body = .video video ∧ ¬video.Ends) ∧ .deadEnd node.id = flaw := by
  simp only [deadEndFlaws, List.mem_map, List.mem_filter, dead_end_iff, and_assoc]

end Parts

variable (graph : Graph) (options : ValidationOptions)

theorem mem_flaws (flaw : Flaw) : flaw ∈ graph.flaws options ↔ graph.Shows options flaw := by
  have unused : flaw ∈ (if options.unusedJumpPoints then graph.unusedFlaws else []) ↔
      options.unusedJumpPoints = true ∧ flaw ∈ graph.unusedFlaws := by
    cases options.unusedJumpPoints <;> simp
  have dead : flaw ∈ (if options.deadEnds then graph.deadEndFlaws else []) ↔
      options.deadEnds = true ∧ flaw ∈ graph.deadEndFlaws := by
    cases options.deadEnds <;> simp
  simp only [flaws, List.mem_append, unused, dead, mem_id_flaws, mem_link_flaws, mem_start_flaws, mem_jump_flaws,
    mem_unused_flaws, mem_dead_end_flaws]
  cases flaw <;> simp [Shows, and_assoc]

-- What a graph without flaws is like.
structure Flawless : Prop where
  named : ∀ node ∈ graph.nodes, node.id ≠ ""
  distinct : graph.ids.Nodup
  linked : ∀ node ∈ graph.nodes, ∀ target ∈ node.next, target ∈ graph.ids
  started : graph.nodes = [] ∨ ∃ id, graph.start = some id ∧ id ∈ graph.ids
  arrives : ∀ point, graph.JumpsTo point → graph.Declares point
  used : options.unusedJumpPoints = true → ∀ point, graph.Declares point → graph.JumpsTo point
  onward : options.deadEnds = true → ∀ node ∈ graph.nodes, ∀ video, node.body = .video video → node.next = [] → video.Ends

theorem started_iff (named : "" ∉ graph.ids) : (graph.nodes = [] ∨ ∃ id, graph.start = some id ∧ id ∈ graph.ids) ↔
    graph.nodes = [] ∨ graph.startName ∈ graph.ids := by
  refine or_congr_right ?_
  cases start : graph.start with
  | none => simp [startName, start, named]
  | some id => simp [startName, start]

theorem flawless_of_clear (clear : ∀ flaw, ¬graph.Shows options flaw) : graph.Flawless options := by
  have named : "" ∉ graph.ids := clear .missingId
  refine ⟨?named, ?distinct, ?linked, ?started, ?arrives, ?used, ?onward⟩
  case named => exact fun node member unnamed => named (unnamed ▸ List.mem_map_of_mem member)
  case distinct =>
    refine List.nodup_iff_forall_not_duplicate.mpr fun id twice => clear (.duplicateId id) ⟨?_, twice⟩
    exact fun unnamed => named (unnamed ▸ twice.mem)
  case linked =>
    intro node member target linked
    by_contra missing
    exact clear (.missingTarget node.id target) ⟨node, member, linked, missing, rfl⟩
  case started =>
    refine (started_iff graph named).mpr (Classical.or_iff_not_imp_left.mpr fun filled => ?_)
    by_contra unknown
    by_cases unset : graph.startName = ""
    · exact clear .noStart ⟨filled, unset⟩
    · exact clear (.unknownStart graph.startName) ⟨filled, unset, unknown, rfl⟩
  case arrives =>
    rintro point ⟨node, member, jump, body, rfl⟩
    by_contra undeclared
    exact clear (.unknownJumpPoint node.id jump.point) ⟨node, member, jump, body, undeclared, rfl, rfl⟩
  case used =>
    intro asked point declared
    by_contra unused
    exact clear (.unusedJumpPoint point) ⟨asked, declared, unused⟩
  case onward =>
    intro asked node member video body stuck
    by_contra lost
    exact clear (.deadEnd node.id) ⟨asked, node, member, stuck, ⟨video, body, lost⟩, rfl⟩

theorem clear_of_flawless (flawless : graph.Flawless options) (flaw : Flaw) : ¬graph.Shows options flaw := by
  have named : "" ∉ graph.ids := by
    rintro unnamed
    obtain ⟨node, member, empty⟩ := List.mem_map.mp unnamed
    exact flawless.named node member empty
  have started := (started_iff graph named).mp flawless.started
  intro shown
  cases flaw with
  | missingId => exact named shown
  | duplicateId id => exact shown.2.not_nodup flawless.distinct
  | missingTarget id target =>
      obtain ⟨node, member, linked, missing, _⟩ := shown
      exact missing (flawless.linked node member target linked)
  | noStart => exact named (shown.2 ▸ started.resolve_left shown.1)
  | unknownStart id => exact shown.2.2.1 (started.resolve_left shown.1)
  | unknownJumpPoint id point =>
      obtain ⟨node, member, jump, body, undeclared, _⟩ := shown
      exact undeclared (flawless.arrives jump.point ⟨node, member, jump, body, rfl⟩)
  | unusedJumpPoint point => exact shown.2.2 (flawless.used shown.1 point shown.2.1)
  | deadEnd id =>
      obtain ⟨asked, node, member, stuck, ⟨video, body, lost⟩, _⟩ := shown
      exact lost (flawless.onward asked node member video body stuck)

-- Validation has nothing to say of exactly the graphs without flaws.
theorem nothing_reported_iff : (graph.flaws options).map Flaw.message = [] ↔ graph.Flawless options := by
  rw [List.map_eq_nil_iff, List.eq_nil_iff_forall_not_mem]
  simp only [mem_flaws]
  exact ⟨flawless_of_clear graph options, clear_of_flawless graph options⟩

end Graph

end TaggedStory
