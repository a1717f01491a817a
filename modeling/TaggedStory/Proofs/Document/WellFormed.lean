import TaggedStory.Document.Interchange.Import
import TaggedStory.Proofs.Document.Entities
import TaggedStory.Proofs.Link.Resolution
import TaggedStory.Proofs.Node.Heading
import TaggedStory.Proofs.Story.Flaws
/-!
Imported graphs are well formed: the passes over a document agree on one set of ids.
-/
set_option autoImplicit false

namespace TaggedStory

-- A graph over the entities with the given ids. The skipped entities and the nodes share them out.
structure Graph.WellFormed (entities : List String) (graph : Graph) : Prop where
  kept : graph.ids = entities.filter fun id => !graph.diagnostics.skipped.contains id
  shared : (graph.diagnostics.skipped ++ graph.ids).Perm entities
  named : "" ∉ graph.ids
  distinct : graph.ids.Nodup
  links : ∀ node ∈ graph.nodes, node.next.Nodup ∧ ∀ target ∈ node.next, target ∈ graph.ids
  start : ∀ id, graph.start = some id → id ∈ graph.ids
  autoPlay : ∀ node ∈ graph.nodes, ∀ video, node.body = .video video →
    (video.autoPlayNext = true ↔ ∀ successor ∈ graph.nodes, successor.id ∈ node.next →
      ∀ choice, successor.body = .choice choice → choice.offer.preDisplay = true)

-- A flaw that shows that the ids of a graph do not fit together.
def Flaw.IsLoose : Flaw → Prop
  | .missingId | .duplicateId _ | .missingTarget _ _ | .unknownStart _ => True
  | .noStart | .unknownJumpPoint _ _ | .unusedJumpPoint _ | .deadEnd _ => False

namespace Graph

theorem well_formed_not_loose (entities : List String) (graph : Graph) (formed : graph.WellFormed entities)
    (options : ValidationOptions) (flaw : Flaw) (member : flaw ∈ graph.flaws options) : ¬ flaw.IsLoose := by
  have shown := (graph.mem_flaws options flaw).mp member
  cases flaw with
  | missingId => exact absurd shown formed.named
  | duplicateId id => exact absurd formed.distinct shown.2.not_nodup
  | missingTarget id target =>
      obtain ⟨node, inside, linked, missing, _⟩ := shown
      exact absurd ((formed.links node inside).2 target linked) missing
  | unknownStart id =>
      obtain ⟨_, named, unknown, _⟩ := shown
      cases begins : graph.start with
      | none => exact absurd (by rw [startName, begins]; rfl) named
      | some start =>
          have known := formed.start start begins
          rw [startName, begins] at unknown
          exact absurd known unknown
  | noStart | unknownJumpPoint _ _ | unusedJumpPoint _ | deadEnd _ => exact fun loose => loose

-- What settling leaves of a node: its id, its successors and whether it is a choice that waits.
theorem settle_video_heading (nodes : List Node) (node : Node) : (settleVideo nodes node).header = node.header := by
  unfold settleVideo
  split <;> rfl

theorem settle_video_late (nodes : List Node) (node : Node) : isLateChoice (settleVideo nodes node) = isLateChoice node := by
  unfold settleVideo
  split
  · rename_i video body
    simp [isLateChoice, body]
  · rfl

theorem named_of_distinct (nodes : List Node) (distinct : (nodes.map Node.id).Nodup) (node : Node)
    (member : node ∈ nodes) : named? nodes node.id = some node := by
  have unique : ∀ other ∈ nodes, other.id = node.id → other = node := fun other present same =>
    List.inj_on_of_nodup_map distinct present member same
  cases found : named? nodes node.id with
  | none =>
      have missing := List.find?_eq_none.mp found node (List.mem_reverse.mpr member)
      simp at missing
  | some other =>
      have same := List.find?_some found
      rw [unique other (List.mem_reverse.mp (List.mem_of_find?_eq_some found)) (by simpa using same)]

theorem waits_iff (nodes : List Node) (distinct : (nodes.map Node.id).Nodup) (node : Node) :
    waits nodes node = true ↔ ∃ successor ∈ nodes, successor.id ∈ node.next ∧ isLateChoice successor = true := by
  simp only [waits, List.any_eq_true]
  constructor
  · rintro ⟨id, linked, late⟩
    cases found : named? nodes id with
    | none => simp [found] at late
    | some successor =>
        have same : successor.id = id := by simpa using List.find?_some found
        refine ⟨successor, List.mem_reverse.mp (List.mem_of_find?_eq_some found), same ▸ linked, ?_⟩
        simpa [found] using late
  · rintro ⟨successor, member, linked, late⟩
    exact ⟨successor.id, linked, by simp [named_of_distinct nodes distinct successor member, late]⟩

theorem late_choice_iff (node : Node) :
    isLateChoice node = true ↔ ∃ choice, node.body = .choice choice ∧ choice.offer.preDisplay = false := by
  unfold isLateChoice
  split
  · rename_i choice body
    simp [body]
  · rename_i other
    constructor
    · simp
    · rintro ⟨choice, body, _⟩
      exact absurd body (other choice)

theorem settled_auto_play (nodes : List Node) (distinct : (nodes.map Node.id).Nodup) (node : Node)
    (member : node ∈ nodes.map (settleVideo nodes)) (video : Video) (body : node.body = .video video) :
    video.autoPlayNext = true ↔ ∀ successor ∈ nodes.map (settleVideo nodes), successor.id ∈ node.next →
      ∀ choice, successor.body = .choice choice → choice.offer.preDisplay = true := by
  obtain ⟨original, _, rfl⟩ := List.mem_map.mp member
  have next : (settleVideo nodes original).next = original.next := by
    rw [Node.next, settle_video_heading, Node.next]
  have settled : video.autoPlayNext = !waits nodes original := by
    unfold settleVideo at body
    split at body
    · cases body
      rfl
    · rename_i other
      exact absurd body (other video)
  rw [settled, Bool.not_eq_true', ← Bool.not_eq_true, waits_iff nodes distinct, next]
  constructor
  · intro none successor present linked choice choiceBody
    obtain ⟨before, old, rfl⟩ := List.mem_map.mp present
    by_contra late
    have isLate := (late_choice_iff _).mpr ⟨choice, choiceBody, by simpa using late⟩
    rw [settle_video_late] at isLate
    rw [Node.id, settle_video_heading] at linked
    exact none ⟨before, old, linked, isLate⟩
  · rintro early ⟨successor, present, linked, late⟩
    rw [← settle_video_late nodes] at late
    obtain ⟨choice, choiceBody, waiting⟩ := (late_choice_iff _).mp late
    have shown := early _ (List.mem_map_of_mem present) (by rwa [Node.id, settle_video_heading]) choice choiceBody
    simp [waiting] at shown

end Graph

end TaggedStory
