import TaggedStory.Proofs.Document.Topology
/-!
Whether the start of an imported graph is still the start after an export: it is for a video whose text alone
bears the mark, and for a node above all others where no text bears it. The texts of all other kinds say nothing
about the start.
-/
set_option autoImplicit false

namespace TaggedStory.Interchange

open Text Decimal

theorem start_silent (node : Node) (other : node.kind ≠ .video) (isStart : Bool) :
    writeEntity isStart node = writeEntity false node := by
  have same : node.text isStart = node.text false := by
    cases shape : node.body with
    | video body => exact absurd (by rw [Node.kind, shape]; rfl) other
    | _ =>
        rw [Node.text, Node.text, shape]
  rw [writeEntity, writeEntity, same]

-- A start of any other kind leaves no trace in the document.
theorem write_forgets_start (graph : Graph) (node : Node) (starts : graph.start = some node.id) (other : node.kind ≠ .video)
    (distinct : graph.ids.Nodup) (member : node ∈ graph.nodes) : write graph = write { graph with start := none } := by
  have each : ∀ nodes, (∀ item ∈ nodes, item ∈ graph.nodes) →
      writeEntities graph nodes = writeEntities { graph with start := none } nodes := by
    intro nodes known
    induction nodes with
    | nil => rfl
    | cons head rest ih =>
        have own : writeEntity (graph.isStart head) head = writeEntity false head := by
          by_cases same : node.id = head.id
          · have one : node = head := List.inj_on_of_nodup_map distinct member (known head List.mem_cons_self) same
            exact start_silent head (one ▸ other) _
          · rw [Graph.isStart, starts, beq_eq_false_iff_ne.mpr fun equal => same (Option.some.inj equal)]
        have unset : Graph.isStart head { graph with start := none } = false := rfl
        rw [writeEntities, writeEntities, own, unset, ih fun item inside => known item (List.mem_cons_of_mem _ inside)]
  rw [write, write, each graph.nodes fun _ inside => inside]

section Highest

theorem height_exported (graph : Graph) (node : Node) :
    height? (exported graph node) = some (.real node.header.position.y) := by
  rw [exported]
  cases imageOf? node <;> rfl

theorem lower_ignored (entities : List Entity) (best : Number × Option String)
    (lower : ∀ entity ∈ entities, ∀ y, height? entity = some y → y.lt best.1 = false) :
    entities.foldl higher best = best := by
  induction entities with
  | nil => rfl
  | cons entity rest ih =>
      have same : higher best entity = best := by
        rw [higher]
        cases found : height? entity with
        | none => rfl
        | some y => simp [lower entity List.mem_cons_self y found]
      rw [List.foldl_cons, same, ih fun other member => lower other (List.mem_cons_of_mem _ member)]

-- What comes before the highest entity may be taken for a while, what comes after it is not.
theorem highest_found (before after : List Entity) (entity : Entity) (y : Number) (best : Number × Option String)
    (height : height? entity = some y) (bounded : y.lt best.1 = true)
    (above : ∀ other ∈ before, ∀ low, height? other = some low → y.lt low = true)
    (below : ∀ other ∈ after, ∀ low, height? other = some low → low.lt y = false) :
    ((before ++ entity :: after).foldl higher best).2 = some entity.uuid := by
  induction before generalizing best with
  | nil =>
      have taken : higher best entity = (y, some entity.uuid) := by simp [higher, height, bounded]
      rw [List.nil_append, List.foldl_cons, taken, lower_ignored after _ below]
  | cons other rest ih =>
      have next : y.lt (higher best other).1 = true := by
        rw [higher]
        cases found : height? other with
        | none => exact bounded
        | some low =>
            by_cases taken : low.lt best.1 = true
            · simp [taken, above other List.mem_cons_self low found]
            · simp [taken, bounded]
      exact ih (higher best other) next fun later member => above later (List.mem_cons_of_mem _ member)

theorem retained_split (entities before after : List Entity) (entity : Entity) (shape : entities = before ++ entity :: after)
    (kept : entity ∈ retained entities) :
    ∃ early late, retained entities = early ++ entity :: late ∧ early ⊆ before ∧ late ⊆ after := by
  obtain ⟨keep, same⟩ : ∃ keep, retained entities = entities.filter keep := ⟨_, rfl⟩
  rw [same, List.mem_filter] at kept
  refine ⟨before.filter keep, after.filter keep, ?_, fun _ => List.mem_of_mem_filter, fun _ => List.mem_of_mem_filter⟩
  rw [same, shape, List.filter_append, List.filter_cons_of_pos kept.2]

-- No text has the mark of a start, and the start is the first of the highest nodes.
structure StartsHighest (graph : Graph) (node : Node) : Prop where
  start : graph.start = some node.id
  filled : imageOf? node = none → ∀ text, node.text true = .ok text → trim text.toList ≠ []
  unmarked : ∀ other ∈ graph.nodes, imageOf? other = none →
    ∀ text, other.text (graph.isStart other) = .ok text → occurs Mark.startWord.toList (narrow text.toList) = false
  bounded : node.header.position.y.lt (.infinite false) = true
  first : ∃ before after, graph.nodes = before ++ node :: after ∧
    (∀ other ∈ before, node.header.position.y.lt other.header.position.y = true) ∧
    ∀ other ∈ after, other.header.position.y.lt node.header.position.y = false

variable {graph : Graph} {node : Node} (highest : StartsHighest graph node)

include highest

theorem highest_exported (kept : exported graph node ∈ retained (graph.nodes.map (exported graph)))
    (speaks : ∀ other ∈ graph.nodes, other.text (graph.isStart other) = .ok (spoken graph other)) :
    start? (graph.nodes.map (exported graph)) = some node.id := by
  have unmarked : (retained (graph.nodes.map (exported graph))).find? hasStartMark = none := by
    refine List.find?_eq_none.mpr fun entity present bears => ?_
    obtain ⟨other, among, rfl⟩ := List.mem_map.mp (List.mem_of_mem_filter present)
    obtain ⟨image, marked⟩ := (mark_exported graph other).mp bears
    exact Bool.false_ne_true ((highest.unmarked other among image _ (speaks other among)).symm.trans marked)
  obtain ⟨before, after, nodes, above, below⟩ := highest.first
  have shape : graph.nodes.map (exported graph) =
      before.map (exported graph) ++ exported graph node :: after.map (exported graph) := by
    rw [nodes, List.map_append, List.map_cons]
  obtain ⟨early, late, split, fromBefore, fromAfter⟩ := retained_split _ _ _ _ shape kept
  have heights : ∀ (nodes : List Node), ∀ entity ∈ nodes.map (exported graph), ∀ low, height? entity = some low →
      ∃ other ∈ nodes, low = .real other.header.position.y := by
    intro nodes entity present low same
    obtain ⟨other, among, rfl⟩ := List.mem_map.mp present
    rw [height_exported] at same
    exact ⟨other, among, (Option.some.inj same).symm⟩
  simp only [start?, unmarked]
  rw [split, ← exported_uuid graph node]
  refine highest_found _ _ _ _ _ (height_exported graph node) highest.bounded (fun entity present low same => ?_)
    fun entity present low same => ?_
  · obtain ⟨other, among, rfl⟩ := heights before entity (fromBefore present) low same
    exact above other among
  · obtain ⟨other, among, rfl⟩ := heights after entity (fromAfter present) low same
    exact below other among

theorem highest_reloads (named : "" ∉ graph.ids) (distinct : graph.ids.Nodup)
    (heeded : imageOf? node = none → ∀ text, node.text true = .ok text → occurs ignoreMark.toList text.toList = false)
    (document : Json) (written : write graph = .ok document) (template : Attempt Json) (again : Graph)
    (loaded : load document template = .ok again) : again.start = graph.start := by
  obtain ⟨speaks, found⟩ := reloaded_start graph document written named distinct template again loaded
  obtain ⟨before, after, nodes, _, _⟩ := highest.first
  have member : node ∈ graph.nodes := by
    rw [nodes]
    exact List.mem_append_right _ List.mem_cons_self
  have own := speaks node member
  rw [Graph.isStart, highest.start, beq_self_eq_true] at own
  have kept := kept_exported graph node member distinct fun clip => by
    rw [exported, clip]
    exact not_idle _ (highest.filled clip _ own) (heeded clip _ own)
  rw [found, highest.start]
  exact highest_exported highest kept speaks

end Highest

theorem imported_start_survives (document : Json) (template : Attempt Json) (graph : Graph)
    (loaded : load document template = .ok graph) (node : Node) (starts : StartsAlone graph node ∨ StartsHighest graph node)
    (heeded : imageOf? node = none → ∀ text, node.text true = .ok text → occurs ignoreMark.toList text.toList = false)
    (exported : Json) (written : write graph = .ok exported) :
    (∀ other again, load exported other = .ok again → again.start = graph.start) ∧
      (LegibleTexts graph → ∃ again, load exported (.ok (.arr [])) = .ok again) := by
  have formed := load_formed document template graph loaded
  refine ⟨fun other again reloaded => ?_,
    fun legible => legible_export_loads graph formed.named formed.distinct legible exported written⟩
  rcases starts with alone | highest
  · exact start_reloads graph exported written formed.named formed.distinct node alone (heeded alone.clip) other again reloaded
  · exact highest_reloads highest formed.named formed.distinct heeded exported written other again reloaded

def textItem (uuid text : String) (height : Int) : Json :=
  .obj [("uuid", .str uuid), ("text", .str text), ("type", .str textEntity), ("location", .arr [.int height, .int 0])]

def textDocument (items : List Json) : Json :=
  .obj [("entities", .arr items), ("associations", .arr [])]

-- The start before and after an export.
def startsOf (document : Json) : Attempt (Option String × Option String) := do
  let graph ← load document (.ok (.arr []))
  let exported ← write graph
  let again ← load exported (.ok (.arr []))
  return (graph.start, again.start)

theorem starts_found (document : Json) (before after : Option String)
    (starts : (startsOf document).toOption = some (before, after)) :
    ∃ graph exported again, load document (.ok (.arr [])) = .ok graph ∧ write graph = .ok exported ∧
      load exported (.ok (.arr [])) = .ok again ∧ graph.start = before ∧ again.start = after := by
  cases outcome : startsOf document with
  | error fault =>
      rw [outcome] at starts
      cases starts
  | ok found =>
      rw [outcome] at starts
      rw [startsOf, attempt_bind_ok] at outcome
      obtain ⟨graph, loaded, outcome⟩ := outcome
      rw [attempt_bind_ok] at outcome
      obtain ⟨exported, written, outcome⟩ := outcome
      rw [attempt_bind_ok] at outcome
      obtain ⟨again, reloaded, outcome⟩ := outcome
      rw [← (attempt_pure_ok _ _).mp outcome] at starts
      obtain ⟨same, sameAgain⟩ := Prod.mk.inj (Option.some.inj starts)
      exact ⟨graph, exported, again, loaded, written, reloaded, same, sameAgain⟩

-- What an export shows of a node.
structure Face where
  id : String
  kind : Kind
  height : Double
  image : Option String
  text : Option String
deriving DecidableEq

def faceOf (graph : Graph) (node : Node) : Face :=
  ⟨node.id, node.kind, node.header.position.y, imageOf? node, (node.text (graph.isStart node)).toOption⟩

theorem face_text (graph : Graph) (node : Node) (text shown : String) (speaks : node.text (graph.isStart node) = .ok text)
    (face : (faceOf graph node).text = some shown) : text = shown := by
  rw [faceOf, speaks] at face
  exact Option.some.inj face

theorem two_faces (document : Json) (graph : Graph) (loaded : load document (.ok (.arr [])) = .ok graph) (upper lower : Face)
    (faces : (load document (.ok (.arr []))).toOption.map (fun graph => graph.nodes.map (faceOf graph)) =
      some [upper, lower]) :
    ∃ first second, graph.nodes = [first, second] ∧ faceOf graph first = upper ∧ faceOf graph second = lower := by
  rw [loaded] at faces
  obtain ⟨first, rest, nodes, face, others⟩ := List.map_eq_cons_iff.mp (Option.some.inj faces)
  obtain ⟨second, last, restNodes, otherFace, noMore⟩ := List.map_eq_cons_iff.mp others
  rw [restNodes, List.map_eq_nil_iff.mp noMore] at nodes
  exact ⟨first, second, nodes, face, otherFace⟩

-- The start of an imported graph is still the start after an export.
def StartStays (document : Json) (id : String) : Prop :=
  ∃ graph exported again, load document (.ok (.arr [])) = .ok graph ∧ write graph = .ok exported ∧
    load exported (.ok (.arr [])) = .ok again ∧ graph.start = some id ∧ again.start = graph.start

-- A video above a choice, the first of them the start.
def plainDocument : Json :=
  textDocument [textItem "v" "A" 0, textItem "c" "[选项]去" 500]

theorem plain_alone (graph : Graph) (loaded : load plainDocument (.ok (.arr [])) = .ok graph) (begins : graph.start = some "v") :
    ∃ video, StartsAlone graph video ∧ ∀ text, video.text true = .ok text → occurs ignoreMark.toList text.toList = false := by
  obtain ⟨video, choice, nodes, face, otherFace⟩ := two_faces plainDocument graph loaded
    ⟨"v", .video, .ofInt 200, none, some "[起点]A"⟩ ⟨"c", .choice, .ofInt 700, none, some "[选项]去"⟩ (by decide +kernel)
  have alone : StartsAlone graph video := by
    refine ⟨by simp [nodes], begins.trans (congrArg (some ∘ Face.id) face.symm), congrArg Face.kind face,
      congrArg Face.image face, fun other member different _ text speaks => ?_⟩
    rw [nodes, List.mem_pair] at member
    have same := member.resolve_left fun same => different (congrArg Node.id same)
    subst same
    rw [face_text graph other text _ speaks (congrArg Face.text otherFace)]
    decide
  refine ⟨video, alone, fun text speaks => ?_⟩
  rw [face_text graph video text _ (by rwa [alone.marked]) (congrArg Face.text face)]
  decide

-- Two choices without a mark, the upper of them the start.
def choicesDocument : Json :=
  textDocument [textItem "c" "[选项]去" 0, textItem "d" "[选项]来" 500]

theorem choices_highest (graph : Graph) (loaded : load choicesDocument (.ok (.arr [])) = .ok graph)
    (begins : graph.start = some "c") :
    ∃ choice, StartsHighest graph choice ∧ ∀ text, choice.text true = .ok text → occurs ignoreMark.toList text.toList = false := by
  obtain ⟨upper, lower, nodes, face, otherFace⟩ := two_faces choicesDocument graph loaded
    ⟨"c", .choice, .ofInt 200, none, some "[选项]去"⟩ ⟨"d", .choice, .ofInt 700, none, some "[选项]来"⟩ (by decide +kernel)
  have starts : graph.start = some upper.id := begins.trans (congrArg (some ∘ Face.id) face.symm)
  have own : ∀ text, upper.text true = .ok text → text = "[选项]去" := fun text speaks =>
    face_text graph upper text _ (by rwa [Graph.isStart, starts, beq_self_eq_true]) (congrArg Face.text face)
  have heights : upper.header.position.y = .ofInt 200 ∧ lower.header.position.y = .ofInt 700 :=
    ⟨congrArg Face.height face, congrArg Face.height otherFace⟩
  have unmarked : ∀ other ∈ graph.nodes, imageOf? other = none → ∀ text, other.text (graph.isStart other) = .ok text →
      occurs Mark.startWord.toList (narrow text.toList) = false := by
    intro other member _ text speaks
    rw [nodes, List.mem_pair] at member
    rcases member with rfl | rfl
    · rw [face_text graph other text _ speaks (congrArg Face.text face)]
      decide
    · rw [face_text graph other text _ speaks (congrArg Face.text otherFace)]
      decide
  refine ⟨upper, ⟨starts, fun _ text speaks => ?_, unmarked, ?_, [], [lower], nodes, by simp, fun other member => ?_⟩,
    fun text speaks => ?_⟩
  · rw [own text speaks]
    decide
  · rw [heights.1]
    decide +kernel
  · rw [List.mem_singleton.mp member, heights.1, heights.2]
    decide +kernel
  · rw [own text speaks]
    decide

theorem plain_start_survives : StartStays plainDocument "v" ∧ StartStays choicesDocument "c" := by
  refine ⟨?_, ?_⟩
  · obtain ⟨graph, exported, again, loaded, written, reloaded, begins, _⟩ :=
      starts_found plainDocument (some "v") (some "v") (by decide +kernel)
    obtain ⟨video, alone, heeded⟩ := plain_alone graph loaded begins
    exact ⟨graph, exported, again, loaded, written, reloaded, begins, (imported_start_survives plainDocument _ graph loaded
      video (.inl alone) (fun _ => heeded) exported written).1 _ again reloaded⟩
  · obtain ⟨graph, exported, again, loaded, written, reloaded, begins, _⟩ :=
      starts_found choicesDocument (some "c") (some "c") (by decide +kernel)
    obtain ⟨choice, highest, heeded⟩ := choices_highest graph loaded begins
    exact ⟨graph, exported, again, loaded, written, reloaded, begins, (imported_start_survives choicesDocument _ graph loaded
      choice (.inr highest) (fun _ => heeded) exported written).1 _ again reloaded⟩

-- A marked choice below a video.
def markedDocument : Json :=
  textDocument [textItem "c" "[选项][起点]去" 500, textItem "v" "A" 0]

theorem marked_choice_start_lost : ∃ graph exported again, load markedDocument (.ok (.arr [])) = .ok graph ∧
    write graph = .ok exported ∧ load exported (.ok (.arr [])) = .ok again ∧ graph.start = some "c" ∧
    again.start = some "v" :=
  starts_found markedDocument _ _ (by decide +kernel)

end TaggedStory.Interchange
