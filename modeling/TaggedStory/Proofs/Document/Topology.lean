import TaggedStory.Proofs.Document.Return
import TaggedStory.Proofs.Link.Direct
import TaggedStory.Proofs.Text.Occurrence
/-!
Exporting a graph and importing it again keeps the nodes and their links. The start comes back only
where its mark is written, which no kind but a video with a text does.
-/
set_option autoImplicit false

namespace TaggedStory.Interchange

open Text Decimal

section Retained

variable (graph : Graph)

-- An exported entity can keep no other out of the story, and itself only by its text.
theorem skipped_by_exported (node : Node) : skippedBy (exported graph node) =
    if imageOf? node = none ∧ isIdle (exported graph node) = true then [node.id] else [] := by
  rw [exported]
  cases shown : imageOf? node with
  | some path => rfl
  | none =>
      have kind : skippedBy (entityOf node textEntity (spoken graph node) "") =
          if isIdle (entityOf node textEntity (spoken graph node) "") then [node.id] else [] := rfl
      rw [kind]
      simp

theorem kept_exported (node : Node) (member : node ∈ graph.nodes) (distinct : graph.ids.Nodup)
    (awake : imageOf? node = none → isIdle (exported graph node) = false) :
    exported graph node ∈ retained (graph.nodes.map (exported graph)) := by
  refine List.mem_filter.mpr ⟨List.mem_map_of_mem member, ?_⟩
  rw [Bool.not_eq_true', List.contains_eq_mem, decide_eq_false_iff_not, skipped, List.mem_eraseDups, exported_uuid]
  intro left
  obtain ⟨entity, present, inside⟩ := List.mem_flatMap.mp left
  obtain ⟨other, among, rfl⟩ := List.mem_map.mp present
  rw [skipped_by_exported] at inside
  by_cases idle : imageOf? other = none ∧ isIdle (exported graph other) = true
  · rw [if_pos idle, List.mem_singleton] at inside
    have same : other = node := List.inj_on_of_nodup_map distinct among member inside.symm
    rw [same] at idle
    rw [awake idle.1] at idle
    cases idle.2
  · rw [if_neg idle] at inside
    cases inside

theorem nothing_skipped (awake : ∀ node ∈ graph.nodes, imageOf? node = none → isIdle (exported graph node) = false) :
    skipped (graph.nodes.map (exported graph)) = [] := by
  have none : (graph.nodes.map (exported graph)).flatMap skippedBy = [] := by
    refine List.flatMap_eq_nil_iff.mpr fun entity present => ?_
    obtain ⟨node, member, rfl⟩ := List.mem_map.mp present
    rw [skipped_by_exported, if_neg]
    rintro ⟨text, idle⟩
    rw [awake node member text] at idle
    cases idle
  rw [skipped, none]
  rfl

theorem all_retained (entities : List Entity) (none : skipped entities = []) : retained entities = entities := by
  rw [retained, none]
  exact List.filter_eq_self.mpr fun _ _ => rfl

end Retained

section Links

variable (nodes : List Node) (distinct : (nodes.map Node.id).Nodup)

theorem links_of_source (node : Node) (link : String × String) (member : link ∈ linksOf node) :
    link.1 = node.id ∧ link.2 ≠ "" := by
  obtain ⟨target, linked, rfl⟩ := List.mem_map.mp member
  exact ⟨rfl, by simpa using (List.mem_filter.mp linked).2⟩

theorem all_links_named (named : "" ∉ nodes.map Node.id) (link : String × String) (member : link ∈ nodes.flatMap linksOf) :
    link.1 ≠ "" ∧ link.2 ≠ "" := by
  obtain ⟨node, present, inside⟩ := List.mem_flatMap.mp member
  obtain ⟨source, target⟩ := links_of_source node link inside
  exact ⟨fun empty => named (empty ▸ source ▸ List.mem_map_of_mem present), target⟩

include distinct

theorem own_links (node : Node) (member : node ∈ nodes) :
    ((nodes.flatMap linksOf).filter fun link => link.1 = node.id) = linksOf node := by
  induction nodes with
  | nil => cases member
  | cons head rest ih =>
      obtain ⟨fresh, distinctRest⟩ := List.nodup_cons.mp distinct
      have all : ∀ other : Node, other.id = node.id → (linksOf other).filter (fun link => link.1 = node.id) = linksOf other :=
        fun other same => List.filter_eq_self.mpr fun link inside =>
          decide_eq_true ((links_of_source other link inside).1.trans same)
      have nothing : ∀ other : Node, other.id ≠ node.id → (linksOf other).filter (fun link => link.1 = node.id) = [] :=
        fun other different => List.filter_eq_nil_iff.mpr fun link inside same =>
          different ((links_of_source other link inside).1.symm.trans (of_decide_eq_true same))
      rw [List.flatMap_cons, List.filter_append]
      rcases List.mem_cons.mp member with rfl | later
      · rw [all node rfl, List.filter_flatMap, List.flatMap_eq_nil_iff.mpr, List.append_nil]
        intro other present
        exact nothing other fun same => fresh (same ▸ List.mem_map_of_mem present)
      · rw [nothing head fun same => fresh (same ▸ List.mem_map_of_mem later), List.nil_append, ih distinctRest later]

end Links

theorem successors_listed (direct : String → List String) (ids : List String) (id : String) (member : id ∈ ids) :
    successorsOf (ids.map fun other => (other, direct other)) id = direct id := by
  induction ids with
  | nil => cases member
  | cons head rest ih =>
      by_cases same : head = id
      · simp [successorsOf, same]
      · have later := ih ((List.mem_cons.mp member).resolve_left (Ne.symm same))
        simpa [successorsOf, same] using later

section Successors

variable {graph : Graph} {document : Json} {entries : Json.Fields} {content : Content}
variable (parts : Written graph document entries content) (named : "" ∉ graph.ids) (distinct : graph.ids.Nodup)

include parts named distinct

theorem written_network : network content = ⟨graph.ids, skipped content.entities, graph.nodes.flatMap linksOf⟩ := by
  have entities : content.entities.map (·.uuid) = graph.ids := by
    rw [parts.entities, exported_ids, Graph.ids]
  have links : content.links.map (fun link => (link.source, link.target)) = graph.nodes.flatMap linksOf := parts.links
  have filled : (graph.nodes.flatMap linksOf).filter (fun link => link.1 ≠ "" && link.2 ≠ "") =
      graph.nodes.flatMap linksOf := by
    refine List.filter_eq_self.mpr fun link member => ?_
    simpa using all_links_named graph.nodes named link member
  rw [network, Network.build, entities, links, filled, erase_dups_of_nodup graph.ids distinct]

theorem written_next (node : Node) (member : node ∈ graph.nodes) :
    (network content).direct node.id = (node.next.filter graph.ids.contains).eraseDups := by
  have targets : (network content).targets node.id = node.next.filter (· ≠ "") := by
    rw [written_network parts named distinct, Network.targets, own_links graph.nodes distinct node member, linksOf,
      List.map_map]
    exact List.map_id _
  have known : ∀ target, (network content).isEntity target = graph.ids.contains target := by
    rw [written_network parts named distinct]
    exact fun _ => rfl
  rw [Network.direct, targets, List.filter_filter]
  congr 1
  refine List.filter_congr fun target _ => ?_
  rw [known]
  cases present : graph.ids.contains target with
  | false => rfl
  | true =>
      have filled : target ≠ "" := fun empty => named (empty ▸ List.contains_iff_mem.mp present)
      simpa using filled

end Successors

section Start

theorem not_idle (entity : Entity) (filled : trim entity.text.toList ≠ [])
    (heeded : occurs ignoreMark.toList entity.text.toList = false) : isIdle entity = false := by
  rw [isIdle, heeded, Bool.or_false]
  exact Bool.eq_false_iff.mpr fun empty => filled (List.isEmpty_iff.mp empty)

theorem video_starts_marked (node : NodeOf Video) (text : String) (speaks : Video.text node true = .ok text) :
    ∃ rest, text.toList = Mark.startWord.toList ++ rest := by
  obtain ⟨randomTime, _, rfl⟩ := (attempt_map_ok _ _ _).mp speaks
  have begins : (Video.tagsBefore node true).head? = some Mark.startWord := rfl
  obtain ⟨others, shape⟩ := List.head?_eq_some_iff.mp begins
  rw [shape, List.cons_append, List.cons_append, String.join_cons, String.toList_append]
  exact ⟨_, rfl⟩

theorem start_text (node : Node) (video : node.kind = .video) (text : String) (speaks : node.text true = .ok text) :
    trim text.toList ≠ [] ∧ occurs Mark.startWord.toList (narrow text.toList) = true := by
  have marked : ∃ rest, text.toList = Mark.startWord.toList ++ rest := by
    cases shape : node.body with
    | video body =>
        rw [Node.text, shape] at speaks
        exact video_starts_marked ⟨node.header, body⟩ text speaks
    | _ =>
        rw [Node.kind, shape] at video
        cases video
  obtain ⟨rest, same⟩ := marked
  have kept : Mark.startWord.toList.map narrowChar = Mark.startWord.toList := by decide
  rw [same]
  refine ⟨trim_solid '[' _ (by decide), (occurs_inside _ _).mpr ?_⟩
  rw [narrow, List.map_append, kept]
  exact (List.prefix_append _ _).isInfix

theorem mark_exported (graph : Graph) (node : Node) : hasStartMark (exported graph node) = true ↔
    imageOf? node = none ∧ occurs Mark.startWord.toList (narrow (spoken graph node).toList) = true := by
  rw [exported]
  cases imageOf? node with
  | some path => exact iff_of_false Bool.false_ne_true fun marked => by cases marked.1
  | none => exact (and_iff_right rfl).symm

variable {graph : Graph} (distinct : graph.ids.Nodup) (node : Node) (member : node ∈ graph.nodes)

include distinct member

-- Of the exported entities only the start bears the mark if no other text does.
theorem start_exported (video : node.kind = .video) (clip : imageOf? node = none)
    (speaks : node.text true = .ok (spoken graph node)) (awake : isIdle (exported graph node) = false)
    (single : ∀ other ∈ graph.nodes, other.id ≠ node.id → imageOf? other = none →
      occurs Mark.startWord.toList (narrow (spoken graph other).toList) = false) :
    start? (graph.nodes.map (exported graph)) = some node.id := by
  have marked := (mark_exported graph node).mpr ⟨clip, (start_text node video _ speaks).2⟩
  have only : ∀ entity ∈ retained (graph.nodes.map (exported graph)), hasStartMark entity = true → entity.uuid = node.id := by
    intro entity present bears
    obtain ⟨other, among, rfl⟩ := List.mem_map.mp (List.mem_of_mem_filter present)
    rw [exported_uuid]
    by_contra different
    obtain ⟨image, marked⟩ := (mark_exported graph other).mp bears
    exact Bool.false_ne_true ((single other among different image).symm.trans marked)
  have kept := kept_exported graph node member distinct fun _ => awake
  cases found : (retained (graph.nodes.map (exported graph))).find? hasStartMark with
  | none => exact absurd marked (List.find?_eq_none.mp found _ kept)
  | some entity =>
      simp only [start?, found]
      rw [only entity (List.mem_of_find?_eq_some found) (List.find?_some found)]

end Start

section Reload

-- A graph whose ids tell its nodes apart and whose texts are not passed over when they are read.
structure Exportable (graph : Graph) : Prop where
  named : "" ∉ graph.ids
  distinct : graph.ids.Nodup
  awake : ∀ node ∈ graph.nodes, imageOf? node = none → ∀ text, node.text (graph.isStart node) = .ok text →
    trim text.toList ≠ [] ∧ occurs ignoreMark.toList text.toList = false

-- The start is a video with a text, and no other text has its mark.
structure StartsAlone (graph : Graph) (node : Node) : Prop where
  member : node ∈ graph.nodes
  start : graph.start = some node.id
  video : node.kind = .video
  clip : imageOf? node = none
  single : ∀ other ∈ graph.nodes, other.id ≠ node.id → imageOf? other = none →
    ∀ text, other.text (graph.isStart other) = .ok text → occurs Mark.startWord.toList (narrow text.toList) = false

theorem StartsAlone.marked {graph : Graph} {node : Node} (alone : StartsAlone graph node) : graph.isStart node = true := by
  rw [Graph.isStart, alone.start, beq_self_eq_true]

-- What a graph comes back as.
structure Reloaded (graph again : Graph) : Prop where
  nodes : again.nodes.map outline = graph.nodes.map fun node => (node.id, (node.next.filter graph.ids.contains).eraseDups)
  skipped : again.diagnostics.skipped = []
  cuts : again.diagnostics.cyclicBypassCount = 0
  start : ∀ node, StartsAlone graph node → again.start = graph.start

section Parts

variable {graph : Graph} {document : Json} {entries : Json.Fields} {content : Content}
  (parts : Written graph document entries content)

include parts

-- What is loaded from an exported document is put together from what was written.
theorem Written.loaded (template : Attempt Json) (again : Graph) (loaded : load document template = .ok again) :
    ∃ imported, Steps document template again content imported := by
  obtain ⟨read, imported, steps⟩ := load_steps document template again loaded
  obtain rfl : read = content := Except.ok.inj (steps.read.symm.trans parts.read)
  exact ⟨imported, steps⟩

theorem Written.passes_over_none (exportable : Exportable graph) : skipped content.entities = [] := by
  rw [parts.entities]
  refine nothing_skipped graph fun node member clip => ?_
  obtain ⟨filled, heeded⟩ := exportable.awake node member clip _ (parts.speaks node member)
  rw [exported, clip]
  exact not_idle _ filled heeded

end Parts

variable (graph : Graph) (document : Json) (written : write graph = .ok document)

include written

theorem reloaded_start (named : "" ∉ graph.ids) (distinct : graph.ids.Nodup) (template : Attempt Json) (again : Graph)
    (loaded : load document template = .ok again) :
    (∀ node ∈ graph.nodes, node.text (graph.isStart node) = .ok (spoken graph node)) ∧
      again.start = start? (graph.nodes.map (exported graph)) := by
  obtain ⟨entries, content, parts⟩ := written_read graph named distinct document written
  obtain ⟨imported, steps⟩ := parts.loaded template again loaded
  exact ⟨parts.speaks, by rw [steps.start, parts.entities]⟩

theorem start_reloads (named : "" ∉ graph.ids) (distinct : graph.ids.Nodup) (node : Node) (alone : StartsAlone graph node)
    (awake : ∀ text, node.text true = .ok text → occurs ignoreMark.toList text.toList = false) (template : Attempt Json)
    (again : Graph) (loaded : load document template = .ok again) : again.start = graph.start := by
  obtain ⟨allSpeak, found⟩ := reloaded_start graph document written named distinct template again loaded
  have speaks := allSpeak node alone.member
  rw [alone.marked] at speaks
  have stays : isIdle (exported graph node) = false := by
    rw [exported, alone.clip]
    exact not_idle _ (start_text node alone.video _ speaks).1 (awake _ speaks)
  rw [found, alone.start]
  refine start_exported distinct node alone.member alone.video alone.clip speaks stays ?_
  exact fun other among different image => alone.single other among different image _ (allSpeak other among)

theorem export_reloads (exportable : Exportable graph) :
    (∀ template again, load document template = .ok again → Reloaded graph again) ∧
      (LegibleTexts graph → ∃ again, load document (.ok (.arr [])) = .ok again) := by
  have named := exportable.named
  have distinct := exportable.distinct
  refine ⟨fun template again loaded => ?_, fun legible => legible_export_loads graph named distinct legible document written⟩
  obtain ⟨entries, content, parts⟩ := written_read graph named distinct document written
  obtain ⟨imported, steps⟩ := parts.loaded template again loaded
  have none := parts.passes_over_none exportable
  have free : (network content).bypassed = [] := by rw [written_network parts named distinct, none]
  have entities : (network content).entities = graph.ids := by rw [written_network parts named distinct]
  obtain ⟨answers, cuts⟩ := Network.resolve_all_direct (network content) free (entities ▸ distinct)
  refine ⟨?_, ?_, steps.cuts.trans (congrArg Nat.cast cuts), fun node alone => ?_⟩
  · rw [steps_outline document again content imported steps, all_retained _ none, parts.entities, List.map_map, answers, entities]
    refine List.map_congr_left fun node member => ?_
    have known : node.id ∈ graph.ids := List.mem_map_of_mem member
    rw [Function.comp_apply, exported_uuid, successors_listed _ _ _ known, written_next parts named distinct node member]
  · rw [steps.skipped, none]
    exact List.filter_eq_nil_iff.mpr fun _ _ => by simp
  · exact start_reloads graph document written named distinct node alone
      (fun text speaks => (exportable.awake node alone.member alone.clip text (by rwa [alone.marked])).2) template again loaded

end Reload

-- A start with a link named twice and one that leads nowhere, a choice, and an image.
def sketch : Graph where
  nodes := [
    ⟨{ id := "a", name := "开场", next := ["b", "b", "gone"] }, .video {}⟩,
    ⟨{ id := "b", next := ["c", ""] }, .choice { text := "去" }⟩,
    ⟨{ id := "c" }, .video { imagePath := "map.png", displayType := 1 }⟩]
  start := some "a"

theorem sketch_texts (node : Node) (member : node ∈ sketch.nodes) (clip : imageOf? node = none) (text : String)
    (speaks : node.text (sketch.isStart node) = .ok text) : text = "[起点]开场" ∨ text = "[选项]去" := by
  simp only [sketch, List.mem_cons, List.not_mem_nil, or_false] at member
  rcases member with rfl | rfl | rfl
  · exact .inl (Except.ok.inj (speaks.symm.trans (by rfl : _ = Except.ok "[起点]开场")))
  · exact .inr (Except.ok.inj (speaks.symm.trans (by rfl : _ = Except.ok "[选项]去")))
  · cases clip

theorem sketch_reloads : ∃ document again, write sketch = .ok document ∧ load document (.ok (.arr [])) = .ok again ∧
    Reloaded sketch again := by
  have exportable : Exportable sketch := by
    refine ⟨by decide, by decide, fun node member clip text speaks => ?_⟩
    rcases sketch_texts node member clip text speaks with rfl | rfl <;> decide
  have legible : LegibleTexts sketch := by
    intro node member clip text speaks
    rcases sketch_texts node member clip text speaks with rfl | rfl <;> decide
  obtain ⟨document, written⟩ : ∃ document, write sketch = .ok document := ⟨_, rfl⟩
  obtain ⟨reloads, returns⟩ := export_reloads sketch document written exportable
  obtain ⟨again, loaded⟩ := returns legible
  exact ⟨document, again, written, loaded, reloads _ again loaded⟩

end TaggedStory.Interchange
