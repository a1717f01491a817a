import TaggedStory.Proofs.Catalog.Coverage
import TaggedStory.Proofs.Document.Narrowing
/-!
The variable table of a document that brings none. It lists what the conditions and effects of the nodes name; the
other names of a video are found in its text, where they are written as the collector knows them.
-/
set_option autoImplicit false

namespace TaggedStory

open Text

-- Empty names, numbers and percentages have no entry.
def Entered (names : List String) (name : String) : Prop :=
  ∀ entry ∈ Collector.nameOf? name.toList, entry ∈ names

instance (names : List String) (name : String) : Decidable (Entered names name) :=
  inferInstanceAs (Decidable (∀ entry ∈ Collector.nameOf? name.toList, entry ∈ names))

namespace Body

-- The names in the rates, the limits and the bar of a video.
def further : Body → List String
  | .video body => body.rates.map (·.name) ++ body.maxOverrides.map (·.name) ++ body.minOverrides.map (·.name) ++
      [body.variableBarName]
  | _ => []

structure Listed (text : List Char) (names : List String) (body : Body) : Prop where
  required : ∀ name ∈ body.required, Entered names name
  video : ∀ video, body = .video video → video.Covers (Entered names) text

variable {text : List Char} {names more : List String} {body : Body}

theorem Listed.mono (listed : Listed text names body) (within : names ⊆ more) : Listed text more body :=
  ⟨fun name member entry known => within (listed.required name member entry known),
    fun video same => (listed.video video same).mono fun _ entered entry known => within (entered entry known)⟩

end Body

theorem Node.body_with_next (next : List String) (node : Node) : (node.withNext next).body = node.body := rfl

namespace Graph

theorem settled_listed (text : List Char) (names : List String) (nodes : List Node) (node : Node)
    (listed : node.body.Listed text names) : (settleVideo nodes node).body.Listed text names := by
  rw [settleVideo]
  split
  case h_1 video same =>
    rw [same] at listed
    refine ⟨listed.required, fun other settled => ?_⟩
    exact (listed.video video rfl).same other (by rw [← Body.video.inj settled]; rfl)
  case h_2 => exact listed

end Graph

namespace Interchange

-- Every node comes from an entity of the document, and the collector has entered its names.
def Covered (document : Json) (state : Import) : Prop :=
  ∀ node ∈ state.nodes, ∃ entity ∈ kept document,
    entity.uuid = node.id ∧ node.body.Listed (narrow entity.text.toList) state.collector.names

theorem image_listed (text : List Char) (names : List String) (path : String) (header : Header) :
    (Node.ofImage path header).body.Listed text names := by
  have shape : (Node.ofImage path header).body = .video { clipPath := "", imagePath := path, displayType := 1 } := rfl
  have nameless : Entered names "" := fun _ known => by cases known
  rw [shape]
  refine ⟨by simp [Body.required, Body.conditions, Body.effects], fun video same => ?_⟩
  obtain rfl := Body.video.inj same
  exact ⟨by simp, by simp, by simp, fun _ _ => nameless⟩

-- What a text tells about its node is entered together with it.
theorem added_listed (kind : Kind) (text : String) (header : Header) (parsed : Node.Parsed) (collector next : Collector)
    (read : Node.parseAs kind text header = .ok parsed) (added : collector.add text.toList (some parsed.node) = .ok next) :
    parsed.node.body.Listed text.toList next.names := by
  have entered := Collector.mem_add collector text.toList parsed.node next added
  refine ⟨fun name member entry known => (entered entry).mpr (.inr (.inl ⟨name, member, known⟩)), fun video same => ?_⟩
  refine (Node.parse_told kind text header parsed read video same).mono fun name mentioned entry known => ?_
  exact (entered entry).mpr (.inr (.inr (mentioned entry known)))

variable (document : Json) (placement : Placement) (successors : List (String × List String))

theorem add_node_covered (state next : Import) (entity : Entity) (member : entity ∈ kept document)
    (covered : Covered document state) (done : addNode placement successors state entity = .ok next) :
    Covered document next := by
  rw [addNode, attempt_bind_ok] at done
  obtain ⟨position, _, done⟩ := done
  split at done
  · rw [attempt_pure_ok] at done
    rw [← done]
    have id := congrArg Header.id (Node.of_image_keeps entity.imagePath (headerOf entity position))
    refine List.forall_mem_append.mpr ⟨covered, List.forall_mem_singleton.mpr ⟨entity, member, id.symm, ?_⟩⟩
    rw [Node.body_with_next]
    exact image_listed _ _ entity.imagePath _
  · rw [attempt_bind_ok] at done
    obtain ⟨parsed, read, done⟩ := done
    rw [attempt_bind_ok] at done
    obtain ⟨collector, added, done⟩ := done
    rw [attempt_pure_ok] at done
    rw [← done]
    have id := congrArg Header.id (Node.parse_as_keeps _ _ _ parsed read)
    have entered := Collector.mem_add state.collector _ parsed.node collector added
    refine List.forall_mem_append.mpr ⟨fun node present => ?_, List.forall_mem_singleton.mpr ⟨entity, member, id.symm, ?_⟩⟩
    · obtain ⟨source, known, same, listed⟩ := covered node present
      exact ⟨source, known, same, listed.mono fun name old => (entered name).mpr (.inl old)⟩
    · rw [Node.body_with_next, ← narrowed_list]
      exact added_listed _ _ _ parsed state.collector collector read added

theorem steps_covered (template : Attempt Json) (graph : Graph) (content : Content) (imported : Import)
    (steps : Steps document template graph content imported) : Covered document imported := by
  obtain ⟨placement, placed⟩ := steps.placed
  refine attempt_fold_upholds _ (Covered document) _ (fun state covered entity member next => ?_) _ _ (by simp [Covered]) placed
  refine add_node_covered document placement _ state next entity ?_ covered
  rwa [kept, steps.read]

theorem inferred_table_lists (entries : Json.Fields) (template : Attempt Json) (graph : Graph)
    (bare : VariableTable.read (tableIn entries) = .ok []) (plain : template >>= VariableTable.read = .ok [])
    (loaded : load (.obj entries) template = .ok graph) :
    ∀ node ∈ graph.nodes, ∃ entity ∈ kept (.obj entries),
      entity.uuid = node.id ∧ node.body.Listed (narrow entity.text.toList) (graph.table.map (·.name)) := by
  obtain ⟨content, imported, steps⟩ := load_steps (.obj entries) template graph loaded
  have covered := steps_covered (.obj entries) template graph content imported steps
  have table : graph.table = imported.collector.toVariables := by
    obtain ⟨explicit, given, known, supplied, table⟩ := steps.table
    obtain rfl : [] = explicit := Except.ok.inj (bare.symm.trans known)
    obtain rfl : [] = given := Except.ok.inj (plain.symm.trans supplied)
    exact table
  rw [steps.nodes, List.forall_mem_map, table, Collector.toVariables, Collector.variables_names]
  intro node member
  obtain ⟨entity, present, same, listed⟩ := covered node member
  refine ⟨entity, present, ?_, Graph.settled_listed _ _ _ node listed⟩
  rw [same, Node.id, Node.id, Graph.settle_video_heading]

def oneText (text : String) : Json.Fields :=
  [("entities", .arr [entityItem (.str "a") textEntity text]), ("associations", .arr [])]

-- One tag of each form, as the collector knows it.
def knownForms : Json.Fields :=
  oneText "《金币>5》<体力 +3/s><最大默认值:魅力:9><最小默认值:智力:1>[变量条:好感:#ff0000:上]打招呼"

theorem known_forms_listed :
    ∃ graph, load (.obj knownForms) (.ok (.arr [])) = .ok graph ∧
      graph.nodes.map (·.body.further) = [["体力", "魅力", "智力", "好感"]] ∧
      ∀ node ∈ graph.nodes, ∀ name ∈ node.body.required ++ node.body.further, Entered (graph.table.map (·.name)) name := by
  have further : (load (.obj knownForms) (.ok (.arr []))).toOption.map (fun graph => graph.nodes.map (·.body.further)) =
      some [["体力", "魅力", "智力", "好感"]] := by
    decide +kernel
  have written : ∀ entity ∈ kept (.obj knownForms), Video.Flat '<' '>' (narrow entity.text.toList) ∧
      Video.Flat '[' ']' (narrow entity.text.toList) ∧ Video.PlainRates (narrow entity.text.toList) ∧
      Video.TightLimits (narrow entity.text.toList) ∧
      Video.OneName Catalog.maxLimit Prod.fst (narrow entity.text.toList) ∧
      Video.OneName Catalog.minLimit Prod.fst (narrow entity.text.toList) ∧
      Video.OneName Catalog.barName id (narrow entity.text.toList) := by
    decide +kernel
  cases loaded : load (.obj knownForms) (.ok (.arr [])) with
  | error fault =>
      rw [loaded] at further
      cases further
  | ok graph =>
      rw [loaded] at further
      refine ⟨graph, rfl, Option.some.inj further, fun node member => ?_⟩
      obtain ⟨entity, present, _, listed⟩ := inferred_table_lists knownForms (.ok (.arr [])) graph rfl rfl loaded node member
      obtain ⟨flat, square, plain, tight, upper, lower, bar⟩ := written entity present
      refine List.forall_mem_append.mpr ⟨listed.required, ?_⟩
      cases body : node.body with
      | video video =>
          have covers := listed.video video body
          simp only [Body.further, List.forall_mem_append, List.forall_mem_map, List.forall_mem_singleton]
          exact ⟨⟨⟨covers.rates flat plain, covers.upper flat tight upper⟩, covers.lower flat tight lower⟩,
            covers.bar square bar⟩
      | _ => simp [Body.further]

-- A video names 金币 beside its conditions and effects, and the table does not list it.
def missesCoins (graph : Graph) : Bool :=
  graph.nodes.any fun node => node.body.further.contains "金币" && !decide (Entered (graph.table.map (·.name)) "金币")

def Missed (text : String) : Prop :=
  ∃ graph, load (.obj (oneText text)) (.ok (.arr [])) = .ok graph ∧ missesCoins graph = true

theorem missed_once_loaded (text : String)
    (misses : (load (.obj (oneText text)) (.ok (.arr []))).toOption.any missesCoins = true) : Missed text := by
  cases loaded : load (.obj (oneText text)) (.ok (.arr [])) with
  | error fault => simp [loaded, Except.toOption] at misses
  | ok graph => exact ⟨graph, loaded, by simpa [loaded, Except.toOption] using misses⟩

-- A fraction, a second limit, and a bar behind another that only looks like one.
theorem names_missed : Missed "<金币 +1.5/s>挖矿" ∧ Missed "<最大默认值:体力:5><最大默认值:金币:6>挖矿" ∧
    Missed "[变量条:体力:红][变量条:金币:#ff0000:上]挖矿" :=
  ⟨missed_once_loaded _ (by decide +kernel), missed_once_loaded _ (by decide +kernel), missed_once_loaded _ (by decide +kernel)⟩

end Interchange

end TaggedStory
