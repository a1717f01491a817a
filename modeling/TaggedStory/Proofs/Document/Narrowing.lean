import TaggedStory.Proofs.Document.Import
import TaggedStory.Proofs.Record.Following
import TaggedStory.Proofs.Text.Occurrence
import TaggedStory.Proofs.Text.Plain
/-!
Full-width signs in the texts of an interchange document. The import reads every text in its narrow form but in one
place: the mark that keeps an entity out of the story is looked for in the text as it is written.
-/
set_option autoImplicit false

namespace TaggedStory

namespace Text

theorem occurs_narrow (word text : List Char) (half : narrow word = word) (inside : occurs word text = true) :
    occurs word (narrow text) = true :=
  (occurs_inside _ _).mpr (half ▸ ((occurs_inside _ _).mp inside).map narrowChar)

end Text

-- A text in its narrow form; any other value as it is.
def Json.narrow : Json → Json
  | .str text => .str (Text.narrowed text)
  | value => value

namespace Entity

def halfWidth (entity : Entity) : Entity :=
  { entity with text := Text.narrowed entity.text }

def narrowField (name : String) (value : Json) : Json :=
  if name = "text" then value.narrow else value

theorem narrow_other_field (name : String) (other : name ≠ "text") (value : Json) : narrowField name value = value :=
  if_neg other

theorem text_of_narrow (value : Json) : textOf value.narrow = Text.narrowed (textOf value) := by
  cases value <;> rfl

theorem follows_other {α : Type} {key name : String} {codec : Codec α} {get : Entity → α} {set : α → Entity → Entity}
    (entries : Json.Fields) (named : key ≠ "text" ∧ name ≠ "text")
    (commutes : ∀ value entity, set value entity.halfWidth = (set value entity).halfWidth) :
    (Field.of key name codec get set).Follows halfWidth entries (Json.mapFields narrowField entries) := by
  refine Field.follows_unseen halfWidth narrowField entries _ (narrow_other_field key named.1)
    (narrow_other_field name named.2) fun raw setter read entity => ?_
  obtain ⟨value, _, rfl⟩ := (attempt_map_ok _ _ _).mp read
  exact commutes value entity

theorem follows_uuid {codec : Codec String} (entries : Json.Fields) :
    (Field.required "uuid" "uuid" codec uuid fun id entity => { entity with uuid := id }).Follows halfWidth entries
      (Json.mapFields narrowField entries) := by
  have kept := narrow_other_field "uuid" (by decide)
  refine Field.follows_unseen halfWidth narrowField entries _ kept kept fun raw setter read entity => ?_
  obtain ⟨value, _, rfl⟩ := (attempt_map_ok _ _ _).mp read
  rfl

def textField : Field Entity :=
  .of "text" "text" (.plain (fun value => .ok (textOf value)) .str) text fun x entity => { entity with text := x }

theorem follows_text (entries : Json.Fields) :
    textField.Follows halfWidth entries (Json.mapFields narrowField entries) := by
  have narrowed : Json.get "text" (Json.mapFields narrowField entries) = (Json.get "text" entries).narrow := by
    rw [Json.get, Json.lookup_map_fields, Json.get]
    cases Json.lookup? "text" entries <;> rfl
  cases present : Json.has "text" entries with
  | true =>
      refine .inr ⟨fun entity => { entity with text := textOf (Json.get "text" entries) },
        fun entity => { entity with text := textOf (Json.get "text" entries).narrow }, ?_, ?_, fun entity => ?_⟩
      · simp only [textField, Field.readFrom, Field.keyIn?, Field.of, present, if_true]
        rfl
      · simp only [textField, Field.readFrom, Field.keyIn?, Field.of, Json.has_map_fields, present, if_true, narrowed]
        rfl
      · rw [text_of_narrow]
        rfl
  | false =>
      refine .inr ⟨id, id, ?_, ?_, fun _ => rfl⟩
      · simp [textField, Field.readFrom, Field.keyIn?, Field.of, present]
      · simp [textField, Field.readFrom, Field.keyIn?, Field.of, Json.has_map_fields, present]

theorem read_narrowed (entries : Json.Fields) :
    schema.readFields (Json.mapFields narrowField entries) = (schema.readFields entries).map halfWidth := by
  refine Schema.read_follows halfWidth entries _ schema ?_ rfl fun record => ?_
  · have other := fun {α : Type} {key name : String} {codec : Codec α} {get : Entity → α} {set : α → Entity → Entity} =>
      @follows_other α key name codec get set entries
    simp only [schema, List.forall_mem_cons]
    exact ⟨follows_uuid entries, follows_text entries, other (by decide) fun _ _ => rfl, other (by decide) fun _ _ => rfl,
      other (by decide) fun _ _ => rfl, other (by decide) fun _ _ => rfl, other (by decide) fun _ _ => rfl,
      other (by decide) fun _ _ => rfl, other (by decide) fun _ _ => rfl, List.forall_mem_nil _⟩
  · have kept : schema.unused (Json.mapFields narrowField entries) = schema.unused entries :=
      schema.unused_map narrowField entries fun key other => narrow_other_field key fun same =>
        other textField (List.mem_cons_of_mem _ List.mem_cons_self) same.symm
    rw [kept]
    rfl

end Entity

namespace Interchange

def narrowItem : Json → Json
  | .obj entries => .obj (Json.mapFields Entity.narrowField entries)
  | value => value

def narrowEntities (name : String) (value : Json) : Json :=
  if name = "entities" then
    match value with
    | .arr items => .arr (items.map narrowItem)
    | other => other
  else value

-- The document with the text of every entity in its narrow form.
def narrowDocument : Json → Json
  | .obj entries => .obj (Json.mapFields narrowEntities entries)
  | document => document

theorem narrow_entities_other (name : String) (other : name ≠ "entities") (value : Json) :
    narrowEntities name value = value :=
  if_neg other

def Content.halfWidth (content : Content) : Content :=
  { content with entities := content.entities.map Entity.halfWidth }

theorem readable_narrowed (raw : Json) : readable? (narrowItem raw) = (readable? raw).map Entity.halfWidth := by
  cases raw with
  | obj entries =>
      have ids := Json.get_map_fields _ "uuid" entries (Entity.narrow_other_field "uuid" (by decide))
      rw [narrowItem, readable?, readable?, ids, Entity.read_narrowed]
      split
      · cases Entity.schema.readFields entries <;> rfl
      · rfl
  | _ => rfl

theorem add_entities_narrowed (items : List Json) (entities : List Entity) :
    (items.map narrowItem).foldl addEntity (entities.map Entity.halfWidth) =
      (items.foldl addEntity entities).map Entity.halfWidth := by
  induction items generalizing entities with
  | nil => rfl
  | cons raw rest ih =>
      rw [List.map_cons, List.foldl_cons, List.foldl_cons, ← ih, add_entity_readable, add_entity_readable,
        readable_narrowed]
      cases readable? raw with
      | none => rfl
      | some entity =>
          simp only [Option.map_some, List.map_append, List.filter_map, List.map_cons, List.map_nil]
          rfl

theorem read_content_narrowed (document : Json) :
    readContent (narrowDocument document) = (readContent document).map Content.halfWidth := by
  cases document with
  | obj entries =>
      have links : linkItems (Json.mapFields narrowEntities entries) = linkItems entries := by
        rw [linkItems, Json.lookup_map_fields, linkItems]
        cases Json.lookup? "associations" entries <;> rfl
      have items : Json.get "entities" (Json.mapFields narrowEntities entries) =
          narrowEntities "entities" (Json.get "entities" entries) := by
        rw [Json.get, Json.lookup_map_fields, Json.get]
        cases Json.lookup? "entities" entries <;> rfl
      rw [narrowDocument, readContent, readContent, items, links]
      cases Json.get "entities" entries with
      | arr items =>
          have entities := add_entities_narrowed items []
          cases linkItems entries with
          | error fault => rfl
          | ok links =>
              exact congrArg (fun entities => Except.ok (Content.mk entities (links.filterMap readLink?))) entities
      | _ => rfl
  | _ => rfl

-- The mark that keeps an entity out of the story, seen in the narrow form of its text.
def hidesMark (entity : Entity) : Bool :=
  !entity.isImage && Text.occurs ignoreMark.toList (Text.narrow entity.text.toList)

theorem narrowed_list (text : String) : (Text.narrowed text).toList = Text.narrow text.toList :=
  String.toList_ofList

theorem mem_skipped (entities : List Entity) (id : String) :
    id ∈ skipped entities ↔ ∃ entity ∈ entities, id ∈ skippedBy entity := by
  rw [skipped, List.mem_eraseDups, List.mem_flatMap]

theorem demo_narrowed (entity : Entity) : isDemo entity.halfWidth = isDemo entity := by
  rw [isDemo, Entity.halfWidth, narrowed_list, Text.narrow_twice, isDemo]

theorem start_mark_narrowed (entity : Entity) : hasStartMark entity.halfWidth = hasStartMark entity := by
  rw [hasStartMark, Entity.halfWidth, narrowed_list, Text.narrow_twice, hasStartMark]

theorem idle_narrowed (entity : Entity) :
    isIdle entity.halfWidth = (isIdle entity || Text.occurs ignoreMark.toList (Text.narrow entity.text.toList)) := by
  have inside := Text.occurs_narrow ignoreMark.toList entity.text.toList (by decide)
  simp only [isIdle, Entity.halfWidth, narrowed_list, Text.trim_empty_narrow]
  cases written : Text.occurs ignoreMark.toList entity.text.toList with
  | true => simp only [inside written, Bool.or_true]
  | false => rw [Bool.or_false]

-- The narrow form keeps an entity out that was kept out, and one more: the one whose mark it shows.
theorem skipped_by_narrowed (entity : Entity) (id : String) :
    id ∈ skippedBy entity.halfWidth ↔
      id ∈ skippedBy entity ∨
        (id = entity.uuid ∧ (isSupported entity = true ∧ entity.type ≠ sectionEntity) ∧ hidesMark entity = true) := by
  have supported : isSupported entity.halfWidth = isSupported entity := rfl
  have type : entity.halfWidth.type = entity.type := rfl
  have image : entity.halfWidth.isImage = entity.isImage := rfl
  have children : entity.halfWidth.children = entity.children := rfl
  have uuid : entity.halfWidth.uuid = entity.uuid := rfl
  simp only [skippedBy, supported, type, image, children, uuid, demo_narrowed, idle_narrowed, hidesMark]
  by_cases known : isSupported entity = true
  · by_cases isSection : entity.type = sectionEntity
    · simp [known, isSection]
    · cases isImage : entity.isImage <;> cases isIdle entity <;>
        cases Text.occurs ignoreMark.toList (Text.narrow entity.text.toList) <;> simp [known, isSection]
  · simp [known]

section Shown

variable (entities : List Entity) (shown : ∀ entity ∈ retained entities, hidesMark entity = false)

include shown

theorem skipped_narrowed (id : String) :
    (skipped (entities.map Entity.halfWidth)).contains id = (skipped entities).contains id := by
  rw [Bool.eq_iff_iff, List.contains_iff_mem, List.contains_iff_mem, mem_skipped, mem_skipped]
  constructor
  · rintro ⟨_, member, skips⟩
    obtain ⟨entity, present, rfl⟩ := List.mem_map.mp member
    rcases (skipped_by_narrowed entity id).mp skips with before | ⟨rfl, _, hidden⟩
    · exact ⟨entity, present, before⟩
    · by_contra free
      have keeps : entity ∈ retained entities :=
        List.mem_filter.mpr ⟨present, by simpa using fun out => free ((mem_skipped entities entity.uuid).mp out)⟩
      rw [shown entity keeps] at hidden
      cases hidden
  · rintro ⟨entity, present, skips⟩
    exact ⟨entity.halfWidth, List.mem_map_of_mem present, (skipped_by_narrowed entity id).mpr (.inl skips)⟩

theorem retained_narrowed : retained (entities.map Entity.halfWidth) = (retained entities).map Entity.halfWidth := by
  rw [retained, List.filter_map, retained]
  congr 1
  refine List.filter_congr fun entity _ => ?_
  rw [Function.comp_apply, skipped_narrowed entities shown]
  rfl

theorem placement_narrowed : placement (entities.map Entity.halfWidth) = placement entities := by
  have points : ∀ some : List Entity, pointsOf (some.map Entity.halfWidth) = pointsOf some := by
    intro some
    induction some with
    | nil => rfl
    | cons entity rest ih =>
        rw [List.map_cons, pointsOf, pointsOf, ih]
        rfl
  rw [placement, retained_narrowed entities shown, points, placement]

theorem start_narrowed : start? (entities.map Entity.halfWidth) = start? entities := by
  have highest : ∀ (some : List Entity) best, (some.map Entity.halfWidth).foldl higher best = some.foldl higher best := by
    intro some best
    rw [List.foldl_map]
    rfl
  have marked : hasStartMark ∘ Entity.halfWidth = hasStartMark := funext start_mark_narrowed
  rw [start?, retained_narrowed entities shown, highest, List.find?_map, marked, start?]
  cases (retained entities).find? hasStartMark <;> rfl

theorem network_narrowed (links : List Association) (memory : Memory) :
    (network ⟨entities.map Entity.halfWidth, links⟩).resolveAll memory = (network ⟨entities, links⟩).resolveAll memory := by
  have ids : (entities.map Entity.halfWidth).map (·.uuid) = entities.map (·.uuid) := List.map_map
  have same : (network ⟨entities.map Entity.halfWidth, links⟩).entities = (network ⟨entities, links⟩).entities :=
    congrArg List.eraseDups ids
  exact Network.resolve_all_same _ _ same rfl (skipped_narrowed entities shown) memory

end Shown

theorem add_node_narrowed (placement : Placement) (successors : List (String × List String)) (state : Import)
    (entity : Entity) :
    addNode placement successors state entity.halfWidth = addNode placement successors state entity := by
  rw [addNode, addNode, Entity.halfWidth, Text.narrowed_twice]
  rfl

def kept (document : Json) : List Entity :=
  match readContent document with
  | .ok content => retained content.entities
  | .error _ => []

theorem load_narrowed (document : Json) (template : Attempt Json)
    (shown : ∀ entity ∈ kept document, hidesMark entity = false) :
    load (narrowDocument document) template = load document template := by
  cases document with
  | obj entries =>
      have contents := read_content_narrowed (.obj entries)
      have tables : tableIn (Json.mapFields narrowEntities entries) = tableIn entries := by
        rw [tableIn, Json.get_map_fields _ "variables" entries (narrow_entities_other "variables" (by decide)), tableIn]
      rw [narrowDocument] at contents ⊢
      rw [load, load, contents]
      cases read : readContent (.obj entries) with
      | error fault => rfl
      | ok content =>
          obtain ⟨entities, links⟩ := content
          have shown : ∀ entity ∈ retained entities, hidesMark entity = false := by simpa only [kept, read] using shown
          have ids : (entities.map Entity.halfWidth).map (·.uuid) = entities.map (·.uuid) := List.map_map
          have leftOut : (skipped (entities.map Entity.halfWidth)).contains = (skipped entities).contains :=
            funext (skipped_narrowed entities shown)
          have nodes : ∀ placement successors,
              ((retained entities).map Entity.halfWidth).foldlM (addNode placement successors) ⟨[], {}, 0⟩ =
                (retained entities).foldlM (addNode placement successors) ⟨[], {}, 0⟩ := by
            intro placement successors
            simp only [List.foldlM_map, add_node_narrowed]
          simp only [Except.map, bind, Except.bind, Content.halfWidth, tables, ids, leftOut, nodes,
            placement_narrowed entities shown, retained_narrowed entities shown, start_narrowed entities shown,
            network_narrowed entities shown]
  | _ => rfl

theorem hidden_supported (entities : List Entity) (entity : Entity) (member : entity ∈ retained entities) :
    isSupported entity = true ∧ entity.type ≠ sectionEntity := by
  obtain ⟨present, free⟩ := List.mem_filter.mp member
  have free : entity.uuid ∉ skippedBy entity := by
    rw [Bool.not_eq_true', List.contains_eq_mem, decide_eq_false_iff_not, mem_skipped] at free
    exact fun skips => free ⟨entity, present, skips⟩
  cases known : isSupported entity with
  | false => simp [skippedBy, known] at free
  | true => exact ⟨rfl, fun isSection => by simp [skippedBy, known, isSection] at free⟩

theorem wide_marks_alone_matter (document : Json) (template : Attempt Json) :
    ((∀ entity ∈ kept document, hidesMark entity = false) →
      load (narrowDocument document) template = load document template) ∧
    ∀ entity ∈ kept document, hidesMark entity = true →
      (∀ graph, load document template = .ok graph → entity.uuid ∈ graph.ids) ∧
      ∀ graph, load (narrowDocument document) template = .ok graph →
        entity.uuid ∈ graph.diagnostics.skipped ∧ entity.uuid ∉ graph.ids := by
  refine ⟨load_narrowed document template, fun entity member hidden => ⟨fun graph loaded => ?_, fun graph loaded => ?_⟩⟩
  · obtain ⟨content, imported, steps⟩ := load_steps document template graph loaded
    rw [steps_ids document graph content imported steps]
    rw [kept, steps.read] at member
    exact List.mem_map_of_mem member
  · obtain ⟨content, imported, steps⟩ := load_steps _ template graph loaded
    have read := steps.read
    rw [read_content_narrowed, attempt_map_ok] at read
    obtain ⟨written, read, rfl⟩ := read
    rw [kept, read] at member
    have present : entity.halfWidth ∈ written.entities.map Entity.halfWidth :=
      List.mem_map_of_mem (List.mem_of_mem_filter member)
    have skips : entity.uuid ∈ skippedBy entity.halfWidth :=
      (skipped_by_narrowed entity entity.uuid).mpr (.inr ⟨rfl, hidden_supported written.entities entity member, hidden⟩)
    have out : entity.uuid ∈ skipped (written.entities.map Entity.halfWidth) := (mem_skipped _ _).mpr ⟨_, present, skips⟩
    rw [steps_ids _ graph _ imported steps, retained_ids, steps.skipped]
    refine ⟨List.mem_filter.mpr ⟨List.mem_map.mpr ⟨_, present, rfl⟩, List.contains_iff_mem.mpr out⟩, fun inside => ?_⟩
    have free := (List.mem_filter.mp inside).2
    rw [Bool.not_eq_true', List.contains_eq_mem, decide_eq_false_iff_not] at free
    exact free out

def wideText (text : String) : Json :=
  .obj [("entities", .arr [entityItem (.str "a") textEntity text]), ("associations", .arr [])]

theorem wide_choice_imported_alike :
    ∃ graph, load (wideText "［选项］去") (.ok (.arr [])) = .ok graph ∧
      load (narrowDocument (wideText "［选项］去")) (.ok (.arr [])) = .ok graph ∧ graph.ids = ["a"] := by
  have alike := (wide_marks_alone_matter (wideText "［选项］去") (.ok (.arr []))).1 (by decide +kernel)
  have ids : (load (wideText "［选项］去") (.ok (.arr []))).toOption.map Graph.ids = some ["a"] := by decide +kernel
  cases loaded : load (wideText "［选项］去") (.ok (.arr [])) with
  | error fault =>
      rw [loaded] at ids
      cases ids
  | ok graph =>
      rw [loaded] at ids
      exact ⟨graph, rfl, alike.trans loaded, Option.some.inj ids⟩

theorem wide_mark_overlooked :
    load (narrowDocument (wideText "［X］注")) (.ok (.arr [])) ≠ load (wideText "［X］注") (.ok (.arr [])) := by
  intro same
  have ids := congrArg (fun loaded => loaded.toOption.map Graph.ids) same
  have seen : (load (narrowDocument (wideText "［X］注")) (.ok (.arr []))).toOption.map Graph.ids = some [] := by
    decide +kernel
  have overlooked : (load (wideText "［X］注") (.ok (.arr []))).toOption.map Graph.ids = some ["a"] := by decide +kernel
  simp [seen, overlooked] at ids

end Interchange

end TaggedStory
