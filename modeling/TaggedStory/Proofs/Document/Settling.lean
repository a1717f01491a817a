import TaggedStory.Proofs.Document.Entries
import TaggedStory.Proofs.Document.Return
import TaggedStory.Proofs.Story.Stops
/-!
A document gives a graph or is refused as malformed, unless it has one of a few values that stop the reading with
another fault: these are named here, and nothing else does.
-/
set_option autoImplicit false

namespace TaggedStory

open Decimal

namespace Attempt

-- A graph, or a document whose outer structure is refused.
def Settles (attempt : Attempt Graph) : Prop :=
  (∃ graph, attempt = .ok graph) ∨ ∃ problem, attempt = .error (.malformed problem)

-- Either the attempt returns, or it stops with a fault that does not refuse the document.
inductive Ends {α : Type} (attempt : Attempt α) : Bool → Prop
  | returns (value : α) (done : attempt = .ok value) : Ends attempt false
  | escapes (fault : Fault) (stopped : attempt = .error fault) (other : ∀ problem, fault ≠ .malformed problem) : Ends attempt true

namespace Ends

variable {α β σ : Type} {attempt : Attempt α} {next : α → Attempt β} {stuck later : Bool}

theorem bind (first : Ends attempt stuck) (second : ∀ value, attempt = .ok value → Ends (next value) later) :
    Ends (attempt >>= next) (stuck || later) := by
  cases first with
  | returns value done =>
      rw [done]
      exact second value done
  | escapes fault stopped other =>
      rw [stopped]
      exact .escapes fault rfl other

theorem known (value : α) (done : attempt = .ok value) (rest : Ends (next value) later) : Ends (attempt >>= next) later := by
  rw [done]
  exact rest

theorem final (value : α) : Ends (pure value) false :=
  .returns value rfl

theorem map (change : α → β) (first : Ends attempt stuck) : Ends (Except.map change attempt) stuck := by
  cases first with
  | returns value done =>
      rw [done]
      exact .returns _ rfl
  | escapes fault stopped other =>
      rw [stopped]
      exact .escapes fault rfl other

theorem fold (step : σ → α → Attempt σ) (stops : α → Bool) (items : List α)
    (each : ∀ state, ∀ item ∈ items, Ends (step state item) (stops item)) (state : σ) :
    Ends (items.foldlM step state) (items.any stops) := by
  induction items generalizing state with
  | nil => exact .returns state rfl
  | cons item rest ih =>
      rw [List.foldlM_cons, List.any_cons]
      exact bind (each state item List.mem_cons_self) fun next _ =>
        ih (fun state other member => each state other (List.mem_cons_of_mem _ member)) next

theorem settles {attempt : Attempt Graph} (ends : Ends attempt stuck) : attempt.Settles ↔ stuck = false := by
  cases ends with
  | returns graph done => exact ⟨fun _ => rfl, fun _ => .inl ⟨graph, done⟩⟩
  | escapes fault stopped other =>
      constructor
      · rintro (⟨graph, done⟩ | ⟨problem, refused⟩)
        · cases stopped.symm.trans done
        · exact absurd (Except.error.inj (stopped.symm.trans refused)) (other problem)
      · intro impossible
        cases impossible

end Ends

end Attempt

open Attempt (Ends)

theorem coordinate_ends (value : Json) : Ends (coordinate? value) value.isBeyond := by
  cases value with
  | int whole =>
      rw [coordinate?, Json.isBeyond]
      cases (Double.ofInt whole).isFinite with
      | true => exact .returns _ rfl
      | false => exact .escapes .tooLarge rfl fun _ same => by cases same
  | _ => exact .returns _ rfl

-- A decimal that is infinite or no number.
def Json.isBoundless : Json → Bool
  | .float value => !value.isFinite
  | _ => false

namespace VariableTable

theorem member_ends {α : Type} (ofWord? : String → Option α) (ofNumber? : Int → Option α) (fallback : α) (value : Json) :
    Ends (member ofWord? ofNumber? fallback value) value.isBoundless := by
  cases value with
  | float value =>
      cases value with
      | nan => exact .escapes .noNumber rfl fun _ same => by cases same
      | infinite negative => exact .escapes .tooLarge rfl fun _ same => by cases same
      | finite negative mantissa exponent => exact .returns _ rfl
  | str text =>
      rw [member]
      cases ofWord? text with
      | some found => exact .returns found rfl
      | none => exact .returns _ rfl
  | _ => exact .returns _ rfl

theorem kind_ends (entries : Json.Fields) : Ends (kindOf entries) (Json.get "type" entries).isBoundless := by
  rw [kindOf, Json.get]
  cases Json.lookup? "type" entries with
  | none => exact .returns _ rfl
  | some value => exact member_ends _ _ _ value

theorem persistence_ends (entries : Json.Fields) :
    Ends (persistenceOf entries) (Json.get "persistenceType" entries).isBoundless := by
  rw [persistenceOf, Json.get]
  cases Json.lookup? "persistenceType" entries with
  | none => exact .returns _ rfl
  | some value => exact member_ends _ _ _ value

-- An entry with a name whose type or persistence has no whole part.
def isStuck : Json → Bool
  | .obj entries => (Json.get "name" entries).isTrue &&
      ((Json.get "type" entries).isBoundless || (Json.get "persistenceType" entries).isBoundless)
  | _ => false

theorem entry_ends (raw : Json) : Ends (readEntry raw) (isStuck raw) := by
  cases raw with
  | obj entries =>
      rw [readEntry, isStuck]
      cases (Json.get "name" entries).isTrue with
      | false => exact .returns none rfl
      | true =>
          have fields := Ends.bind (kind_ends entries) fun kind _ =>
            Ends.bind (persistence_ends entries) fun persistence _ => Ends.returns
              (Variable.schema.readFields (recordFields entries kind persistence)).toOption rfl
          rw [Bool.or_false] at fields
          exact fields
  | _ => exact .returns none rfl

theorem entries_end (raws : List Json) : Ends (readEntries raws) (raws.any isStuck) := by
  induction raws with
  | nil => exact .returns [] rfl
  | cons raw rest ih =>
      have both := Ends.bind (entry_ends raw) fun entry _ => Ends.bind ih fun others _ =>
        Ends.final (entry.toList ++ others)
      rw [Bool.or_false] at both
      exact both

-- A table with such an entry.
def stops : Json → Bool
  | .arr raws => raws.any isStuck
  | _ => false

theorem read_ends (value : Json) : Ends (read value) (stops value) := by
  cases value with
  | arr raws => exact entries_end raws
  | _ => exact .returns [] rfl

end VariableTable

namespace StoryData

theorem settle_ends (attempt : Attempt Node) (stuck : Bool) (stop : attempt.stop? = if stuck then some .tooLarge else none) :
    Ends (settle attempt) stuck := by
  cases attempt with
  | ok node =>
      cases stuck with
      | true => cases stop
      | false => exact .returns _ rfl
  | error fault =>
      cases fault with
      | invalid issues =>
          cases stuck with
          | true => cases stop
          | false => exact .returns none rfl
      | tooLarge =>
          cases stuck with
          | true => exact .escapes .tooLarge rfl fun _ same => by cases same
          | false => cases stop
      | _ => cases stuck <;> cases stop

theorem all_end (read : Json → Attempt (Option Node)) (label : Nat → Json → Json) (stops : Json → Bool)
    (each : ∀ raw, Ends (read raw) (stops raw)) (index : Nat) (state : Loaded) (raws : List Json) :
    Ends (takeAll read label index state raws) (raws.any stops) := by
  induction raws generalizing index state with
  | nil => exact .returns state rfl
  | cons raw rest ih => exact Ends.bind (each raw) fun found _ => ih _ _

-- An entry with a coordinate beyond every decimal.
def isStuck (kind : Kind) : Json → Bool
  | .obj fields => (Node.trapsOf kind).any fun trap => trap.isIn fields
  | _ => false

theorem entry_ends (kind : Kind) (raw : Json) : Ends (entry kind raw) (isStuck kind raw) := by
  cases raw with
  | obj fields =>
      have free : ∀ trap ∈ Node.trapsOf kind, "kind" ≠ trap.key ∧ "kind" ≠ trap.name := by
        cases kind <;> decide
      have same : (Node.trapsOf kind).any (fun trap => trap.isIn (Json.put "kind" (.str kind.word) fields)) =
          (Node.trapsOf kind).any fun trap => trap.isIn fields := by
        rw [Bool.eq_iff_iff, List.any_eq_true, List.any_eq_true]
        refine exists_congr fun trap => and_congr_right fun member => ?_
        rw [Trap.isIn, Trap.isIn, Json.lookup_put, Json.lookup_put, if_neg (free trap member).1, if_neg (free trap member).2]
      refine settle_ends _ _ ?_
      rw [Node.read_stop, same]
      rfl
  | _ => exact .returns none rfl

-- The entries of the given lists, of which one is stuck.
def stuckLists (given : List (Kind × String × List Json)) : Bool :=
  given.any fun list => list.2.2.any (isStuck list.1)

theorem lists_end (given : List (Kind × String × List Json)) (state : Loaded) :
    Ends (given.foldlM (fun state list => addNodes list.1 list.2.1 0 state list.2.2) state) (stuckLists given) :=
  Ends.fold _ (fun list => list.2.2.any (isStuck list.1)) given (fun state list _ => by
    rw [add_nodes_entries]
    exact all_end _ _ _ (entry_ends list.1) 0 state list.2.2) state

theorem table_ends (name : String) (fields : Json.Fields) :
    Ends (tableIn name fields) (VariableTable.stops (Json.get name fields)) := by
  rw [tableIn]
  cases Json.get name fields with
  | arr items => cases items with
    | nil => exact .returns [] rfl
    | cons item rest => exact VariableTable.read_ends (.arr (item :: rest))
  | _ =>
      rw [Json.orElse]
      split
      · exact VariableTable.read_ends _
      · exact .returns [] rfl

-- A start that is set, but to no text.
def stuckStart (fields : Json.Fields) : Bool :=
  match Json.get "startNodeId" fields with
  | .str _ => false
  | value => value.isTrue

theorem start_ends (fields : Json.Fields) : Ends (startOf fields) (stuckStart fields) := by
  rw [startOf, stuckStart]
  cases Json.get "startNodeId" fields with
  | str start =>
      cases (Json.str start).isTrue with
      | true => exact .returns _ rfl
      | false => exact .returns none rfl
  | _ =>
      simp only
      split
      · rename_i named
        rw [named]
        exact .escapes _ rfl fun _ same => by cases same
      · rename_i unset
        rw [Bool.eq_false_iff.mpr unset]
        exact .returns none rfl

-- What stops the reading of a document with lists of nodes.
def isBlocked : Json → Bool
  | .obj fields => (refusedIn fields).isEmpty && !(presentIn fields).isEmpty &&
      (stuckLists (presentIn fields) || VariableTable.stops (Json.get "variables" fields) ||
        VariableTable.stops (Json.get "supplementalVariables" fields) || stuckStart fields)
  | _ => false

theorem load_ends (fields : Json.Fields) (given : List (Kind × String × List Json)) (found : lists fields = .ok given) :
    Ends (load (.obj fields)) (stuckLists given || (VariableTable.stops (Json.get "variables" fields) ||
      (VariableTable.stops (Json.get "supplementalVariables" fields) || (stuckStart fields || false)))) :=
  Ends.known given found <| Ends.bind (lists_end given {}) fun loaded _ => Ends.bind (table_ends "variables" fields) fun table _ =>
    Ends.bind (table_ends "supplementalVariables" fields) fun supplemental _ =>
    Ends.bind (start_ends fields) fun start _ => Ends.final (graphOf fields loaded table supplemental start)

theorem load_settles (document : Json) : (load document).Settles ↔ isBlocked document = false := by
  cases document with
  | obj fields =>
      have split := lists_split fields
      rw [isBlocked]
      cases refused : refusedIn fields with
      | cons name rest =>
          rw [refused] at split
          exact ⟨fun _ => rfl, fun _ => .inr ⟨_, by rw [load, split]; rfl⟩⟩
      | nil =>
          rw [refused] at split
          cases present : presentIn fields with
          | nil =>
              rw [present] at split
              exact ⟨fun _ => rfl, fun _ => .inr ⟨_, by rw [load, split]; rfl⟩⟩
          | cons list rest =>
              rw [present] at split
              have settled := (load_ends fields (list :: rest) split).settles
              simpa only [List.isEmpty_nil, List.isEmpty_cons, Bool.not_false, Bool.true_and, Bool.or_assoc, Bool.or_false]
                using settled
  | _ => exact ⟨fun _ => rfl, fun _ => .inr ⟨_, rfl⟩⟩

end StoryData

namespace VisualGraph

-- An entry whose type is no single value, or with a coordinate beyond every decimal.
def isStuck (edges : List (String × String)) : Json → Bool
  | .obj fields =>
    match Json.get "type" fields with
    | .str type => (kindOf? type).any fun kind =>
        (Node.trapsOf kind).any fun trap => trap.isIn (recordFields kind edges fields)
    | .arr _ => true
    | .obj _ => true
    | _ => false
  | _ => false

theorem entry_ends (edges : List (String × String)) (raw : Json) : Ends (entry edges raw) (isStuck edges raw) := by
  cases raw with
  | obj fields =>
      rw [entry, kindIn?, isStuck]
      cases Json.get "type" fields with
      | str type =>
          dsimp only
          cases kindOf? type with
          | none => exact .returns none rfl
          | some kind =>
              refine StoryData.settle_ends (Node.readAs kind (.obj (recordFields kind edges fields))) _ ?_
              rw [Node.read_stop]
              rfl
      | arr items => exact .escapes .wrongShape rfl fun _ same => by cases same
      | obj inner => exact .escapes .wrongShape rfl fun _ same => by cases same
      | _ => exact .returns none rfl
  | _ => exact .returns none rfl

-- What stops the reading of a document with nodes and edges.
def isBlocked : Json → Bool
  | .obj fields => (missingIn fields).isEmpty &&
      ((itemsOf (Json.get "nodes" fields)).any (isStuck (edgesIn fields)) ||
        VariableTable.stops (Json.get "variables" fields) || StoryData.stuckStart fields)
  | _ => false

theorem load_settles (document : Json) : (load document).Settles ↔ isBlocked document = false := by
  cases document with
  | obj fields =>
      rw [isBlocked]
      cases missing : missingIn fields with
      | cons name rest =>
          rw [missingIn] at missing
          exact ⟨fun _ => rfl, fun _ => .inr ⟨_, by rw [load, missing]; rfl⟩⟩
      | nil =>
          rw [missingIn] at missing
          have ended : Ends (load (.obj fields)) ((itemsOf (Json.get "nodes" fields)).any (isStuck (edgesIn fields)) ||
              (VariableTable.stops (Json.get "variables" fields) || (StoryData.stuckStart fields || false))) := by
            rw [load, missing]
            refine Ends.bind ?_ fun loaded _ => Ends.bind (StoryData.table_ends "variables" fields) fun table _ =>
              Ends.bind (StoryData.start_ends fields) fun start _ => Ends.final (StoryData.graphOf fields loaded table [] start)
            rw [add_nodes_entries]
            exact StoryData.all_end _ _ _ (entry_ends (edgesIn fields)) 0 {} _
          simpa only [List.isEmpty_nil, Bool.true_and, Bool.or_assoc, Bool.or_false] using ended.settles
  | _ => exact ⟨fun _ => rfl, fun _ => .inr ⟨_, rfl⟩⟩

end VisualGraph

namespace Interchange

-- An entity with a coordinate beyond every decimal.
def isStuck (entity : Entity) : Bool :=
  match entity.location with
  | y :: x :: _ => x.isBeyond || y.isBeyond
  | _ => false

-- The second coordinate is not looked at where the first is no number.
theorem point_ends (entity : Entity) : ∃ stuck, Ends entity.point? stuck ∧ (stuck = true → isStuck entity = true) := by
  rw [Entity.point?, isStuck]
  match entity.location with
  | [] => exact ⟨false, .returns none rfl, fun impossible => by cases impossible⟩
  | [_] => exact ⟨false, .returns none rfl, fun impossible => by cases impossible⟩
  | y :: x :: _ =>
      dsimp only
      have first := coordinate_ends x
      generalize x.isBeyond = beyond at first ⊢
      cases first with
      | escapes fault stopped other =>
          rw [stopped]
          exact ⟨true, .escapes fault rfl other, fun _ => rfl⟩
      | returns found done =>
          rw [done]
          cases found with
          | none => exact ⟨false, .returns none rfl, fun impossible => by cases impossible⟩
          | some value =>
              refine ⟨y.isBeyond || false, ?_, fun stuck => by rwa [Bool.or_false] at stuck⟩
              exact Ends.known (some value) rfl <| Ends.bind (coordinate_ends y) fun _ _ => Ends.final _

theorem points_end (entities : List Entity) :
    ∃ stuck, Ends (pointsOf entities) stuck ∧ (stuck = true → entities.any isStuck = true) := by
  induction entities with
  | nil => exact ⟨false, .returns [] rfl, fun impossible => by cases impossible⟩
  | cons entity rest ih =>
      obtain ⟨first, here, own⟩ := point_ends entity
      obtain ⟨later, onward, others⟩ := ih
      refine ⟨first || (later || false), ?_, fun stuck => ?_⟩
      · rw [pointsOf]
        exact Ends.bind here fun point _ => Ends.bind onward fun points _ => .returns _ rfl
      · rw [List.any_cons]
        rw [Bool.or_false, Bool.or_eq_true] at stuck
        rw [Bool.or_eq_true]
        exact stuck.imp own others

theorem apply_ends (placement : Placement) (entity : Entity) : Ends (placement.apply (.arr entity.location)) (isStuck entity) := by
  rw [isStuck]
  match entity.location with
  | [] => exact .returns _ rfl
  | [_] => exact .returns _ rfl
  | y :: x :: _ =>
      have both := Ends.bind (Ends.map (fun found => finiteOrZero (found.getD .zero)) (coordinate_ends x)) fun x _ =>
        Ends.bind (Ends.map (fun found => finiteOrZero (found.getD .zero)) (coordinate_ends y)) fun y _ =>
          Ends.final (placement.place x y)
      rw [Bool.or_false] at both
      exact both

theorem node_ends (placement : Placement) (successors : List (String × List String)) (state : Import) (entity : Entity)
    (legible : entity.isImage = false → Legible (Text.narrow entity.text.toList)) :
    Ends (addNode placement successors state entity) (isStuck entity) := by
  have placed := apply_ends placement entity
  generalize isStuck entity = stuck at placed ⊢
  cases placed with
  | escapes fault stopped other => exact .escapes fault (by rw [addNode, stopped]; rfl) other
  | returns position done =>
      obtain ⟨next, added⟩ := placed_added placement successors state entity legible position done
      exact .returns next added

theorem content_refused (document : Json) (fault : Fault) (refused : readContent document = .error fault) :
    ∃ problem, fault = .malformed problem := by
  unfold readContent at refused
  split at refused
  · split at refused
    · rw [linkItems] at refused
      split at refused
      all_goals first
        | cases refused; done
        | exact ⟨_, (Except.error.inj refused).symm⟩
    · exact ⟨_, (Except.error.inj refused).symm⟩
  · exact ⟨_, (Except.error.inj refused).symm⟩

-- What stops the reading of an interchange document.
def isBlocked : Json → Bool
  | .obj fields =>
    match readContent (.obj fields) with
    | .ok content => (retained content.entities).any isStuck || VariableTable.stops (tableIn fields)
    | .error _ => false
  | _ => false

-- No more digits than a number may have, in any text that is read as a node.
def LegibleEntities (document : Json) : Prop :=
  ∀ content, readContent document = .ok content →
    ∀ entity ∈ retained content.entities, entity.isImage = false → Legible (Text.narrow entity.text.toList)

theorem load_ends (fields : Json.Fields) (legible : LegibleEntities (.obj fields)) (content : Content)
    (read : readContent (.obj fields) = .ok content) : Ends (load (.obj fields) (.ok (.arr [])))
      ((retained content.entities).any isStuck || VariableTable.stops (tableIn fields)) := by
  obtain ⟨stuck, points, inside⟩ := points_end (retained content.entities)
  have ended : Ends (load (.obj fields) (.ok (.arr [])))
      (stuck || ((retained content.entities).any isStuck || (VariableTable.stops (tableIn fields) || (false || false)))) := by
    refine Ends.known content read ?_
    refine Ends.bind (Ends.map _ points) fun placement _ => ?_
    refine Ends.bind (Ends.fold _ isStuck _ (fun state entity member => ?_) _) fun imported _ => ?_
    · exact node_ends placement _ state entity (legible content read entity member)
    refine Ends.bind (VariableTable.read_ends _) fun explicit _ => Ends.bind ?_ fun template _ => .returns _ rfl
    rw [templateTable]
    cases explicit.isEmpty <;> exact .returns [] rfl
  cases stuck with
  | true =>
      rw [inside rfl]
      exact ended
  | false =>
      rw [Bool.or_false, Bool.or_false] at ended
      exact ended

theorem load_settles (document : Json) (legible : LegibleEntities document) :
    (load document (.ok (.arr []))).Settles ↔ isBlocked document = false := by
  cases document with
  | obj fields =>
      rw [isBlocked]
      cases read : readContent (.obj fields) with
      | error fault =>
          obtain ⟨problem, rfl⟩ := content_refused _ _ read
          exact ⟨fun _ => rfl, fun _ => .inr ⟨problem, by rw [load, read]; rfl⟩⟩
      | ok content => exact (load_ends fields legible content read).settles
  | _ => exact ⟨fun _ => rfl, fun _ => .inr ⟨_, rfl⟩⟩

end Interchange

theorem loading_settles (document : Json) :
    ((StoryData.load document).Settles ↔ StoryData.isBlocked document = false) ∧
    ((VisualGraph.load document).Settles ↔ VisualGraph.isBlocked document = false) ∧
    (Interchange.LegibleEntities document →
      ((Interchange.load document (.ok (.arr []))).Settles ↔ Interchange.isBlocked document = false)) :=
  ⟨StoryData.load_settles document, VisualGraph.load_settles document, Interchange.load_settles document⟩

-- Entities without a place, an id or a shape, and a table that is none.
def Interchange.scrawl : Json :=
  .obj [
    ("entities", .arr [
      .obj [("uuid", .str "a"), ("text", .str "[选项]去《10%》"), ("location", .arr [.str "left", .null])],
      .obj [("text", .str "丢")],
      .int 5]),
    ("variables", .str "none")]

theorem scrawl_settles : (Interchange.load Interchange.scrawl (.ok (.arr []))).Settles := by
  have legible : Interchange.LegibleEntities Interchange.scrawl := by
    intro content read
    obtain rfl := Except.ok.inj read
    intro entity member _
    rw [List.mem_singleton.mp member]
    exact show _ ≤ _ by decide
  exact ((loading_settles Interchange.scrawl).2.2 legible).mpr (by decide)

-- A variable whose type is infinite.
def StoryData.boundlessType : Json :=
  .obj [
    ("videoNodes", .arr []),
    ("variables", .arr [.obj [("name", .str "a"), ("type", .float (.infinite false))]])]

-- A node whose type is a list.
def VisualGraph.listedType : Json :=
  .obj [("nodes", .arr [.obj [("id", .str "a"), ("type", .arr [])]]), ("edges", .arr [])]

-- An entity beyond every decimal.
def Interchange.farAway : Json :=
  .obj [("entities", .arr [.obj [("uuid", .str "a"), ("text", .str "A"), ("location", .arr [.int (Int.pow 10 400), .int 0])]])]

theorem loading_escapes : ¬ (StoryData.load StoryData.boundlessType).Settles ∧
    ¬ (VisualGraph.load VisualGraph.listedType).Settles ∧
    ¬ (Interchange.load Interchange.farAway (.ok (.arr []))).Settles := by
  have legible : Interchange.LegibleEntities Interchange.farAway := by
    intro content read
    obtain rfl := Except.ok.inj read
    intro entity member _
    rw [List.mem_singleton.mp member]
    exact show _ ≤ _ by decide
  refine ⟨fun settled => ?_, fun settled => ?_, fun settled => ?_⟩
  · exact absurd ((StoryData.load_settles _).mp settled) (by decide)
  · exact absurd ((VisualGraph.load_settles _).mp settled) (by decide)
  · exact absurd ((Interchange.load_settles _ legible).mp settled) (by decide +kernel)

end TaggedStory
