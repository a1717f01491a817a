import TaggedStory.Proofs.Catalog.Collecting
/-!
What a collector reads, as finds: a raw name each, with what the place it stands at says of its entry. Every call, be it a
name, a text or a node, comes down to the finds it makes, one after the other.
-/
set_option autoImplicit false

namespace TaggedStory

open Text Catalog

-- What a find says about the entry of its name.
inductive Hint where
  | name
  | accumulative
  | bar
  | most (value : String)
  | least (value : String)

def Hint.change : Hint → Entry → Entry
  | .name, entry => entry
  | .accumulative, entry => Collector.accumulate entry
  | .bar, entry => { entry with isOnBar := true }
  | .most value, entry => { entry with maxValue := some value }
  | .least value, entry => { entry with minValue := some value }

structure Find where
  raw : List Char
  hint : Hint := .name

theorem Hint.change_name (hint : Hint) (entry : Entry) : (hint.change entry).name = entry.name := by
  cases hint <;> rfl

namespace Collector

-- The finds of a text and of a node, in the order in which they are made.
def textFinds (text : List Char) : List Find :=
  (barName.first? text).toList.map (fun found => ⟨found.value, .bar⟩) ++
  (maxLimit.first? text).toList.map (fun found => ⟨found.value.1, .most (String.ofList (trim found.value.2))⟩) ++
  (minLimit.first? text).toList.map (fun found => ⟨found.value.1, .least (String.ofList (trim found.value.2))⟩) ++
  (increment.all text).map (fun found => ⟨found.value, .name⟩) ++
  (assignment.all text).map (fun found => ⟨found.value, .name⟩) ++
  (accumulated.all text).map (fun found => ⟨found.value, .accumulative⟩) ++
  (guillemetNames text).map (fun raw => ⟨raw, .name⟩) ++
  (randomNames text).map (fun raw => ⟨raw, .name⟩) ++
  (braceNames text).map (fun raw => ⟨raw, .name⟩)

def nodeFinds (node : Node) : List Find :=
  node.body.conditions.map (fun condition => ⟨condition.name.toList, .name⟩) ++
  node.body.effects.map (fun effect => ⟨effect.name.toList, if effect.isAccumulative then .accumulative else .name⟩)

def see (collector : Collector) (find : Find) : Collector :=
  collector.note find.raw find.hint.change

section Finds

variable (collector : Collector)

theorem update_same (name : String) : collector.update name (fun entry => entry) = collector := by
  simp [update]

theorem register_seen (raw : List Char) : collector.register raw = collector.see ⟨raw, .name⟩ := by
  rw [register, see, note]
  cases nameOf? raw with
  | none => rfl
  | some name => exact (update_same _ name).symm

theorem register_all_seen (names : List (List Char)) :
    collector.registerAll names = (names.map fun raw => (⟨raw, .name⟩ : Find)).foldl see collector := by
  rw [registerAll, List.foldl_map]
  exact congrFun (congrFun (congrArg List.foldl (funext fun c => funext (register_seen c))) collector) names

theorem accumulate_all_seen (names : List (List Char)) :
    collector.accumulateAll names = (names.map fun raw => (⟨raw, .accumulative⟩ : Find)).foldl see collector := by
  rw [accumulateAll, List.foldl_map]
  rfl

theorem add_text_seen (text : List Char) : collector.addText text = (textFinds text).foldl see collector := by
  have bar : ∀ c : Collector, c.noteFirst barName text (fun entry => { entry with isOnBar := true }) =
      ((barName.first? text).toList.map fun found => (⟨found.value, .bar⟩ : Find)).foldl see c := by
    intro c
    rw [noteFirst]
    cases barName.first? text <;> rfl
  have most : ∀ c : Collector, c.noteLimit maxLimit text (fun value entry => { entry with maxValue := some value }) =
      ((maxLimit.first? text).toList.map fun found =>
        (⟨found.value.1, .most (String.ofList (trim found.value.2))⟩ : Find)).foldl see c := by
    intro c
    rw [noteLimit]
    cases maxLimit.first? text <;> rfl
  have least : ∀ c : Collector, c.noteLimit minLimit text (fun value entry => { entry with minValue := some value }) =
      ((minLimit.first? text).toList.map fun found =>
        (⟨found.value.1, .least (String.ofList (trim found.value.2))⟩ : Find)).foldl see c := by
    intro c
    rw [noteLimit]
    cases minLimit.first? text <;> rfl
  simp only [addText, textFinds, List.foldl_append, bar, most, least, register_all_seen, accumulate_all_seen, List.map_map]
  rfl

theorem add_required_seen (conditions : List Condition) (effects : List Effect) :
    (collector.addConditions conditions).addEffects effects =
      (conditions.map (fun condition => (⟨condition.name.toList, .name⟩ : Find)) ++ effects.map fun effect =>
        (⟨effect.name.toList, if effect.isAccumulative then .accumulative else .name⟩ : Find)).foldl see collector := by
  have effect : addEffect = fun c effect =>
      c.see ⟨effect.name.toList, if effect.isAccumulative then .accumulative else .name⟩ := by
    funext c effect
    rw [addEffect]
    split
    · rfl
    · exact register_seen c _
  rw [addEffects, addConditions, List.foldl_append, List.foldl_map, List.foldl_map, effect]
  simp only [register_seen]

end Finds

-- Nodes of the other kinds are read only if no field stands where those have their conditions and effects.
def isReadable (node : Node) : Bool :=
  match node.body with
  | .video _ | .choice _ | .card _ => true
  | _ => !(Json.get "conditions" node.header.extras).isTrue && !(Json.get "effects" node.header.extras).isTrue

theorem check_extra_ok (name : String) (extras : Json.Fields) :
    checkExtra name extras = .ok () ↔ (Json.get name extras).isTrue = false := by
  rw [checkExtra]
  cases Json.get name extras with
  | int value => by_cases zero : value = 0 <;> simp [zero, Json.isTrue]
  | bool value => cases value <;> simp [Json.isTrue]
  | float value => cases zero : value.isZero <;> simp [zero, Json.isTrue]
  | null => simp [Json.isTrue]
  | str value => by_cases empty : value = "" <;> simp [empty, Json.isTrue]
  | arr items => cases items <;> simp [Json.isTrue]
  | obj fields => cases fields <;> simp [Json.isTrue]

theorem add_node_seen (collector : Collector) (node : Node) (readable : isReadable node = true) :
    collector.addNode node = .ok ((nodeFinds node).foldl see collector) := by
  rw [isReadable] at readable
  rw [addNode, nodeFinds]
  cases body : node.body with
  | video inner | choice inner | card inner => exact congrArg Except.ok (add_required_seen collector _ _)
  | _ =>
      simp only [body, Bool.and_eq_true, Bool.not_eq_true'] at readable
      rw [(check_extra_ok _ _).mpr readable.1, (check_extra_ok _ _).mpr readable.2]
      rfl

theorem add_node_refused (collector : Collector) (node : Node) (unreadable : isReadable node = false) :
    ∃ fault, collector.addNode node = .error fault := by
  cases added : collector.addNode node with
  | error fault => exact ⟨fault, rfl⟩
  | ok next =>
      refine absurd unreadable (Bool.not_eq_false _ ▸ ?_)
      rw [isReadable]
      rw [addNode] at added
      cases body : node.body with
      | video _ | choice _ | card _ => rfl
      | _ =>
          simp only [body, attempt_bind_ok, attempt_pure_ok] at added
          obtain ⟨_, first, _, second, _⟩ := added
          simp [(check_extra_ok _ _).mp first, (check_extra_ok _ _).mp second]

-- What a caller can ask of a collector.
inductive Call where
  | register (raw : String)
  | text (read : String)
  | node (node : Node)
  | collect (text : String) (node : Option Node)

-- A call that fails leaves the collector as it was.
def apply (collector : Collector) : Call → Collector
  | .register raw => collector.register raw.toList
  | .text read => collector.addText read.toList
  | .node node => (collector.addNode node).toOption.getD collector
  | .collect text node => (collector.add text.toList node).toOption.getD collector

def run (calls : List Call) : Collector :=
  calls.foldl apply {}

def Call.finds : Call → List Find
  | .register raw => [⟨raw.toList, .name⟩]
  | .text read => textFinds read.toList
  | .node given => if isReadable given then nodeFinds given else []
  | .collect read none => textFinds read.toList
  | .collect read (some given) => if isReadable given then nodeFinds given ++ textFinds read.toList else []

theorem apply_seen (collector : Collector) (call : Call) : collector.apply call = call.finds.foldl see collector := by
  cases call with
  | register raw => rw [apply, Call.finds, register_seen, List.foldl_cons, List.foldl_nil]
  | text read => rw [apply, Call.finds, add_text_seen]
  | node given =>
      rw [apply, Call.finds]
      cases readable : isReadable given with
      | true => rw [add_node_seen collector given readable]; rfl
      | false =>
          obtain ⟨fault, refused⟩ := add_node_refused collector given readable
          rw [refused]
          rfl
  | collect read given =>
      cases given with
      | none =>
          rw [apply, add, Call.finds, ← add_text_seen]
          rfl
      | some given =>
          rw [apply, add, Call.finds]
          cases readable : isReadable given with
          | true =>
              rw [add_node_seen collector given readable, if_pos rfl, List.foldl_append, ← add_text_seen]
              rfl
          | false =>
              obtain ⟨fault, refused⟩ := add_node_refused collector given readable
              rw [refused]
              rfl

theorem run_seen (calls : List Call) : run calls = (calls.flatMap Call.finds).foldl see {} := by
  rw [run, List.foldl_flatMap]
  exact congrFun (congrFun (congrArg List.foldl (funext fun c => funext (apply_seen c))) {}) calls

end Collector

end TaggedStory
