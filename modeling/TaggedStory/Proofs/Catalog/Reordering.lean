import TaggedStory.Proofs.Catalog.Discovery
/-!
The order in which texts and nodes are read does not matter for which variables there are and what is known of them: what a
run of finds says about a name, its limits apart, is said by the finds it has, in whatever order.
-/
set_option autoImplicit false

namespace TaggedStory

open Catalog

-- Tables of the same variables, each once, which may differ in their numbers and limits.
structure SameVariables (table other : List Variable) : Prop where
  distinct : (table.map Variable.name).Nodup ∧ (other.map Variable.name).Nodup
  names : ∀ name, name ∈ table.map Variable.name ↔ name ∈ other.map Variable.name
  alike : ∀ item ∈ table, ∀ twin ∈ other, item.name = twin.name →
    twin = { item with order := twin.order, minValue := twin.minValue, maxValue := twin.maxValue }

namespace Collector

-- The finds of a whole inference: those of all texts, then those of all nodes.
def inferFinds (texts : List String) (nodes : List Node) : List Find :=
  texts.flatMap (fun text => textFinds text.toList) ++ nodes.flatMap nodeFinds

def seen (finds : List Find) : Collector :=
  finds.foldl see {}

section Inference

theorem add_texts_seen (texts : List String) (collector : Collector) :
    texts.foldl (fun c text => c.addText text.toList) collector =
      (texts.flatMap fun text => textFinds text.toList).foldl see collector := by
  simp only [add_text_seen, List.foldl_flatMap]

theorem add_nodes_ok (nodes : List Node) (collector result : Collector) : nodes.foldlM addNode collector = .ok result ↔
    (∀ node ∈ nodes, isReadable node = true) ∧ result = (nodes.flatMap nodeFinds).foldl see collector := by
  induction nodes generalizing collector with
  | nil =>
      rw [List.foldlM_nil, attempt_pure_ok]
      exact ⟨fun same => ⟨List.forall_mem_nil _, same.symm⟩, fun read => read.2.symm⟩
  | cons node rest ih =>
      rw [List.foldlM_cons, List.forall_mem_cons, List.flatMap_cons, List.foldl_append]
      cases readable : isReadable node with
      | true =>
          rw [add_node_seen collector node readable, eq_self, true_and]
          exact ih _
      | false =>
          obtain ⟨fault, refused⟩ := add_node_refused collector node readable
          simp [refused, bind, Except.bind]

theorem infer_ok (texts : List String) (nodes : List Node) (table : List Variable) : infer texts nodes = .ok table ↔
    (∀ node ∈ nodes, isReadable node = true) ∧ table = (seen (inferFinds texts nodes)).toVariables := by
  simp only [infer, attempt_map_ok, add_nodes_ok, add_texts_seen, seen, inferFinds, List.foldl_append]
  constructor
  · rintro ⟨_, ⟨readable, rfl⟩, rfl⟩
    exact ⟨readable, rfl⟩
  · rintro ⟨readable, rfl⟩
    exact ⟨_, ⟨readable, rfl⟩, rfl⟩

theorem infer_returns (texts : List String) (nodes : List Node) :
    (∃ table, infer texts nodes = .ok table) ↔ ∀ node ∈ nodes, isReadable node = true := by
  simp only [infer_ok, exists_and_left, exists_eq, and_true]

end Inference

section Order

variable (finds others : List Find)

theorem seen_names (name : String) : name ∈ (seen finds).names ↔ ∃ find ∈ finds, nameOf? find.raw = some name := by
  have step (collector : Collector) (find : Find) (other : String) :
      other ∈ (collector.see find).names ↔ other ∈ collector.names ∨ nameOf? find.raw = some other :=
    mem_note collector find.raw find.hint.change find.hint.change_name other
  rw [seen, mem_fold {} see Find.raw step]
  exact or_iff_right List.not_mem_nil

theorem seen_sound : Sound (seen finds) :=
  sound_all finds {} sound_empty

theorem seen_mark {mark : Entry → Bool} {own : Hint} (set : SetBy mark own) (entry : Entry) (inside : entry ∈ (seen finds).entries) :
    mark entry = true ↔ ∃ find ∈ finds, nameOf? find.raw = some entry.name ∧ find.hint = own := by
  have told := mark_all set finds {} entry.name
  have found := ((seen_sound finds).keyed entry.name entry).mpr ⟨inside, rfl⟩
  rw [← seen, found] at told
  exact told.trans (or_iff_right Bool.false_ne_true)

theorem variables_alike {entry twin : Entry} (named : entry.name = twin.name)
    (accumulative : entry.isAccumulative = twin.isAccumulative) (bar : entry.isOnBar = twin.isOnBar) (place spot : Nat) :
    twin.toVariable spot = { entry.toVariable place with
      order := (twin.toVariable spot).order, minValue := (twin.toVariable spot).minValue
      maxValue := (twin.toVariable spot).maxValue } := by
  cases entry
  cases twin
  cases named
  cases accumulative
  cases bar
  rfl

-- Runs of the same finds agree on every name.
variable (same : ∀ find, find ∈ finds ↔ find ∈ others)

include same

theorem alike_names (name : String) : name ∈ (seen finds).names ↔ name ∈ (seen others).names := by
  simp only [seen_names, same]

theorem alike_marks {mark : Entry → Bool} {own : Hint} (set : SetBy mark own) (entry twin : Entry)
    (inside : entry ∈ (seen finds).entries) (twinInside : twin ∈ (seen others).entries) (named : entry.name = twin.name) :
    mark entry = mark twin := by
  rw [Bool.eq_iff_iff, seen_mark finds set entry inside, seen_mark others set twin twinInside, named]
  simp only [same]

theorem alike_tables : SameVariables (seen finds).toVariables (seen others).toVariables where
  distinct := by
    rw [toVariables, toVariables, variables_names, variables_names]
    exact ⟨(seen_sound finds).distinct, (seen_sound others).distinct⟩
  names := by
    rw [toVariables, toVariables, variables_names, variables_names]
    exact alike_names finds others same
  alike := by
    intro item member twin present named
    obtain ⟨entry, inside, place, rfl⟩ := variables_entry 1 _ item member
    obtain ⟨partner, partnerInside, spot, rfl⟩ := variables_entry 1 _ twin present
    change entry.name = partner.name at named
    exact variables_alike named (alike_marks finds others same accumulative_set entry partner inside partnerInside named)
      (alike_marks finds others same bar_set entry partner inside partnerInside named) place spot

end Order

theorem mem_of_reordered {texts others : List String} {nodes twins : List Node} (read : texts.Perm others) (given : nodes.Perm twins)
    (find : Find) : find ∈ inferFinds texts nodes ↔ find ∈ inferFinds others twins := by
  simp only [inferFinds, List.mem_append, List.mem_flatMap, read.mem_iff, given.mem_iff]

theorem reordered_catalog (texts others : List String) (nodes twins : List Node) (read : texts.Perm others)
    (given : nodes.Perm twins) :
    ((∃ table, infer texts nodes = .ok table) ↔ ∀ node ∈ nodes, isReadable node = true) ∧
    ((∃ table, infer others twins = .ok table) ↔ ∃ table, infer texts nodes = .ok table) ∧
    ∀ table other, infer texts nodes = .ok table → infer others twins = .ok other → SameVariables table other := by
  refine ⟨infer_returns texts nodes, ?_, fun table other first second => ?_⟩
  · simp only [infer_returns, given.mem_iff]
  · obtain ⟨_, rfl⟩ := (infer_ok texts nodes table).mp first
    obtain ⟨_, rfl⟩ := (infer_ok others twins other).mp second
    exact alike_tables _ _ (mem_of_reordered read given)

-- A bar and a limit in one text, another limit and an increment in the other, and a node that requires both names.
def barred : String := "[变量条:体力:#00ff00]<最大默认值:金币:200>"

def gathered : String := "<最大默认值:金币:50><A:金币 + 5>"

def requiring : Node :=
  ⟨{ id := "c" }, .choice { offer := { conditions := [{ name := "金币" }], effects := [{ name := "体力", style := .accumulative }] } }⟩

theorem swapped_texts_agree :
    infer [barred, gathered] [requiring] = .ok [
      { name := "体力", persistence := .accumulative, order := 1, showAsProgress := true },
      { name := "金币", persistence := .accumulative, maxValue := "50", order := 2 }] ∧
    infer [gathered, barred] [requiring] = .ok [
      { name := "金币", persistence := .accumulative, maxValue := "200", order := 1 },
      { name := "体力", persistence := .accumulative, order := 2, showAsProgress := true }] ∧
    SameVariables [
      { name := "体力", persistence := .accumulative, order := 1, showAsProgress := true },
      { name := "金币", persistence := .accumulative, maxValue := "50", order := 2 }] [
      { name := "金币", persistence := .accumulative, maxValue := "200", order := 1 },
      { name := "体力", persistence := .accumulative, order := 2, showAsProgress := true }] := by
  have first : seen (inferFinds [barred, gathered] [requiring]) =
      ⟨[{ name := "体力", isAccumulative := true, isOnBar := true },
        { name := "金币", isAccumulative := true, maxValue := some "50" }]⟩ := by decide +kernel
  have second : seen (inferFinds [gathered, barred] [requiring]) =
      ⟨[{ name := "金币", isAccumulative := true, maxValue := some "200" },
        { name := "体力", isAccumulative := true, isOnBar := true }]⟩ := by decide +kernel
  have readable : ∀ node ∈ [requiring], isReadable node = true := by decide
  have one := (infer_ok [barred, gathered] [requiring] _).mpr ⟨readable, rfl⟩
  have other := (infer_ok [gathered, barred] [requiring] _).mpr ⟨readable, rfl⟩
  rw [first] at one
  rw [second] at other
  exact ⟨one, other, (reordered_catalog _ _ _ _ (.swap gathered barred []) (.refl _)).2.2 _ _ one other⟩

end Collector

end TaggedStory
