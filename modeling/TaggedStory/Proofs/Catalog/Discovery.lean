import Mathlib.Data.List.Nodup
import TaggedStory.Proofs.Catalog.Finds
import TaggedStory.Proofs.Tag.Decimals
import TaggedStory.Proofs.Tag.Splitting
/-!
A collector over all runs. What one find keeps is kept by every call and every run: each name once and shaped like a name,
the names in the order of their discovery, and marks that are never taken back.
-/
set_option autoImplicit false

namespace TaggedStory

open Text Catalog

namespace Collector

/-! What one find does to the entries. -/

section Lookup

variable (collector : Collector)

theorem find_enter (name other : String) : (collector.enter name).find? other =
    if other = name then some ((collector.find? name).getD { name := name }) else collector.find? other := by
  rw [enter, has]
  cases known : collector.find? name with
  | some entry =>
      rw [Option.isSome_some, if_pos rfl]
      split
      case isTrue same => rw [same, known]; rfl
      case isFalse => rfl
  | none =>
      rw [Option.isSome_none, if_neg Bool.false_ne_true, find?, List.find?_append, ← find?]
      split
      case isTrue same => simp [same, known]
      case isFalse differs => simp [Ne.symm differs]

theorem find_name (name : String) (entry : Entry) (found : collector.find? name = some entry) : entry.name = name :=
  of_decide_eq_true (List.find?_some (p := fun entry : Entry => decide (entry.name = name)) found)

theorem find_update (name other : String) (change : Entry → Entry) (keeps : ∀ entry, (change entry).name = entry.name) :
    (collector.update name change).find? other =
      if other = name then (collector.find? other).map change else collector.find? other := by
  have named : ∀ entry : Entry, (if entry.name = name then change entry else entry).name = entry.name := by
    intro entry
    split
    · exact keeps entry
    · rfl
  rw [find?, update, List.find?_map]
  simp only [Function.comp_def, named]
  rw [← find?]
  cases found : collector.find? other with
  | none => simp
  | some entry =>
      rw [Option.map_some, find_name collector other entry found]
      split <;> rfl

theorem find_see (find : Find) (name other : String) (entered : nameOf? find.raw = some name) :
    (collector.see find).find? other =
      if other = name then some (find.hint.change ((collector.find? name).getD { name := name }))
      else collector.find? other := by
  rw [see, note, entered]
  change ((collector.enter name).update name find.hint.change).find? other = _
  rw [find_update _ name other _ find.hint.change_name, find_enter]
  split <;> rfl

theorem see_refused (find : Find) (refused : nameOf? find.raw = none) : collector.see find = collector := by
  rw [see, note, refused]

theorem names_see (find : Find) : (collector.see find).names = collector.names ∨
    ∃ name, nameOf? find.raw = some name ∧ name ∉ collector.names ∧ (collector.see find).names = collector.names ++ [name] := by
  rw [see, note]
  cases entered : nameOf? find.raw with
  | none => exact .inl rfl
  | some name =>
      simp only [names_update _ name _ find.hint.change_name]
      rw [enter]
      split
      case isTrue => exact .inl rfl
      case isFalse unknown =>
        exact .inr ⟨name, rfl, fun known => unknown ((has_name collector name).mpr known), by simp [names]⟩

end Lookup

end Collector

/-! Names that are entered: none is empty, a number or a percentage. -/

def IsName (name : String) : Prop :=
  name ≠ "" ∧ '%' ∉ name.toList ∧ ¬Tag.IsDecimal name.toList

theorem is_decimal_numeric (text : List Char) (form : Tag.IsDecimal text) : isNumeric text = true := by
  have inline : '\n' ∉ text := Tag.is_decimal_lacks text form '\n' (by decide) (by decide)
  have read : Tag.decimal.run text = some (text, []) := Tag.is_decimal_read text form
  rw [isNumeric, Tag.no_final_feed text inline, read]

theorem name_of_shape (raw : List Char) (name : String) (entered : Collector.nameOf? raw = some name) : IsName name := by
  rw [Collector.nameOf?] at entered
  split at entered
  case isTrue => cases entered
  case isFalse accepted =>
    cases entered
    simp only [Bool.or_eq_true, not_or, isNumericOrPercentage, List.isEmpty_iff, List.contains_iff_mem] at accepted
    obtain ⟨filled, numeric, percent⟩ := accepted
    refine ⟨fun empty => filled (by simpa using empty), by simpa using percent, fun form => numeric ?_⟩
    exact is_decimal_numeric _ (by simpa using form)

/-! What every run keeps. -/

namespace Collector

-- Each name stands for one entry.
theorem find_iff (collector : Collector) (distinct : collector.names.Nodup) (name : String) (entry : Entry) :
    collector.find? name = some entry ↔ entry ∈ collector.entries ∧ entry.name = name := by
  refine ⟨fun found => ⟨List.mem_of_find?_eq_some found, find_name collector name entry found⟩, ?_⟩
  rintro ⟨member, rfl⟩
  cases found : collector.find? entry.name with
  | none => exact absurd (decide_eq_true rfl) (List.find?_eq_none.mp found entry member)
  | some other =>
      rw [List.inj_on_of_nodup_map distinct (List.mem_of_find?_eq_some found) member (find_name collector _ other found)]

structure Sound (collector : Collector) : Prop where
  distinct : collector.names.Nodup
  keyed : ∀ name entry, collector.find? name = some entry ↔ entry ∈ collector.entries ∧ entry.name = name
  shaped : ∀ name ∈ collector.names, IsName name

-- The marks of an entry stay set.
structure Kept (early late : Entry) : Prop where
  accumulative : early.isAccumulative = true → late.isAccumulative = true
  bar : early.isOnBar = true → late.isOnBar = true

-- Nothing that was found is lost: names stay where they are, and so do the marks of their entries.
structure Grows (before after : Collector) : Prop where
  names : before.names <+: after.names
  entries : ∀ name early, before.find? name = some early → ∃ late, after.find? name = some late ∧ Kept early late

namespace Grows

theorem refl (collector : Collector) : Grows collector collector :=
  ⟨List.prefix_refl _, fun _ early found => ⟨early, found, id, id⟩⟩

theorem trans {first second third : Collector} (before : Grows first second) (after : Grows second third) :
    Grows first third where
  names := before.names.trans after.names
  entries := by
    intro name early found
    obtain ⟨middle, found, kept⟩ := before.entries name early found
    obtain ⟨late, found, keptOn⟩ := after.entries name middle found
    exact ⟨late, found, keptOn.accumulative ∘ kept.accumulative, keptOn.bar ∘ kept.bar⟩

end Grows

-- A mark of entries that finds with this hint set, and no others.
structure SetBy (mark : Entry → Bool) (own : Hint) : Prop where
  fresh : ∀ name, mark { name := name } = false
  change : ∀ hint entry, mark (hint.change entry) = true ↔ mark entry = true ∨ hint = own

theorem accumulative_set : SetBy Entry.isAccumulative .accumulative :=
  ⟨fun _ => rfl, fun hint entry => by cases hint <;> simp [Hint.change, accumulate]⟩

theorem bar_set : SetBy Entry.isOnBar .bar :=
  ⟨fun _ => rfl, fun hint entry => by cases hint <;> simp [Hint.change, accumulate]⟩

section Steps

variable (collector : Collector) (find : Find)

theorem sound_see (sound : Sound collector) : Sound (collector.see find) := by
  have kept : (collector.see find).names.Nodup ∧ ∀ name ∈ (collector.see find).names, IsName name := by
    rcases names_see collector find with same | ⟨name, entered, fresh, longer⟩
    · exact same ▸ ⟨sound.distinct, sound.shaped⟩
    · rw [longer]
      refine ⟨List.concat_eq_append ▸ sound.distinct.concat fresh, ?_⟩
      exact List.forall_mem_append.mpr ⟨sound.shaped, List.forall_mem_singleton.mpr (name_of_shape find.raw name entered)⟩
  exact ⟨kept.1, find_iff _ kept.1, kept.2⟩

theorem grows_see : Grows collector (collector.see find) where
  names := by
    rcases names_see collector find with same | ⟨name, _, _, longer⟩
    · exact same ▸ List.prefix_refl _
    · exact longer ▸ List.prefix_append _ _
  entries := by
    intro name early found
    cases entered : nameOf? find.raw with
    | none => exact ⟨early, by rw [see_refused collector find entered, found], id, id⟩
    | some other =>
        rw [find_see collector find other name entered]
        split
        case isTrue same =>
          refine ⟨_, rfl, ?_⟩
          rw [← same, found, Option.getD_some]
          cases find.hint <;> exact ⟨by simp [Hint.change, accumulate], by simp [Hint.change, accumulate]⟩
        case isFalse => exact ⟨early, found, id, id⟩

def marks (name : String) : Bool :=
  (collector.find? name).any (·.isAccumulative)

-- Only a find with the hint marks an entry, and it marks that of its name.
theorem mark_see {mark : Entry → Bool} {own : Hint} (set : SetBy mark own) (name : String) :
    ((collector.see find).find? name).any mark = true ↔
      (collector.find? name).any mark = true ∨ nameOf? find.raw = some name ∧ find.hint = own := by
  cases entered : nameOf? find.raw with
  | none => simp [see_refused collector find entered]
  | some other =>
      rw [find_see collector find other name entered]
      by_cases same : name = other
      · rw [if_pos same, same, Option.any_some, set.change]
        cases collector.find? other <;> simp [set.fresh]
      · simp [if_neg same, Ne.symm same]

end Steps

section Runs

theorem sound_empty : Sound {} :=
  ⟨List.nodup_nil, find_iff _ List.nodup_nil, fun _ member => nomatch member⟩

theorem sound_all (finds : List Find) (collector : Collector) (sound : Sound collector) : Sound (finds.foldl see collector) := by
  induction finds generalizing collector with
  | nil => exact sound
  | cons find rest ih => exact ih _ (sound_see collector find sound)

theorem grows_all (finds : List Find) (collector : Collector) : Grows collector (finds.foldl see collector) := by
  induction finds generalizing collector with
  | nil => exact .refl collector
  | cons find rest ih => exact (grows_see collector find).trans (ih _)

theorem mark_all {mark : Entry → Bool} {own : Hint} (set : SetBy mark own) (finds : List Find) (collector : Collector)
    (name : String) : ((finds.foldl see collector).find? name).any mark = true ↔
      (collector.find? name).any mark = true ∨ ∃ find ∈ finds, nameOf? find.raw = some name ∧ find.hint = own := by
  induction finds generalizing collector with
  | nil => simp
  | cons find rest ih => simp only [List.foldl_cons, ih, mark_see _ _ set, List.mem_cons, exists_eq_or_imp, or_assoc]

-- The names that a text and a node call accumulative.
def TextMarks (read name : String) : Prop :=
  ∃ found ∈ accumulated.all read.toList, nameOf? found.value = some name

def NodeMarks (given : Node) (name : String) : Prop :=
  ∃ effect ∈ given.body.effects, nameOf? effect.name.toList = some name ∧ effect.isAccumulative = true

def Call.Accumulates (name : String) : Call → Prop
  | .register _ => False
  | .text read => TextMarks read name
  | .node given => isReadable given = true ∧ NodeMarks given name
  | .collect read none => TextMarks read name
  | .collect read (some given) => isReadable given = true ∧ (NodeMarks given name ∨ TextMarks read name)

theorem text_accumulates (read name : String) :
    (∃ find ∈ textFinds read.toList, nameOf? find.raw = some name ∧ find.hint = .accumulative) ↔ TextMarks read name := by
  simp [textFinds, TextMarks, or_and_right, exists_or]

theorem node_accumulates (given : Node) (name : String) :
    (∃ find ∈ nodeFinds given, nameOf? find.raw = some name ∧ find.hint = .accumulative) ↔ NodeMarks given name := by
  simp [nodeFinds, NodeMarks, or_and_right, exists_or]

theorem call_accumulates (call : Call) (name : String) :
    (∃ find ∈ call.finds, nameOf? find.raw = some name ∧ find.hint = .accumulative) ↔ call.Accumulates name := by
  cases call with
  | register raw => simp [Call.finds, Call.Accumulates]
  | text read => exact text_accumulates read name
  | node given =>
      rw [Call.finds, Call.Accumulates, ← node_accumulates]
      cases isReadable given <;> simp
  | collect read given =>
      cases given with
      | none => exact text_accumulates read name
      | some given =>
          rw [Call.finds, Call.Accumulates, ← node_accumulates, ← text_accumulates]
          cases isReadable given <;> simp [or_and_right, exists_or]

theorem run_marks (calls : List Call) (name : String) :
    (run calls).marks name = true ↔ ∃ call ∈ calls, call.Accumulates name := by
  rw [run_seen, marks, mark_all accumulative_set]
  simp only [← call_accumulates, List.mem_flatMap]
  constructor
  · rintro (empty | ⟨find, ⟨call, member, inside⟩, marked⟩)
    · cases empty
    · exact ⟨call, member, find, inside, marked⟩
  · rintro ⟨call, member, find, inside, marked⟩
    exact .inr ⟨find, ⟨call, member, inside⟩, marked⟩

theorem grows_run (front rest : List Call) : Grows (run front) (run (front ++ rest)) := by
  rw [run_seen (front ++ rest), List.flatMap_append, List.foldl_append, ← run_seen]
  exact grows_all _ _

theorem sound_run (calls : List Call) : Sound (run calls) := by
  rw [run_seen]
  exact sound_all _ _ sound_empty

end Runs

theorem variables_orders (order : Nat) (entries : List Entry) :
    (variablesFrom order entries).map Variable.order = (List.range' order entries.length).map Int.ofNat := by
  induction entries generalizing order with
  | nil => rfl
  | cons entry rest ih =>
      rw [variablesFrom, List.map_cons, ih, List.length_cons, List.range'_succ, List.map_cons]
      rfl

theorem variables_entry (order : Nat) (entries : List Entry) :
    ∀ item ∈ variablesFrom order entries, ∃ entry ∈ entries, ∃ place, item = entry.toVariable place := by
  induction entries generalizing order with
  | nil => exact fun _ member => nomatch member
  | cons entry rest ih =>
      rw [variablesFrom, List.forall_mem_cons]
      refine ⟨⟨entry, List.mem_cons_self, order, rfl⟩, fun item member => ?_⟩
      obtain ⟨source, inside, told⟩ := ih (order + 1) item member
      exact ⟨source, List.mem_cons_of_mem entry inside, told⟩

end Collector

theorem Entry.persistence_iff (entry : Entry) :
    (entry.persistence = .shop ↔ entry.name ∈ shopVariables) ∧
    (entry.persistence = .accumulative ↔ entry.name ∉ shopVariables ∧ entry.isAccumulative = true) ∧
    (entry.persistence = .chapterConstant ↔ entry.name ∉ shopVariables ∧ entry.isAccumulative = false) := by
  rw [persistence, isShop]
  by_cases shop : entry.name ∈ shopVariables
  · simp [shop]
  · cases marked : entry.isAccumulative <;> simp [shop]

namespace Collector

-- Whatever is called in whatever order, the table holds each name once, in the order of discovery, and what it says of a
-- name is what some call found out about it.
theorem run_keeps_catalog (calls : List Call) :
    Sound (run calls) ∧ (∀ front, front <+: calls → Grows (run front) (run calls)) ∧
    (run calls).toVariables.map Variable.name = (run calls).names ∧
    (run calls).toVariables.map Variable.order = (List.range' 1 (run calls).names.length).map Int.ofNat ∧
    ∀ item ∈ (run calls).toVariables,
      (item.persistence = .shop ↔ item.name ∈ shopVariables) ∧
      (item.persistence = .accumulative ↔ item.name ∉ shopVariables ∧ ∃ call ∈ calls, call.Accumulates item.name) ∧
      (item.persistence = .chapterConstant ↔ item.name ∉ shopVariables ∧ ¬∃ call ∈ calls, call.Accumulates item.name) := by
  have sound := sound_run calls
  refine ⟨sound, ?_, variables_names 1 _, ?_, ?_⟩
  · rintro front ⟨rest, rfl⟩
    exact grows_run front rest
  · rw [names, List.length_map]
    exact variables_orders 1 _
  · intro item member
    obtain ⟨entry, inside, place, rfl⟩ := variables_entry 1 _ item member
    have marked : entry.isAccumulative = true ↔ ∃ call ∈ calls, call.Accumulates entry.name := by
      rw [← run_marks, marks, (sound.keyed entry.name entry).mpr ⟨inside, rfl⟩]
      rfl
    have named : (entry.toVariable place).name = entry.name := rfl
    have kind : (entry.toVariable place).persistence = entry.persistence := rfl
    rw [named, kind, ← marked, Bool.not_eq_true]
    exact entry.persistence_iff

-- The third call fails, and what the fourth registers is no name.
def errands : List Call :=
  [.register "+金币*", .text "<A：金币>[变量条：体力：心]",
    .collect "<A：体力>" (some ⟨{ id := "t", extras := [("effects", .arr [.int 1])] }, .tip {}⟩),
    .register "12.5", .register "金币 ", .register "coin"]

theorem errands_discovered :
    (run errands).toVariables.map (fun item => (item.name, item.persistence, item.order)) =
      [("金币", .accumulative, 1), ("体力", .chapterConstant, 2), ("coin", .shop, 3)] ∧
    Grows (run (errands.take 1)) (run errands) ∧ (∃ call ∈ errands, call.Accumulates "金币") ∧
    ¬∃ call ∈ errands, call.Accumulates "体力" := by
  obtain ⟨_, grows, _, _, kinds⟩ := run_keeps_catalog errands
  have found : run errands = ⟨[{ name := "金币", isAccumulative := true }, { name := "体力", isOnBar := true },
      { name := "coin" }]⟩ := by decide +kernel
  rw [found, toVariables, variablesFrom, variablesFrom, List.forall_mem_cons, List.forall_mem_cons] at kinds
  obtain ⟨⟨_, gold, _⟩, ⟨_, _, strength⟩, _⟩ := kinds
  exact ⟨by rw [found]; decide, grows _ (List.take_prefix 1 errands), (gold.mp (by decide)).2, (strength.mp (by decide)).2⟩

end Collector

end TaggedStory
