import Mathlib.Data.List.Sigma
import TaggedStory.Catalog.Merge
/-!
What joining a variable table with inferred variables gives: the table's own entries in their order, each with the
hints that fill its factory values, and apart from them the inferred variables that it does not know.
-/
set_option autoImplicit false

namespace TaggedStory.Catalog

-- A value that is still the factory one becomes the first hint that is not.
def filled {α : Type} [DecidableEq α] (factory : α) (hints : List α) (own : α) : α :=
  if own = factory then (hints.find? fun hint => hint ≠ factory).getD own else own

theorem filled_none {α : Type} [DecidableEq α] (factory own : α) : filled factory [] own = own := by
  simp [filled]

theorem filled_next {α : Type} [DecidableEq α] (factory hint own : α) (hints : List α) :
    filled factory (hints ++ [hint]) own =
      if filled factory hints own = factory ∧ hint ≠ factory then hint else filled factory hints own := by
  by_cases open_ : own = factory
  · simp only [filled, if_pos open_, List.find?_append]
    cases first : hints.find? fun hint => hint ≠ factory with
    | some value =>
        have given : value ≠ factory := by simpa using List.find?_some first
        simp [given]
    | none => by_cases usual : hint = factory <;> simp [usual, open_]
  · simp only [filled, open_, false_and, if_false]

def enriched (hints : List Variable) (entry : Variable) : Variable :=
  { entry with
    minValue := filled factoryMin (hints.map (·.minValue)) entry.minValue
    maxValue := filled factoryMax (hints.map (·.maxValue)) entry.maxValue
    showAsProgress := filled false (hints.map (·.showAsProgress)) entry.showAsProgress }

theorem enriched_none (entry : Variable) : enriched [] entry = entry := by
  simp only [enriched, List.map_nil, filled_none]

theorem enriched_next (hints : List Variable) (hint entry : Variable) :
    enriched (hints ++ [hint]) entry = applyHints (enriched hints entry) hint := by
  simp [enriched, applyHints, filled_next, Variable.hasFactoryMin, Variable.hasFactoryMax, Variable.hasFactoryProgress]

-- Only the names of a table decide where a name stands in it.
theorem find_index_names (table other : List Variable) (same : table.map (·.name) = other.map (·.name)) (name : String) :
    Variable.findIndex? table name = Variable.findIndex? other name := by
  have search : ∀ test : String → Bool,
      table.findIdx? (fun entry => test entry.name) = other.findIdx? fun entry => test entry.name := by
    intro test
    have mapped := congrArg (List.findIdx? test) same
    rwa [List.findIdx?_map, List.findIdx?_map] at mapped
  rw [Variable.findIndex?, Variable.findIndex?, search fun found => found = name,
    search fun found => Text.lower found = Text.lower name]

section Named

variable (named : List Variable)

-- The position of the entry that an inferred variable is about.
def place? (candidate : Variable) : Option Nat :=
  if Text.trimmed candidate.name = "" then none else Variable.findIndex? named (Text.trimmed candidate.name)

-- The inferred variables that are about one entry, in their order.
def hintsFor (inferred : List Variable) (index : Nat) : List Variable :=
  inferred.filter fun candidate => place? named candidate = some index

-- It has a name, which stands for no entry, not even without regard to case.
def isUnknown (candidate : Variable) : Bool :=
  Text.trimmed candidate.name ≠ "" ∧
    ∀ entry ∈ named, entry.name ≠ Text.trimmed candidate.name ∧
      Text.lower entry.name ≠ Text.lower (Text.trimmed candidate.name)

def enrichedTable (inferred : List Variable) : List Variable :=
  named.zipIdx.map fun place => enriched (hintsFor named inferred place.2) place.1

theorem enriched_table_names (inferred : List Variable) : (enrichedTable named inferred).map (·.name) = named.map (·.name) := by
  rw [enrichedTable, List.map_map, ← List.zipIdx_map_fst 0 named, List.map_map, List.zipIdx_map_fst]
  rfl

theorem find_index_none (name : String) : Variable.findIndex? named name = none ↔
    ∀ entry ∈ named, entry.name ≠ name ∧ Text.lower entry.name ≠ Text.lower name := by
  rw [Variable.findIndex?]
  cases exact : named.findIdx? fun entry => entry.name = name with
  | some index =>
      obtain ⟨inside, same, _⟩ := List.findIdx?_eq_some_iff_getElem.mp exact
      simp only [reduceCtorEq, false_iff, not_forall]
      exact ⟨named[index], List.getElem_mem inside, fun different => different.1 (by simpa using same)⟩
  | none =>
      simp only [List.findIdx?_eq_none_iff, decide_eq_false_iff_not] at exact ⊢
      exact ⟨fun lower entry member => ⟨exact entry member, lower entry member⟩, fun absent entry member => (absent entry member).2⟩

theorem unknown_iff (candidate : Variable) :
    isUnknown named candidate = true ↔ Text.trimmed candidate.name ≠ "" ∧ place? named candidate = none := by
  rw [isUnknown, decide_eq_true_iff, ← find_index_none, place?]
  refine and_congr_right fun present => ?_
  rw [if_neg present]

-- What is known after some of the inferred variables.
structure Merged (seen : List Variable) (state : Merging) : Prop where
  table : state.table = enrichedTable named seen
  unknown : state.unknown = seen.filter (isUnknown named)

theorem merged_start : Merged named [] ⟨named, []⟩ where
  table := by simp [enrichedTable, hintsFor, enriched_none]
  unknown := rfl

theorem hints_for_next (seen : List Variable) (candidate : Variable) (index : Nat) :
    hintsFor named (seen ++ [candidate]) index =
      hintsFor named seen index ++ if place? named candidate = some index then [candidate] else [] := by
  by_cases own : place? named candidate = some index <;> simp [hintsFor, own]

theorem enriched_table_next (seen : List Variable) (candidate : Variable) (index : Nat)
    (place : place? named candidate = some index) :
    (enrichedTable named seen).modify index (applyHints · candidate) = enrichedTable named (seen ++ [candidate]) := by
  refine List.ext_getElem? fun other => ?_
  simp only [List.getElem?_modify, Option.map_eq_map, enrichedTable, List.getElem?_map, List.getElem?_zipIdx, Option.map_map,
    hints_for_next, place]
  refine Option.map_congr fun entry _ => ?_
  by_cases own : index = other <;> simp [own, enriched_next]

theorem enriched_table_same (seen : List Variable) (candidate : Variable) (place : place? named candidate = none) :
    enrichedTable named (seen ++ [candidate]) = enrichedTable named seen := by
  simp only [enrichedTable, hints_for_next, place, reduceCtorEq, if_false, List.append_nil]

theorem unknown_next (seen : List Variable) (candidate : Variable) :
    (seen ++ [candidate]).filter (isUnknown named) =
      seen.filter (isUnknown named) ++ if isUnknown named candidate then [candidate] else [] := by
  by_cases unknown : isUnknown named candidate = true <;> simp [unknown]

theorem merged_next (seen : List Variable) (candidate : Variable) (state : Merging) (merged : Merged named seen state) :
    Merged named (seen ++ [candidate]) (mergeOne state candidate) := by
  have search := find_index_names state.table named (merged.table ▸ enriched_table_names named seen)
  have unknown := unknown_iff named candidate
  by_cases present : Text.trimmed candidate.name = ""
  · have nowhere : place? named candidate = none := if_pos present
    have ignored : isUnknown named candidate = false := by simpa [present] using unknown
    rw [mergeOne, if_pos present]
    refine ⟨?_, ?_⟩
    · rw [enriched_table_same named seen candidate nowhere, merged.table]
    · rw [unknown_next, merged.unknown, ignored]
      simp
  · have place : place? named candidate = Variable.findIndex? state.table (Text.trimmed candidate.name) := by
      rw [search, place?, if_neg present]
    rw [mergeOne, if_neg present]
    cases found : Variable.findIndex? state.table (Text.trimmed candidate.name) with
    | some index =>
        rw [found] at place
        have known : isUnknown named candidate = false := by simpa [place] using unknown
        refine ⟨?_, ?_⟩
        · rw [← enriched_table_next named seen candidate index place, merged.table]
        · rw [unknown_next, merged.unknown, known]
          simp
    | none =>
        rw [found] at place
        have apart : isUnknown named candidate = true := unknown.mpr ⟨present, place⟩
        refine ⟨?_, ?_⟩
        · rw [enriched_table_same named seen candidate place, merged.table]
        · rw [unknown_next, merged.unknown, apart]
          simp

theorem merged_all (inferred : List Variable) : Merged named inferred (inferred.foldl mergeOne ⟨named, []⟩) := by
  have run : ∀ (rest seen : List Variable) (state : Merging), Merged named seen state →
      Merged named (seen ++ rest) (rest.foldl mergeOne state) := by
    intro rest
    induction rest with
    | nil =>
        intro seen state merged
        rwa [List.append_nil]
    | cons candidate rest ih =>
        intro seen state merged
        rw [List.append_cons]
        exact ih _ _ (merged_next named seen candidate state merged)
  exact run inferred [] _ (merged_start named)

end Named

section Order

def orderLE (first second : Variable) : Bool :=
  decide (first.order ≤ second.order)

-- The entries of a table, each with its position, in the order of their numbers and positions.
def arranged (table : List Variable) : List (Variable × Nat) :=
  table.zipIdx.mergeSort (List.zipIdxLE orderLE)

variable (table : List Variable)

theorem arranged_sorted : (arranged table).Pairwise fun first second =>
    first.1.order < second.1.order ∨ first.1.order = second.1.order ∧ first.2 < second.2 := by
  have sorted : (arranged table).Pairwise fun first second => List.zipIdxLE orderLE first second = true := by
    refine List.pairwise_mergeSort (List.zipIdxLE_trans fun a b c => ?_) (List.zipIdxLE_total fun a b => ?_) table.zipIdx
    · simp only [orderLE, decide_eq_true_eq]
      exact Int.le_trans
    · simp only [orderLE, Bool.or_eq_true, decide_eq_true_eq]
      exact Int.le_total a.order b.order
  have places : ((arranged table).map Prod.snd).Nodup :=
    ((List.mergeSort_perm table.zipIdx _).map Prod.snd).nodup_iff.mpr (List.nodup_zipIdx_map_snd table)
  refine (sorted.and (List.pairwise_map.mp places)).imp fun {first second} both => ?_
  obtain ⟨ordered, apart⟩ := both
  simp only [List.zipIdxLE, orderLE, decide_eq_true_eq] at ordered
  split at ordered
  case isTrue le =>
    split at ordered
    case isTrue ge =>
      rw [decide_eq_true_eq] at ordered
      omega
    case isFalse => omega
  case isFalse => cases ordered

-- Entries that keep their order are arranged as before.
theorem by_order_arranged (change : Variable × Nat → Variable) (kept : ∀ place, (change place).order = place.1.order) :
    byOrder (table.zipIdx.map change) = (arranged table).map change := by
  have positions : (table.zipIdx.map change).zipIdx = table.zipIdx.map fun place => (change place, place.2) := by
    refine List.ext_getElem? fun index => ?_
    simp only [List.getElem?_zipIdx, List.getElem?_map, Option.map_map]
    refine Option.map_congr fun entry _ => ?_
    simp
  have moved : (arranged table).map (fun place => (change place, place.2)) =
      (table.zipIdx.map change).zipIdx.mergeSort (List.zipIdxLE orderLE) := by
    rw [positions]
    refine List.map_mergeSort fun first _ second _ => ?_
    simp only [List.zipIdxLE, orderLE, kept]
    rfl
  calc byOrder (table.zipIdx.map change)
      = ((table.zipIdx.map change).zipIdx.mergeSort (List.zipIdxLE orderLE)).map fun place => place.1 :=
        List.mergeSort_zipIdx.symm
    _ = (arranged table).map change := by rw [← moved, List.map_map]; rfl

end Order

theorem merge_keeps_table (explicit inferred template : List Variable) (present : explicit ≠ []) :
    let named := explicit.filter fun entry => entry.name ≠ ""
    let (table, unknown) := merge explicit inferred template
    (∃ places : List (Variable × Nat), places.Perm named.zipIdx ∧
      places.Pairwise (fun first second =>
        first.1.order < second.1.order ∨ first.1.order = second.1.order ∧ first.2 < second.2) ∧
      table = places.map fun place => enriched (hintsFor named inferred place.2) place.1) ∧
    unknown = inferred.filter (isUnknown named) := by
  have some_ : explicit.isEmpty = false := by simpa using present
  have merged := merged_all (explicit.filter fun entry => entry.name ≠ "") inferred
  simp only [merge, some_, Bool.false_eq_true, if_false]
  refine ⟨⟨arranged _, List.mergeSort_perm _ _, arranged_sorted _, ?_⟩, merged.unknown⟩
  rw [merged.table, enrichedTable]
  exact by_order_arranged _ _ fun place => rfl

-- Two spellings of one name, one of them in use with its own bound, and a nameless entry.
def purse : List Variable :=
  [{ name := "Gold", order := 2 }, { name := "" }, { name := "gold", order := 1, maxValue := "9" }, { name := "HP", order := 1 }]

def purseHints : List Variable :=
  [{ name := " gold ", minValue := "1", maxValue := "50" }, { name := "GOLD", maxValue := "60" }, { name := "mana" },
    { name := "GoLD", maxValue := "70", showAsProgress := true }, { name := " " }]

theorem purse_merged : purse ≠ [] ∧ merge purse purseHints [] =
    ([{ name := "gold", order := 1, minValue := "1", maxValue := "9" }, { name := "HP", order := 1 },
      { name := "Gold", order := 2, maxValue := "60", showAsProgress := true }], [{ name := "mana" }]) := by
  have present : purse ≠ [] := by decide
  obtain ⟨⟨places, same, sorted, table⟩, unknown⟩ := merge_keeps_table purse purseHints [] present
  have order : places = [({ name := "gold", order := 1, maxValue := "9" }, 1), ({ name := "HP", order := 1 }, 2),
      ({ name := "Gold", order := 2 }, 0)] := by
    refine List.Perm.eq_of_pairwise (fun first second _ _ ahead behind => ?_) sorted ?_ (same.trans ?_)
    · omega
    · decide
    · exact (List.Perm.swap _ _ _).trans ((List.Perm.swap _ _ _).cons _)
  exact ⟨present, Prod.ext (table.trans (by rw [order]; rfl)) (unknown.trans rfl)⟩

end TaggedStory.Catalog
