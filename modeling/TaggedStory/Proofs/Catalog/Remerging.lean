import TaggedStory.Proofs.Catalog.Merging
/-!
Joining a table once more with the variables that it was joined with. Where no two names differ in case alone, the
entry that a hint is about does not hang on the order of the table, and every value a hint can fill has been filled.
-/
set_option autoImplicit false

namespace TaggedStory.Catalog

open Text

theorem filled_again {α : Type} [DecidableEq α] (factory : α) (hints : List α) (own : α) :
    filled factory hints (filled factory hints own) = filled factory hints own := by
  by_cases open_ : own = factory
  · cases first : hints.find? fun hint => hint ≠ factory with
    | none =>
        have still : filled factory hints own = own := by rw [filled, if_pos open_, first, Option.getD_none]
        rw [still, still]
    | some hint =>
        have usual : hint ≠ factory := by simpa using List.find?_some first
        have now : filled factory hints own = hint := by rw [filled, if_pos open_, first, Option.getD_some]
        rw [now, filled, if_neg usual]
  · have still : filled factory hints own = own := by rw [filled, if_neg open_]
    rw [still, still]

theorem enriched_again (hints : List Variable) (entry : Variable) :
    enriched hints (enriched hints entry) = enriched hints entry := by
  simp only [enriched, filled_again]

-- The names of a table without regard to case.
def spellings (table : List Variable) : List String :=
  table.map fun entry => lower entry.name

theorem spellings_names (table other : List Variable) (same : table.map (·.name) = other.map (·.name)) :
    spellings table = spellings other := by
  have spelled := congrArg (List.map lower) same
  rwa [List.map_map, List.map_map] at spelled

-- The inferred variables that name an entry, in whatever case.
def hintsNaming (inferred : List Variable) (entry : Variable) : List Variable :=
  inferred.filter fun candidate => trimmed candidate.name ≠ "" ∧ lower entry.name = lower (trimmed candidate.name)

def settled (inferred : List Variable) (entry : Variable) : Variable :=
  enriched (hintsNaming inferred entry) entry

theorem settled_again (inferred : List Variable) (entry : Variable) :
    settled inferred (settled inferred entry) = settled inferred entry :=
  enriched_again (hintsNaming inferred entry) entry

section Spelling

variable (named : List Variable)

theorem find_index_lower (name : String) (index : Nat) (found : Variable.findIndex? named name = some index) :
    ∃ inside : index < named.length, lower named[index].name = lower name := by
  rw [Variable.findIndex?] at found
  cases exact : named.findIdx? fun entry => entry.name = name with
  | some first =>
      rw [exact, Option.some.injEq] at found
      obtain ⟨inside, same, _⟩ := List.findIdx?_eq_some_iff_getElem.mp (found ▸ exact)
      exact ⟨inside, congrArg lower (of_decide_eq_true same)⟩
  | none =>
      rw [exact] at found
      obtain ⟨inside, same, _⟩ := List.findIdx?_eq_some_iff_getElem.mp found
      exact ⟨inside, of_decide_eq_true same⟩

theorem find_index_apart (apart : (spellings named).Nodup) (name : String) (index : Nat) (inside : index < named.length) :
    Variable.findIndex? named name = some index ↔ lower named[index].name = lower name := by
  constructor
  · intro found
    obtain ⟨_, same⟩ := find_index_lower named name index found
    exact same
  · intro same
    cases found : Variable.findIndex? named name with
    | none =>
        have absent := (find_index_none named name).mp found named[index] (List.getElem_mem inside)
        exact absurd same absent.2
    | some other =>
        obtain ⟨within, alike⟩ := find_index_lower named name other found
        have here : index < (spellings named).length := by simpa [spellings] using inside
        have there : other < (spellings named).length := by simpa [spellings] using within
        have spelled : (spellings named)[other] = (spellings named)[index] := by
          simpa [spellings] using alike.trans same.symm
        rw [apart.getElem_inj_iff.mp spelled]

theorem hints_for_apart (apart : (spellings named).Nodup) (inferred : List Variable) (index : Nat) (inside : index < named.length) :
    hintsFor named inferred index = hintsNaming inferred named[index] := by
  rw [hintsFor, hintsNaming]
  refine List.filter_congr fun candidate _ => decide_eq_decide.mpr ?_
  rw [place?]
  by_cases nameless : trimmed candidate.name = ""
  · simp [nameless]
  · rw [if_neg nameless, find_index_apart named apart _ index inside]
    exact (and_iff_right nameless).symm

theorem enriched_table_apart (apart : (spellings named).Nodup) (inferred : List Variable) :
    enrichedTable named inferred = named.map (settled inferred) := by
  have each : ∀ place ∈ named.zipIdx, enriched (hintsFor named inferred place.2) place.1 = settled inferred place.1 := by
    intro place member
    obtain ⟨inside, same⟩ := List.getElem?_eq_some_iff.mp (List.mem_zipIdx_iff_getElem?.mp member)
    rw [settled, ← same, hints_for_apart named apart inferred place.2 inside]
  calc enrichedTable named inferred
      = named.zipIdx.map (fun place => settled inferred place.1) := List.map_congr_left each
    _ = (named.zipIdx.map Prod.fst).map (settled inferred) := by rw [List.map_map]; rfl
    _ = named.map (settled inferred) := by rw [List.zipIdx_map_fst]

-- What is unknown to a table hangs on its names only, in whatever order.
theorem unknown_names (other : List Variable) (same : ∀ name, name ∈ named.map (·.name) ↔ name ∈ other.map (·.name)) :
    isUnknown named = isUnknown other := by
  funext candidate
  refine decide_eq_decide.mpr (and_congr_right fun _ => ?_)
  have either : ∀ table : List Variable,
      (∀ entry ∈ table, entry.name ≠ trimmed candidate.name ∧ lower entry.name ≠ lower (trimmed candidate.name)) ↔
        ∀ name ∈ table.map (·.name), name ≠ trimmed candidate.name ∧ lower name ≠ lower (trimmed candidate.name) :=
    fun table => by rw [List.forall_mem_map]
  simp only [either, same]

end Spelling

theorem by_order_again (table : List Variable) : byOrder (byOrder table) = byOrder table := by
  refine List.mergeSort_of_pairwise (List.pairwise_mergeSort (fun first second third => ?_) (fun first second => ?_) table)
  · simp only [decide_eq_true_eq]
    exact Int.le_trans
  · simp only [Bool.or_eq_true, decide_eq_true_eq]
    exact Int.le_total first.order second.order

-- The table that joining leaves, of the named entries of the one it was given.
def mergedTable (named inferred : List Variable) : List Variable :=
  byOrder (enrichedTable named inferred)

theorem merge_named (explicit inferred template : List Variable) (present : explicit ≠ []) :
    merge explicit inferred template =
      (mergedTable (explicit.filter fun entry => entry.name ≠ "") inferred,
        inferred.filter (isUnknown (explicit.filter fun entry => entry.name ≠ ""))) := by
  have some_ : explicit.isEmpty = false := by simpa using present
  have merged := merged_all (explicit.filter fun entry => entry.name ≠ "") inferred
  simp only [merge, some_, Bool.false_eq_true, if_false, merged.table, merged.unknown, mergedTable]

section Merged

variable (named inferred : List Variable)

theorem merged_table_perm : (mergedTable named inferred).Perm (enrichedTable named inferred) :=
  List.mergeSort_perm _ _

theorem merged_table_names (name : String) :
    name ∈ (mergedTable named inferred).map (·.name) ↔ name ∈ named.map (·.name) := by
  rw [((merged_table_perm named inferred).map _).mem_iff, enriched_table_names]

variable (apart : (spellings named).Nodup)

include apart

theorem merged_table_apart : (spellings (mergedTable named inferred)).Nodup := by
  rw [spellings, ((merged_table_perm named inferred).map _).nodup_iff]
  rwa [← spellings_names _ _ (enriched_table_names named inferred)] at apart

theorem merged_table_again : mergedTable (mergedTable named inferred) inferred = mergedTable named inferred := by
  have settled_ : enrichedTable (mergedTable named inferred) inferred = mergedTable named inferred := by
    rw [enriched_table_apart _ (merged_table_apart named inferred apart)]
    refine (List.map_congr_left fun entry present => ?_).trans (List.map_id _)
    rw [(merged_table_perm named inferred).mem_iff, enriched_table_apart named apart] at present
    obtain ⟨source, _, rfl⟩ := List.mem_map.mp present
    exact settled_again inferred source
  calc mergedTable (mergedTable named inferred) inferred
      = byOrder (mergedTable named inferred) := by rw [mergedTable, settled_]
    _ = mergedTable named inferred := by_order_again _

end Merged

theorem merge_again (explicit inferred template : List Variable) (present : ∃ entry ∈ explicit, entry.name ≠ "")
    (apart : (spellings (explicit.filter fun entry => entry.name ≠ "")).Nodup) :
    let (table, unknown) := merge explicit inferred template
    merge table inferred template = (table, unknown) := by
  obtain ⟨entry, member, filled⟩ := present
  rw [merge_named explicit inferred template (List.ne_nil_of_mem member)]
  have within : entry ∈ explicit.filter fun entry => entry.name ≠ "" := List.mem_filter.mpr ⟨member, decide_eq_true filled⟩
  have allFilled : ∀ name ∈ (explicit.filter fun entry => entry.name ≠ "").map (·.name), name ≠ "" := by
    intro name listed
    obtain ⟨source, kept, rfl⟩ := List.mem_map.mp listed
    exact of_decide_eq_true (List.mem_filter.mp kept).2
  generalize explicit.filter (fun entry => entry.name ≠ "") = named at apart within allFilled ⊢
  have names := merged_table_names named inferred
  have nonempty : mergedTable named inferred ≠ [] := by
    intro empty
    have listed := (names entry.name).mpr (List.mem_map_of_mem within)
    rw [empty] at listed
    cases listed
  have allNamed : (mergedTable named inferred).filter (fun entry => entry.name ≠ "") = mergedTable named inferred := by
    refine List.filter_eq_self.mpr fun other listed => decide_eq_true ?_
    exact allFilled other.name ((names other.name).mp (List.mem_map_of_mem listed))
  simp only
  rw [merge_named _ inferred template nonempty, allNamed, merged_table_again named inferred apart, unknown_names _ named names]

-- Two variables, one of them in use with its own bound, and a nameless entry.
def ledger : List Variable :=
  [{ name := "Gold", order := 2 }, { name := "" }, { name := "HP", order := 1, maxValue := "9" }]

def ledgerHints : List Variable :=
  [{ name := " gold ", maxValue := "60" }, { name := "hp", minValue := "1", maxValue := "50" }, { name := "mana" },
    { name := "GOLD", maxValue := "70", showAsProgress := true }]

def ledgerMerged : List Variable :=
  [{ name := "HP", order := 1, minValue := "1", maxValue := "9" },
    { name := "Gold", order := 2, maxValue := "60", showAsProgress := true }]

theorem ledger_merged : merge ledger ledgerHints [] = (ledgerMerged, [{ name := "mana" }]) := by
  have filled : enrichedTable (ledger.filter fun entry => entry.name ≠ "") ledgerHints =
      [{ name := "Gold", order := 2, maxValue := "60", showAsProgress := true },
        { name := "HP", order := 1, minValue := "1", maxValue := "9" }] := rfl
  rw [merge_named ledger ledgerHints [] (by decide), mergedTable, filled]
  refine Prod.ext ?_ rfl
  simp [byOrder, List.mergeSort, ledgerMerged]

theorem ledger_merged_again : (∃ entry ∈ ledger, entry.name ≠ "") ∧
    (spellings (ledger.filter fun entry => entry.name ≠ "")).Nodup ∧
    merge ledger ledgerHints [] = (ledgerMerged, [{ name := "mana" }]) ∧
    merge ledgerMerged ledgerHints [] = (ledgerMerged, [{ name := "mana" }]) := by
  have present : ∃ entry ∈ ledger, entry.name ≠ "" := by decide
  have apart : (spellings (ledger.filter fun entry => entry.name ≠ "")).Nodup := by decide
  have again := merge_again ledger ledgerHints [] present apart
  rw [ledger_merged] at again
  exact ⟨present, apart, ledger_merged, again⟩

end TaggedStory.Catalog
