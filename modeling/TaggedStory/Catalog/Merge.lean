import TaggedStory.Story.Graph
/-!
Joining a variable table with inferred variables. The table's own fields win; a hint replaces only a
value that is still the factory one. What the table does not know is given apart.
-/
set_option autoImplicit false

namespace TaggedStory.Catalog

def applyHints (present inferred : Variable) : Variable :=
  { present with
    minValue :=
      if present.hasFactoryMin && !inferred.hasFactoryMin then inferred.minValue
      else present.minValue
    maxValue :=
      if present.hasFactoryMax && !inferred.hasFactoryMax then inferred.maxValue
      else present.maxValue
    showAsProgress :=
      if present.hasFactoryProgress && !inferred.hasFactoryProgress then inferred.showAsProgress
      else present.showAsProgress }

/-- A table under way, and the inferred variables that it does not know. -/
structure Merging where
  table : List Variable
  unknown : List Variable

def mergeOne (state : Merging) (candidate : Variable) : Merging :=
  let name := Text.trimmed candidate.name
  if name = "" then state
  else
    match Variable.findIndex? state.table name with
    | some index => { state with table := state.table.modify index (applyHints · candidate) }
    | none => { state with unknown := state.unknown ++ [candidate] }

def byOrder (table : List Variable) : List Variable :=
  table.mergeSort fun a b => decide (a.order ≤ b.order)

/-- The explicit table, or else the template; without either the inferred variables are the
table. -/
def merge (explicit inferred template : List Variable) : List Variable × List Variable :=
  let base := if explicit.isEmpty then template else explicit
  if base.isEmpty then (inferred, [])
  else
    let named := base.filter fun entry => entry.name ≠ ""
    let merged := inferred.foldl mergeOne ⟨named, []⟩
    (byOrder merged.table, merged.unknown)

end TaggedStory.Catalog
