import TaggedStory.Story.Variable
/-!
Variable tables in documents. A written entry numbers its kind and persistence and carries fields
that only the running story uses; reading accepts numbers, number texts and words, falls back where
none fits, and leaves out what is no entry.
-/
set_option autoImplicit false

namespace TaggedStory.VariableTable

open Decimal

/-- Fields of a written entry that the table itself does not hold. -/
def runtimeFields : Json.Fields := [
  ("playerPrefsDefaultValue", .str ""),
  ("addValueForDay", .int 0),
  ("addValueForWeek", .int 0),
  ("addValueForMonth", .int 0),
  ("newUserAddValueForDay", .arr [.int 0]),
  ("newUserAddValueForWeek", .arr [.int 0]),
  ("newUserAddValueForMonth", .arr [.int 0]),
  ("isResetDaily", .bool false),
  ("resetDailyValue", .int 0),
  ("isResident", .bool false)]

def orElse (text fallback : String) : String :=
  if text = "" then fallback else text

def writeEntry (entry : Variable) : Json :=
  .obj ([
    ("name", .str entry.name),
    ("displayName", .str entry.displayName),
    ("description", .str entry.description),
    ("type", .int entry.kind.number),
    ("persistenceType", .int entry.persistence.number),
    ("defaultValue", .str entry.defaultValue),
    ("minValue", .str (orElse entry.minValue factoryMin)),
    ("maxValue", .str (orElse entry.maxValue factoryMax)),
    ("usePlayerPrefs", .bool entry.usePlayerPrefs),
    ("showAsProgress", .bool entry.showAsProgress),
    ("iconPath", .str entry.iconPath),
    ("priority", .int entry.priority),
    ("isHidden", .bool entry.isHidden),
    ("order", .int entry.order)] ++ runtimeFields)

def write (table : List Variable) : Json :=
  .arr (table.map writeEntry)

/-- The number that a value gives; a decimal loses its fraction, a text the blanks around it. -/
def numberIn? : Json → Attempt (Option Int)
  | .int value => .ok (some value)
  | .float .nan => .error .noNumber
  | .float value =>
    match value.truncated? with
    | some n => .ok (some n)
    | none => .error .tooLarge
  | .str text => .ok (readWhole (Text.trim text.toList)).toOption
  | _ => .ok none

/-- A word of a closed list, or else the number of one. -/
def member {α : Type} (ofWord? : String → Option α) (ofNumber? : Int → Option α) (fallback : α)
    (value : Json) : Attempt α :=
  let byWord? := match value with
    | .str text => ofWord? text
    | _ => none
  match byWord? with
  | some found => .ok found
  | none => (numberIn? value).map fun number => (number.bind ofNumber?).getD fallback

def kindOf (entries : Json.Fields) : Attempt VariableKind :=
  match Json.lookup? "type" entries with
  | some value => member VariableKind.ofWord? VariableKind.ofNumber? .integer value
  | none => .ok .integer

def persistenceOf (entries : Json.Fields) : Attempt Persistence :=
  match Json.lookup? "persistenceType" entries with
  | some value => member Persistence.ofWord? Persistence.ofNumber? .chapterConstant value
  | none => .ok .chapterConstant

/-- The fields of an entry as its record has them. -/
def recordFields (entries : Json.Fields) (kind : VariableKind) (persistence : Persistence) :
    Json.Fields :=
  let kept := entries.filter fun entry => !Json.has entry.1 runtimeFields
  Json.put "persistenceType" (.str persistence.word) (Json.put "type" (.str kind.word) kept)

/-- An entry without a name, or with a field that cannot be read, is none. -/
def readEntry : Json → Attempt (Option Variable)
  | .obj entries =>
    if (Json.get "name" entries).isTrue then do
      let kind ← kindOf entries
      let persistence ← persistenceOf entries
      return (Variable.schema.readFields (recordFields entries kind persistence)).toOption
    else .ok none
  | _ => .ok none

def readEntries : List Json → Attempt (List Variable)
  | [] => .ok []
  | raw :: rest => do
    let entry ← readEntry raw
    let others ← readEntries rest
    return entry.toList ++ others

/-- Anything but a list is an empty table. -/
def read : Json → Attempt (List Variable)
  | .arr items => readEntries items
  | _ => .ok []

end TaggedStory.VariableTable
