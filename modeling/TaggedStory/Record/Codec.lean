import TaggedStory.Fault
/-!
Records as lists of fields. A schema reads every field even after one has failed, so that a reader
learns all issues of a record at once, in the order of the fields. A field is found under its
document key or under its own name; the key wins. What no field took is handed to `keep`.
-/
set_option autoImplicit false

namespace TaggedStory

/-- The two directions of a value in a document. `brief` leaves out fields at their default. -/
structure Codec (α : Type) where
  read : Json → Attempt α
  write : α → Json
  brief : α → Json

structure Field (R : Type) where
  key : String
  name : String
  isRequired : Bool
  read : Json → Attempt (R → R)
  write : R → Json
  brief : R → Json

structure Schema (R : Type) where
  fields : List (Field R)
  initial : R
  keep : Json.Fields → R → R
  extras : R → Json.Fields

/-- All values, or the issues of all that failed. -/
def gather {α : Type} : List (Attempt α) → Attempt (List α)
  | [] => .ok []
  | first :: rest =>
    match first, gather rest with
    | .ok value, .ok values => .ok (value :: values)
    | .ok _, .error fault => .error fault
    | .error fault, .ok _ => .error fault
    | .error fault, .error faults => .error (fault.merge faults)

namespace Attempt

def within {α : Type} (key : String) : Attempt α → Attempt α
  | .ok value => .ok value
  | .error fault => .error (fault.within key)

/-- A fault in the middle of a record becomes an issue with the fault's wording. -/
def asIssue {α : Type} : Attempt α → Attempt α
  | .ok value => .ok value
  | .error fault => .error (.one [] (.refused ("Value error, " ++ fault.message)))

end Attempt

namespace Codec

variable {α : Type}

def plain (read : Json → Attempt α) (write : α → Json) : Codec α :=
  ⟨read, write, write⟩

def readItems (codec : Codec α) : Nat → List Json → List (Attempt α)
  | _, [] => []
  | index, item :: rest =>
    (codec.read item).within (String.ofList (Decimal.natText index)) ::
      readItems codec (index + 1) rest

def list (codec : Codec α) : Codec (List α) where
  read
    | .arr items => gather (codec.readItems 0 items)
    | _ => .error (.one [] .notList)
  write values := .arr (values.map codec.write)
  brief values := .arr (values.map codec.brief)

end Codec

namespace Field

variable {R S α : Type}

def of (key name : String) (codec : Codec α) (get : R → α) (set : α → R → R) : Field R where
  key := key
  name := name
  isRequired := false
  read value := (codec.read value).map set
  write record := codec.write (get record)
  brief record := codec.brief (get record)

def required (key name : String) (codec : Codec α) (get : R → α) (set : α → R → R) : Field R :=
  { of key name codec get set with isRequired := true }

/-- A field of a part is a field of the whole. -/
def lift (get : S → R) (update : (R → R) → S → S) (field : Field R) : Field S where
  key := field.key
  name := field.name
  isRequired := field.isRequired
  read value := (field.read value).map update
  write whole := field.write (get whole)
  brief whole := field.brief (get whole)

/-- The key under which a record holds the field. -/
def keyIn? (field : Field R) (entries : Json.Fields) : Option String :=
  if Json.has field.key entries then some field.key
  else if Json.has field.name entries then some field.name
  else none

def readFrom (field : Field R) (entries : Json.Fields) : Attempt (R → R) :=
  match field.keyIn? entries with
  | some key => Attempt.within key (field.read (Json.get key entries))
  | none => if field.isRequired then .error (.one [field.key] .missing) else .ok id

end Field

namespace Schema

variable {R : Type}

def unused (schema : Schema R) (entries : Json.Fields) : Json.Fields :=
  let used := schema.fields.filterMap fun field => field.keyIn? entries
  entries.filter fun entry => !used.contains entry.1

def readFields (schema : Schema R) (entries : Json.Fields) : Attempt R :=
  (gather (schema.fields.map fun field => field.readFrom entries)).map fun setters =>
    schema.keep (schema.unused entries)
      (setters.foldl (fun record set => set record) schema.initial)

def read (schema : Schema R) : Json → Attempt R
  | .obj entries => schema.readFields entries
  | _ => .error (.one [] .notRecord)

/-- What no field models is written with finite numbers only. -/
def writtenExtras (schema : Schema R) (record : R) : Json.Fields :=
  Json.finiteFields (schema.extras record)

def write (schema : Schema R) (record : R) : Json :=
  .obj (schema.fields.map (fun field => (field.key, field.write record)) ++
    schema.writtenExtras record)

/-- Required fields have no default and are always written. -/
def brief (schema : Schema R) (record : R) : Json :=
  let changed := schema.fields.filter fun field =>
    field.isRequired || !(field.write record).same (field.write schema.initial)
  .obj (changed.map (fun field => (field.key, field.brief record)) ++
    schema.writtenExtras record)

def codec (schema : Schema R) : Codec R :=
  ⟨schema.read, schema.write, schema.brief⟩

/-- A record that has no room for what its fields do not take. -/
def closed (initial : R) (fields : List (Field R)) : Schema R :=
  ⟨fields, initial, fun _ record => record, fun _ => []⟩

end Schema

end TaggedStory
