import TaggedStory.Record.Scalar
import TaggedStory.Text.Lower
/-!
Entries of the variable table, and the search for one by name: exactly first, then without regard to
case.
-/
set_option autoImplicit false

namespace TaggedStory

inductive VariableKind where
  | integer
  | float
  | string
  | boolean
deriving DecidableEq, Repr

namespace VariableKind

def all : List VariableKind := [integer, float, string, boolean]

def word : VariableKind → String
  | integer => "Integer"
  | float => "Float"
  | string => "String"
  | boolean => "Boolean"

def number : VariableKind → Nat
  | integer => 0
  | float => 1
  | string => 2
  | boolean => 3

def ofWord? (word : String) : Option VariableKind :=
  all.find? fun kind => kind.word = word

def ofNumber? (value : Int) : Option VariableKind :=
  all.find? fun kind => (kind.number : Int) = value

end VariableKind

/-- How long a variable keeps its value. -/
inductive Persistence where
  | chapterConstant
  | accumulative
  | shop
  | unset
deriving DecidableEq, Repr

namespace Persistence

def all : List Persistence := [chapterConstant, accumulative, shop, unset]

def word : Persistence → String
  | chapterConstant => "ChapterConstant"
  | accumulative => "Accumulative"
  | shop => "Shop"
  | unset => "NULL"

def number : Persistence → Nat
  | chapterConstant => 0
  | accumulative => 1
  | shop => 2
  | unset => 3

def ofWord? (word : String) : Option Persistence :=
  all.find? fun persistence => persistence.word = word

def ofNumber? (value : Int) : Option Persistence :=
  all.find? fun persistence => (persistence.number : Int) = value

end Persistence

def factoryMin : String := "0"
def factoryMax : String := "1000000"

structure Variable where
  name : String := ""
  displayName : String := ""
  description : String := ""
  kind : VariableKind := .integer
  persistence : Persistence := .chapterConstant
  defaultValue : String := "0"
  minValue : String := factoryMin
  maxValue : String := factoryMax
  priority : Int := 0
  isHidden : Bool := false
  order : Int := 0
  iconPath : String := ""
  showAsProgress : Bool := false
  usePlayerPrefs : Bool := true
  extras : Json.Fields := []

namespace Variable

def schema : Schema Variable where
  initial := {}
  keep entries r := { r with extras := entries }
  extras r := r.extras
  fields := [
    .required "name" "name" Record.text name fun x r => { r with name := x },
    .of "displayName" "display_name" Record.text displayName
      fun x r => { r with displayName := x },
    .of "description" "description" Record.text description
      fun x r => { r with description := x },
    .of "type" "type" (Record.member VariableKind.ofWord? VariableKind.word) kind
      fun x r => { r with kind := x },
    .of "persistenceType" "persistence_type" (Record.member Persistence.ofWord? Persistence.word)
      persistence fun x r => { r with persistence := x },
    .of "defaultValue" "default_value" Record.looseText defaultValue
      fun x r => { r with defaultValue := x },
    .of "minValue" "min_value" Record.looseText minValue fun x r => { r with minValue := x },
    .of "maxValue" "max_value" Record.looseText maxValue fun x r => { r with maxValue := x },
    .of "priority" "priority" Record.integer priority fun x r => { r with priority := x },
    .of "isHidden" "is_hidden" Record.flag isHidden fun x r => { r with isHidden := x },
    .of "order" "order" Record.integer order fun x r => { r with order := x },
    .of "iconPath" "icon_path" Record.text iconPath fun x r => { r with iconPath := x },
    .of "showAsProgress" "show_as_progress" Record.flag showAsProgress
      fun x r => { r with showAsProgress := x },
    .of "usePlayerPrefs" "use_player_prefs" Record.flag usePlayerPrefs
      fun x r => { r with usePlayerPrefs := x }]

def hasFactoryMin (entry : Variable) : Bool :=
  entry.minValue == factoryMin

def hasFactoryMax (entry : Variable) : Bool :=
  entry.maxValue == factoryMax

def hasFactoryProgress (entry : Variable) : Bool :=
  !entry.showAsProgress

/-- The position of the entry that a name stands for. -/
def findIndex? (table : List Variable) (name : String) : Option Nat :=
  match table.findIdx? fun entry => entry.name = name with
  | some index => some index
  | none =>
    let lowered := Text.lower name
    table.findIdx? fun entry => Text.lower entry.name = lowered

end Variable

end TaggedStory
