/-!
Entities, the links between them, and the bypassed ones. A bypassed entity is no successor; its own
successors take its place, through any number of bypassed entities in a row.

`Reaches` says which entities that makes successors, without regard to how they are found.
-/
set_option autoImplicit false

namespace TaggedStory

/-- The entities in document order, and the ends of the links in document order. -/
structure Network where
  entities : List String
  bypassed : List String
  links : List (String × String)

namespace Network

/-- Links with an empty end are left out. -/
def build (links : List (String × String)) (entities bypassed : List String) : Network where
  entities := entities.eraseDups
  bypassed := bypassed
  links := links.filter fun link => link.1 ≠ "" && link.2 ≠ ""

def targets (net : Network) (id : String) : List String :=
  (net.links.filter fun link => link.1 = id).map (·.2)

def isEntity (net : Network) (id : String) : Bool :=
  net.entities.contains id

def isBypassed (net : Network) (id : String) : Bool :=
  net.bypassed.contains id

/-- A path from one id to another whose inner ids are all bypassed entities. -/
inductive Reaches (net : Network) : String → String → Prop where
  | link {id target : String} (linked : target ∈ net.targets id)
      (present : net.isEntity target = true) (kept : net.isBypassed target = false) :
      Reaches net id target
  | through {id middle target : String} (linked : middle ∈ net.targets id)
      (present : net.isEntity middle = true) (skipped : net.isBypassed middle = true)
      (onward : Reaches net middle target) : Reaches net id target

end Network

end TaggedStory
