import TaggedStory.Link.Network
/-!
Successors of entities, found depth first and remembered. A link back into the chain of bypassed
entities under way is cut and counted; a result that depends on a cut higher up in the chain is not
remembered, because it is complete only together with what is found there.
-/
set_option autoImplicit false

namespace TaggedStory

/-- What was found so far: finished successor lists and the links that were cut. -/
structure Memory where
  known : List (String × List String) := []
  cuts : List (String × String) := []
deriving DecidableEq, Repr

namespace Memory

def find? (memory : Memory) (id : String) : Option (List String) :=
  (memory.known.find? fun entry => entry.1 = id).map (·.2)

def cut (memory : Memory) (link : String × String) : Memory :=
  if memory.cuts.contains link then memory else { memory with cuts := memory.cuts ++ [link] }

def learn (memory : Memory) (id : String) (found : List String) : Memory :=
  { memory with known := (id, found) :: memory.known }

def cyclicBypassCount (memory : Memory) : Nat :=
  memory.cuts.length

end Memory

/-- Successors in the order of their first discovery, and the cuts that are still open. -/
structure Walk where
  found : List String
  openCuts : List String
  memory : Memory

def addNew (items : List String) (item : String) : List String :=
  if items.contains item then items else items ++ [item]

namespace Network

/-- The bypassed ids outside a chain; each step along the chain uses one up. -/
def ahead (net : Network) (chain : List String) : List String :=
  net.bypassed.filter fun id => !chain.contains id

theorem ahead_length_lt {net : Network} {chain : List String} {id : String}
    (skipped : net.isBypassed id = true) (fresh : ¬ chain.contains id = true) :
    (net.ahead (id :: chain)).length < (net.ahead chain).length := by
  have split : net.ahead (id :: chain) = (net.ahead chain).filter fun other => other ≠ id := by
    simp only [ahead, List.filter_filter]
    apply List.filter_congr
    intro other _
    by_cases same : other = id <;> simp [same]
  rw [split]
  apply List.length_filter_lt_length_iff_exists.2
  refine ⟨id, ?_, by simp⟩
  simp only [isBypassed, List.contains_iff_mem] at skipped
  simp only [ahead, List.mem_filter]
  exact ⟨skipped, by simpa using fresh⟩

mutual
/-- The walk from one id, with the chain that led to it. -/
def walk (net : Network) (id : String) (chain : List String) (memory : Memory) : Walk :=
  match memory.find? id with
  | some found => ⟨found, [], memory⟩
  | none =>
    let result := walkAll net id (id :: chain) (net.targets id) ⟨[], [], memory⟩
    let openCuts := result.openCuts.filter (· ≠ id)
    if openCuts.isEmpty then
      ⟨result.found, openCuts, result.memory.learn id result.found⟩
    else ⟨result.found, openCuts, result.memory⟩
termination_by ((net.ahead (id :: chain)).length, (net.targets id).length + 1)

/-- The links of one id in turn, added to what was found before. -/
def walkAll (net : Network) (id : String) (chain : List String) (targets : List String)
    (state : Walk) : Walk :=
  match targets with
  | [] => state
  | target :: rest =>
    if !net.isEntity target then walkAll net id chain rest state
    else if _skipped : net.isBypassed target then
      if _fresh : chain.contains target then
        walkAll net id chain rest
          { state with
            openCuts := addNew state.openCuts target
            memory := state.memory.cut (id, target) }
      else
        let inner := walk net target chain state.memory
        walkAll net id chain rest
          ⟨inner.found.foldl addNew state.found, inner.openCuts.foldl addNew state.openCuts,
            inner.memory⟩
    else walkAll net id chain rest { state with found := addNew state.found target }
termination_by ((net.ahead chain).length, targets.length)
decreasing_by
  all_goals simp_wf
  all_goals first
    | exact Prod.Lex.right _ (Nat.lt_succ_self _)
    | exact Prod.Lex.left _ _ (ahead_length_lt _skipped _fresh)
end

/-- The successors of one id. -/
def resolve (net : Network) (id : String) (memory : Memory) : List String × Memory :=
  let result := net.walk id [] memory
  (result.found, result.memory)

def resolveEach (net : Network) (memory : Memory) :
    List String → List (String × List String) × Memory
  | [] => ([], memory)
  | id :: rest =>
    let (found, memory) := net.resolve id memory
    let (others, memory) := net.resolveEach memory rest
    ((id, found) :: others, memory)

/-- The successors of every entity, in document order. -/
def resolveAll (net : Network) (memory : Memory) : List (String × List String) × Memory :=
  net.resolveEach memory net.entities

end Network

end TaggedStory
