import Conformance.Document.Yaml.Merge
import Conformance.Document.Yaml.Scalar

/-!
# Objects

What the nodes of a document stand for. A scalar is made when it is met. A collection is made empty,
and filled when all those which were met before are filled, so that it may hold itself; a key has to
be known when it is met, and no collection is a key.
-/

namespace Conformance.Yaml

/-- What a node stands for; the parts of a collection are given by the numbers of their nodes. -/
inductive Object where
  | whole (v : Value)
  | list (items : List Nat)
  | pairs (entries : List (Nat × Nat))
  | map (entries : List (Value × Nat))
  deriving Inhabited

namespace Object

def parts : Object → List Nat
  | whole _ => []
  | list items => items
  | pairs entries => entries.flatMap fun (key, value) => [key, value]
  | map entries => entries.map Prod.snd

def assemble (part : Nat → Value) : Object → Value
  | whole v => v
  | list items => .list (items.map part)
  | pairs entries => .list (entries.map fun (key, value) => .tuple [part key, part value])
  | map entries => .map (entries.map fun (key, value) => (key, part value))

/-- Entries with a further one: a key that is present keeps its place and takes the new value. -/
def put (key : Value) (value : Nat) : List (Value × Nat) → List (Value × Nat)
  | [] => [(key, value)]
  | entry :: rest =>
    if entry.1.sameKey key then (entry.1, value) :: rest else entry :: put key value rest

end Object

structure Making where
  nodes : Store
  objects : Array (Option Object)
  /-- The collections that are still empty, the last one first. -/
  waiting : List Nat := []

namespace Making

/-- The text of a node that has to be a scalar; a mapping with a value key gives the value of that.
-/
def scalarText (nodes : Store) : (fuel : Nat) → (id : Nat) → Except Error String
  | 0, _ => .error .endless
  | fuel + 1, id =>
    match nodes.content id with
    | .scalar text => .ok text
    | .sequence _ => .error (.defect .wrongNode)
    | .mapping entries =>
      match entries.find? fun entry => nodes.tag entry.1 == .value with
      | some entry => scalarText nodes fuel entry.2
      | none => .error (.defect .wrongNode)

def text (m : Making) (id : Nat) : Except Error String := scalarText m.nodes (m.nodes.size + 1) id

def isMapping (m : Making) (id : Nat) : Bool :=
  match m.nodes.content id with
  | .mapping _ => true
  | _ => false

/-- The object that is made when a node is met; none for a collection, which is filled later. -/
def immediate (m : Making) (id : Nat) : Except Error (Option Object) := do
  match m.nodes.tag id with
  | .null =>
    let _ ← m.text id
    return some (.whole .null)
  | .bool => return some (.whole (← boolValue (← m.text id)))
  | .int => return some (.whole (← integerValue (← m.text id)))
  | .float => return some (.whole (← floatValue (id + sharedMark + 1) (← m.text id)))
  | .timestamp =>
    let text ← m.text id
    if m.isMapping id then .error .stampInMapping else return some (.whole (← stampValue text))
  | .binary => return some (.whole (← binaryValue (← m.text id)))
  | .str => return some (.whole (.str (← m.text id)))
  | .merge => .error (.defect .unknownTag)
  | .value => .error (.defect .unknownTag)
  | .other => .error (.defect .unknownTag)
  | .seq => return none
  | .map => return none
  | .set => return none
  | .omap => return none
  | .pairs => return none

/-- Meets a node: what it stands for is made, unless it has been met before. -/
def meet (m : Making) (id : Nat) : Except Error Making := do
  match (m.objects[id]?).join with
  | some _ => return m
  | none =>
    match ← m.immediate id with
    | some made => return { m with objects := m.objects.setIfInBounds id (some made) }
    | none =>
      return { m with
        objects := m.objects.setIfInBounds id (some (.list []))
        waiting := id :: m.waiting }

def meetAll : List Nat → Making → Except Error Making
  | [], m => .ok m
  | id :: rest, m => do meetAll rest (← m.meet id)

def key (m : Making) (id : Nat) : Except Error Value :=
  match (m.objects[id]?).join with
  | some (.whole v) => if v.isKey then .ok v else .error (.defect .badKey)
  | _ => .error (.defect .badKey)

def meetEntries (done : List (Value × Nat)) :
    List (Nat × Nat) → Making → Except Error (List (Value × Nat) × Making)
  | [], m => .ok (done, m)
  | (key, value) :: rest, m => do
    let m ← m.meet key
    let k ← m.key key
    let m ← m.meet value
    meetEntries (Object.put k value done) rest m

def meetPairs : List Nat → Making → Except Error (List (Nat × Nat) × Making)
  | [], m => .ok ([], m)
  | id :: rest, m => do
    match m.nodes.content id with
    | .mapping [(key, value)] =>
      let m ← (← m.meet key).meet value
      let (more, m) ← meetPairs rest m
      return ((key, value) :: more, m)
    | _ => .error (.defect .wrongNode)

def mappingOf (m : Making) (id : Nat) : Except Error (List (Value × Nat) × Making) :=
  if m.isMapping id then
    match m.nodes.resolve id with
    | .ok nodes => meetEntries [] (nodes.entries id) { m with nodes }
    | .error d => .error (.defect d)
  else .error (.defect .wrongNode)

def itemsOf (m : Making) (id : Nat) : Except Error (List Nat) :=
  match m.nodes.content id with
  | .sequence items => .ok items
  | _ => .error (.defect .wrongNode)

def collection (m : Making) (id : Nat) : Except Error (Object × Making) := do
  match m.nodes.tag id with
  | .map =>
    let (entries, m) ← m.mappingOf id
    return (.map entries, m)
  | .set =>
    let (entries, m) ← m.mappingOf id
    return (.whole (.set (entries.map Prod.fst)), m)
  | .seq =>
    let items ← m.itemsOf id
    return (.list items, ← meetAll items m)
  | _ =>
    let (entries, m) ← meetPairs (← m.itemsOf id) m
    return (.pairs entries, m)

def fill (m : Making) (id : Nat) : Except Error Making := do
  let (made, m) ← m.collection id
  return { m with objects := m.objects.setIfInBounds id (some made) }

def fillAll : List Nat → Making → Except Error Making
  | [], m => .ok m
  | id :: rest, m => do fillAll rest (← m.fill id)

/-- Fills collections until none is waiting; each one waits only once. -/
def finish : (fuel : Nat) → Making → Except Error Making
  | 0, m => .ok m
  | fuel + 1, m => do
    if m.waiting.isEmpty then return m
    else finish fuel (← fillAll m.waiting.reverse { m with waiting := [] })

def ofNodes (nodes : Store) (root : Nat) : Except Error (Array Object) := do
  let m : Making := { nodes, objects := Array.replicate nodes.size none }
  let m ← finish (nodes.size + 1) (← m.meet root)
  return m.objects.map fun made => made.getD (.whole .null)

end Making

end Conformance.Yaml
