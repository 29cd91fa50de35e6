import Conformance.Document.Yaml.Object
import Conformance.Document.Yaml.Source

/-!
# Reading YAML

A YAML text with at most one document gives a document value. An object becomes a value once its
parts have values. This leaves those collections which hold themselves, at any depth, and they are
unrolled a number of times that nobody who stops at what was met before can use up.
-/

namespace Conformance.Yaml

namespace Unrolling

def settle? (values : Array (Option Value)) (made : Object) : Option Value :=
  if made.parts.all fun part => (values[part]?).join.isSome then
    some (made.assemble fun part => ((values[part]?).join).getD .null)
  else none

/-- Gives a value to each object that can have one, the last one first, since a part mostly comes
after what it is part of. -/
def settleOnce (objects : Array Object) (values : Array (Option Value)) : Array (Option Value) :=
  objects.size.fold (fun i _ values =>
    let id := objects.size - 1 - i
    match (values[id]?).join, objects[id]? with
    | none, some made => values.setIfInBounds id (settle? values made)
    | _, _ => values) values

def openCount (values : Array (Option Value)) : Nat :=
  values.foldl (fun n v => if v.isNone then n + 1 else n) 0

def settle (objects : Array Object) : (fuel : Nat) → Array (Option Value) → Array (Option Value)
  | 0, values => values
  | fuel + 1, values =>
    let next := settleOnce objects values
    if openCount next == 0 || openCount next == openCount values then next
    else settle objects fuel next

/-- Unrolls once more those objects that have no value. -/
def unrollOnce (objects : Array Object) (values : Array (Option Value)) (unrolled : Array Value) :
    Array Value :=
  objects.mapIdx fun id made =>
    match (values[id]?).join with
    | some v => v
    | none => .knot id (made.assemble fun part => unrolled.getD part .null)

def unroll (objects : Array Object) (values : Array (Option Value)) :
    (times : Nat) → Array Value → Array Value
  | 0, unrolled => unrolled
  | times + 1, unrolled => unroll objects values times (unrollOnce objects values unrolled)

/-- How often objects are unrolled: whoever follows one of them, or two at a time, meets one again
earlier. -/
def timesFor (n : Nat) : Nat := n + min (n * n) 4096 + 64

def values (objects : Array Object) : Array Value :=
  let values := settle objects (objects.size + 1) (Array.replicate objects.size none)
  let known := values.map fun v => v.getD .null
  match openCount values with
  | 0 => known
  | n => unroll objects values (timesFor n) known

end Unrolling

/-- The value of the bytes of a file: null if they hold no document. -/
def read (bytes : List UInt8) : Except Error Value := do
  let (cs, trouble) := sourceOf bytes
  match Reading.document (Supply.ofChars cs trouble) with
  | .error t => .error (.trouble t)
  | .ok none => return .null
  | .ok (some (nodes, root)) =>
    return (Unrolling.values (← Making.ofNodes nodes root)).getD root .null

end Conformance.Yaml
