import Conformance.Document.Yaml.Node

/-!
# Merge keys

A mapping may take over the entries of others by merge keys, which are resolved in the nodes
themselves: the entries that are taken over come in front of the others, and of a list of mappings
the last one comes first. A key that stands for the value of its mapping becomes a text.
-/

namespace Conformance.Yaml

namespace Store

/-- The entries of the mappings of a list, the last mapping first. -/
def listedEntries (nodes : Store) (ids : List Nat) : List (Nat × Nat) :=
  ids.reverse.flatMap nodes.entries

def resolveListed (resolve : Nat → Store → Except Defect Store) :
    List Nat → Store → Except Defect Store
  | [], nodes => .ok nodes
  | id :: rest, nodes => do
    match nodes.content id with
    | .mapping _ => resolveListed resolve rest (← resolve id nodes)
    | _ => .error .badMerge

def resolveSource (resolve : Nat → Store → Except Defect Store) (source : Nat) (nodes : Store) :
    Except Defect (List (Nat × Nat) × Store) := do
  match nodes.content source with
  | .mapping _ =>
    let nodes ← resolve source nodes
    return (nodes.entries source, nodes)
  | .sequence ids =>
    let nodes ← resolveListed resolve ids nodes
    return (nodes.listedEntries ids, nodes)
  | .scalar _ => .error .badMerge

/-- Resolves the merge keys among the entries of a mapping: `kept` are those in front, and `taken`
what was taken over. A mapping that is its own source has no merge key left when that is resolved.
-/
def resolveEntries (resolve : Nat → Store → Except Defect Store) (id : Nat)
    (taken kept : List (Nat × Nat)) : List (Nat × Nat) → Store → Except Defect Store
  | [], nodes => .ok (nodes.setContent id (.mapping (taken ++ kept)))
  | entry :: rest, nodes => do
    match nodes.tag entry.1 with
    | .merge =>
      let left := kept ++ rest
      let (more, nodes) ← resolveSource resolve entry.2 (nodes.setContent id (.mapping left))
      if nodes.entries id == left then
        resolveEntries resolve id (taken ++ more) kept rest nodes
      else return nodes.setContent id (.mapping (taken ++ more ++ nodes.entries id))
    | .value =>
      resolveEntries resolve id taken (kept ++ [entry]) rest (nodes.setTag entry.1 .str)
    | _ => resolveEntries resolve id taken (kept ++ [entry]) rest nodes

/-- Resolves the merge keys of a mapping. Each step inwards removes one, so that there are no more
steps than merge keys. -/
def resolveMapping : (fuel : Nat) → (id : Nat) → Store → Except Defect Store
  | 0, _, nodes => .ok nodes
  | fuel + 1, id, nodes =>
    resolveEntries (resolveMapping fuel) id [] [] (nodes.entries id) nodes

def entryCount (nodes : Store) : Nat :=
  nodes.foldl (fun n node =>
    match node.content with
    | .mapping entries => n + entries.length
    | _ => n) 0

def resolve (nodes : Store) (id : Nat) : Except Defect Store :=
  resolveMapping (nodes.entryCount + 1) id nodes

end Store

end Conformance.Yaml
