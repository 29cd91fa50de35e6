import Conformance.Rule.Basic

/-!
# What checks read

Checks may be put on nodes of a kind they were not made for, and their parameters may be any values.
What a node lacks, and what a value cannot give, are faults that name the first thing missing.
-/

namespace Conformance

namespace Node

def shape : Node → String
  | declaration site =>
    match site.declaration with
    | .type .. => "TypeDeclaration"
    | .method .. => "MethodDeclaration"
    | .field .. => "FieldDeclaration"
  | mark .. => "Annotation"
  | doc .. => "DocComment"

def lacks (node : Node) (feature : String) : Fault := .missingFeature node.shape feature

def named : Node → Except Fault String
  | declaration site => .ok site.name
  | mark _ a => .ok a.name
  | node => .error (node.lacks "name")

def asSite (feature : String) : Node → Except Fault Site
  | declaration site => .ok site
  | node => .error (node.lacks feature)

def asMark (feature : String) : Node → Except Fault (Option Site × Annotation)
  | mark target a => .ok (target, a)
  | node => .error (node.lacks feature)

def asDoc (feature : String) : Node → Except Fault (Option Site × DocComment)
  | doc owner d => .ok (owner, d)
  | node => .error (node.lacks feature)

def asMethod (feature : String) (node : Node) : Except Fault (Site × Header × Signature) :=
  match node with
  | declaration site =>
    match site.declaration with
    | .method header signature => .ok (site, header, signature)
    | _ => .error (node.lacks feature)
  | _ => .error (node.lacks feature)

end Node

namespace Value

/-- The items that a value can be gone through by: those of a list or a set, the characters of a
text, the numbers of bytes, the keys of a mapping. -/
def iterate (v : Value) : Except Fault (List Value) :=
  match v.bare with
  | list items => .ok items
  | tuple items => .ok items
  | set items => .ok items
  | str s => .ok (s.toList.map fun c => str (String.ofList [c]))
  | bytes bs => .ok (bs.map fun b => int b.toNat)
  | map entries => .ok (entries.map Prod.fst)
  | v => .error (.notIterable v.fullKind)

def keyItems (v : Value) : Except Fault (List Value) := do
  let items ← v.iterate
  match firstKeyFault? items with
  | some kind => .error (.unhashable kind)
  | none => return items

/-- Whether a text is in a value: an item of a list or a set, a part of a text, a key of a
mapping. -/
def holds (v : Value) (text : String) : Except Fault Bool :=
  match v.bare with
  | list items => .ok (items.any (isText text))
  | tuple items => .ok (items.any (isText text))
  | set items => .ok (items.any (isText text))
  | str s => .ok (Text.containsChars text.toList s.toList)
  | bytes _ => .error .bytesNeeded
  | map entries => .ok (Entries.has entries text)
  | v => .error (.notContainer v.fullKind)

def asName : Value → Except Fault String
  | str s => .ok s
  | bytes _ => .error .bytesNeeded
  | v => .error (.missingFeature v.fullKind "rsplit")

def written (v : Value) : Except Fault String := Template.written v.text

def writtenLiteral (v : Value) : Except Fault String := Template.written v.literal

end Value

def Value.ofTexts (texts : List String) : Value := .list (texts.map .str)

/-- The items of a list of values that satisfy a test which may fail, up to the first failure. -/
def filterNamed (test : String → Bool) : List Value → Except Fault (List Value)
  | [] => .ok []
  | v :: rest => do
    let name ← v.asName
    let more ← filterNamed test rest
    return if test name then v :: more else more

/-- The first item that satisfies a test which may fail; later items are not looked at. -/
def findNamed (test : String → Bool) : List Value → Except Fault (Option String)
  | [] => .ok none
  | v :: rest => do
    let name ← v.asName
    if test name then return some name else findNamed test rest

end Conformance
