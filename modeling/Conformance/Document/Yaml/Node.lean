import Conformance.Document.Yaml.Layout
import Conformance.Document.Yaml.Schema

/-!
# Nodes

The nodes of a document: scalars, sequences and mappings, each with its tag. They are kept in a
store and known by their numbers, so that an alias stands for the very node that an anchor named,
which may be one that the alias is inside of.
-/

namespace Conformance.Yaml

inductive Content where
  | scalar (text : String)
  | sequence (items : List Nat)
  | mapping (entries : List (Nat × Nat))
  deriving DecidableEq, Repr, Inhabited

structure Node where
  tag : Tag
  content : Content
  deriving DecidableEq, Repr, Inhabited

abbrev Store := Array Node

namespace Store

def tag (nodes : Store) (id : Nat) : Tag := (nodes[id]?.map Node.tag).getD .null

def content (nodes : Store) (id : Nat) : Content :=
  (nodes[id]?.map Node.content).getD (.scalar "")

def entries (nodes : Store) (id : Nat) : List (Nat × Nat) :=
  match nodes.content id with
  | .mapping entries => entries
  | _ => []

def setTag (nodes : Store) (id : Nat) (tag : Tag) : Store :=
  nodes.modify id fun node => { node with tag }

def setContent (nodes : Store) (id : Nat) (content : Content) : Store :=
  nodes.modify id fun node => { node with content }

end Store

structure Reading where
  supply : Supply
  nodes : Store := #[]
  named : List (String × Nat) := []

structure Properties where
  anchor : Option String := none
  tag : Option String := none

namespace Reading

def peek (r : Reading) : Except Trouble (Option Token) :=
  match r.supply.tokens, r.supply.trouble with
  | t :: _, _ => .ok (some t)
  | [], none => .ok none
  | [], some trouble => .error trouble

def skip (r : Reading) : Reading :=
  { r with supply := { r.supply with tokens := r.supply.tokens.drop 1 } }

def reject {α : Type} (d : Defect) : Except Trouble α := .error (.defect d)

def isNext (wanted : Token → Bool) (r : Reading) : Except Trouble Bool := do
  return (← r.peek).any wanted

def add (r : Reading) (tag : Tag) (content : Content) : Nat × Reading :=
  (r.nodes.size, { r with nodes := r.nodes.push { tag, content } })

/-- The node that stands where nothing is written. -/
def empty (r : Reading) : Nat × Reading := r.add .null (.scalar "")

def complete (r : Reading) (id : Nat) (content : Content) : Reading :=
  { r with nodes := r.nodes.setContent id content }

/-- Gives a name to the next node; it may not be used twice. -/
def name (r : Reading) : Option String → Except Trouble Reading
  | none => .ok r
  | some name =>
    if r.named.any (·.1 == name) then reject .duplicateAnchor
    else .ok { r with named := (name, r.nodes.size) :: r.named }

def standardHandles : List (String × String) := [("!", "!"), ("!!", Tag.family)]

def expandTag (handles : List (String × String)) :
    Option (Option String × String) → Except Trouble (Option String)
  | none => .ok none
  | some (none, suffix) => .ok (some suffix)
  | some (some handle, suffix) =>
    match handles.lookup handle with
    | some expansion => .ok (some (expansion ++ suffix))
    | none => reject .unknownHandle

def anchor (r : Reading) : Except Trouble (Option String × Reading) := do
  match ← r.peek with
  | some (.anchor name) => return (some name, r.skip)
  | _ => return (none, r)

def tagParts (r : Reading) : Except Trouble (Option (Option String × String) × Reading) := do
  match ← r.peek with
  | some (.tag handle suffix) => return (some (handle, suffix), r.skip)
  | _ => return (none, r)

def properties (handles : List (String × String)) (r : Reading) :
    Except Trouble (Properties × Reading) := do
  let (first, r) ← r.anchor
  let (parts, r) ← r.tagParts
  let (anchor, r) ← if first.isNone && parts.isSome then r.anchor else pure (first, r)
  return ({ anchor, tag := ← expandTag handles parts }, r)

def endsBlockValue : Token → Bool
  | .key | .value | .blockEnd => true
  | _ => false

def endsBlockEntry : Token → Bool
  | .blockEntry | .blockEnd => true
  | _ => false

/-- The tokens in front of which an entry of a sequence without indentation is empty. -/
def endsBareEntry : Token → Bool
  | .blockEntry | .key | .value | .blockEnd => true
  | _ => false

/-- Whether an entry between brackets ends in front of a token: at a comma, or at the bracket that
closes what it is in. -/
def endsFlowEntry (close : Token) (t : Token) : Bool := t == .flowEntry || t == close

def endsFlowKey (close : Token) (t : Token) : Bool := t == .value || endsFlowEntry close t

/-- Content may be absent where an anchor or a tag is given. -/
def absent (props : Properties) (r : Reading) : Except Trouble (Nat × Reading) := do
  if props.anchor.isSome || props.tag.isSome then
    return (← r.name props.anchor).add (Tag.ofScalar props.tag true "") (.scalar "")
  else reject .missingContent

def separated (first : Bool) (r : Reading) : Except Trouble Reading := do
  if first then return r
  match ← r.peek with
  | some .flowEntry => return r.skip
  | _ => reject .missingFlowEnd

mutual

/-- Reads a node. `block` tells whether blocks may start here, and `bare` whether the entries of a
sequence may stand here without an indentation of their own. -/
def node (handles : List (String × String)) (block bare : Bool) :
    (fuel : Nat) → Reading → Except Trouble (Nat × Reading)
  | 0, _ => reject .missingContent
  | fuel + 1, r => do
    match ← r.peek with
    | some (.alias name) =>
      match r.named.lookup name with
      | some found => return (found, r.skip)
      | none => reject .unknownAlias
    | _ =>
      let (props, r) ← properties handles r
      content handles block bare props fuel r

def content (handles : List (String × String)) (block bare : Bool) (props : Properties) :
    (fuel : Nat) → Reading → Except Trouble (Nat × Reading)
  | 0, _ => reject .missingContent
  | fuel + 1, r => do
    match ← r.peek with
    | some (.scalar text plain) =>
      return (← r.skip.name props.anchor).add (Tag.ofScalar props.tag plain text) (.scalar text)
    | some .flowSequence =>
      let (id, r) := (← r.skip.name props.anchor).add (Tag.ofSequence props.tag) (.sequence [])
      let (items, r) ← flowItems handles true fuel r
      return (id, r.complete id (.sequence items))
    | some .flowMapping =>
      let (id, r) := (← r.skip.name props.anchor).add (Tag.ofMapping props.tag) (.mapping [])
      let (entries, r) ← flowEntries handles true fuel r
      return (id, r.complete id (.mapping entries))
    | some .blockEntry =>
      if bare then
        let (id, r) := (← r.name props.anchor).add (Tag.ofSequence props.tag) (.sequence [])
        let (items, r) ← bareItems handles fuel r
        return (id, r.complete id (.sequence items))
      else absent props r
    | some .blockSequence =>
      if block then
        let (id, r) := (← r.skip.name props.anchor).add (Tag.ofSequence props.tag) (.sequence [])
        let (items, r) ← blockItems handles fuel r
        return (id, r.complete id (.sequence items))
      else absent props r
    | some .blockMapping =>
      if block then
        let (id, r) := (← r.skip.name props.anchor).add (Tag.ofMapping props.tag) (.mapping [])
        let (entries, r) ← blockEntries handles fuel r
        return (id, r.complete id (.mapping entries))
      else absent props r
    | _ => absent props r

def blockItems (handles : List (String × String)) :
    (fuel : Nat) → Reading → Except Trouble (List Nat × Reading)
  | 0, _ => reject .missingBlockEnd
  | fuel + 1, r => do
    match ← r.peek with
    | some .blockEntry =>
      let r := r.skip
      let (item, r) ← if ← r.isNext endsBlockEntry then pure r.empty
        else node handles true false fuel r
      let (items, r) ← blockItems handles fuel r
      return (item :: items, r)
    | some .blockEnd => return ([], r.skip)
    | _ => reject .missingBlockEnd

def bareItems (handles : List (String × String)) :
    (fuel : Nat) → Reading → Except Trouble (List Nat × Reading)
  | 0, _ => reject .missingBlockEnd
  | fuel + 1, r => do
    match ← r.peek with
    | some .blockEntry =>
      let r := r.skip
      let (item, r) ← if ← r.isNext endsBareEntry then pure r.empty
        else node handles true false fuel r
      let (items, r) ← bareItems handles fuel r
      return (item :: items, r)
    | _ => return ([], r)

def blockEntries (handles : List (String × String)) :
    (fuel : Nat) → Reading → Except Trouble (List (Nat × Nat) × Reading)
  | 0, _ => reject .missingBlockEnd
  | fuel + 1, r => do
    match ← r.peek with
    | some .key =>
      let r := r.skip
      let (key, r) ← if ← r.isNext endsBlockValue then pure r.empty
        else node handles true true fuel r
      let (found, r) ← blockValue handles fuel r
      let (entries, r) ← blockEntries handles fuel r
      return ((key, found) :: entries, r)
    | some .blockEnd => return ([], r.skip)
    | _ => reject .missingBlockEnd

def blockValue (handles : List (String × String)) :
    (fuel : Nat) → Reading → Except Trouble (Nat × Reading)
  | 0, _ => reject .missingBlockEnd
  | fuel + 1, r => do
    match ← r.peek with
    | some .value =>
      let r := r.skip
      if ← r.isNext endsBlockValue then return r.empty else node handles true true fuel r
    | _ => return r.empty

/-- Reads the entries of a sequence between brackets; a key there starts a mapping of one entry. -/
def flowItems (handles : List (String × String)) (first : Bool) :
    (fuel : Nat) → Reading → Except Trouble (List Nat × Reading)
  | 0, _ => reject .missingFlowEnd
  | fuel + 1, r => do
    if ← r.isNext (· == .flowSequenceEnd) then return ([], r.skip)
    else
      let r ← separated first r
      match ← r.peek with
      | some .flowSequenceEnd => return ([], r.skip)
      | some .key =>
        let (id, r) := r.skip.add .map (.mapping [])
        let (key, r) ← flowKey handles .flowSequenceEnd fuel r
        let (found, r) ← flowValue handles .flowSequenceEnd fuel r
        let (items, r) ← flowItems handles false fuel (r.complete id (.mapping [(key, found)]))
        return (id :: items, r)
      | _ =>
        let (item, r) ← node handles false false fuel r
        let (items, r) ← flowItems handles false fuel r
        return (item :: items, r)

/-- Reads the entries of a mapping between brackets; an entry without a key mark has no value. -/
def flowEntries (handles : List (String × String)) (first : Bool) :
    (fuel : Nat) → Reading → Except Trouble (List (Nat × Nat) × Reading)
  | 0, _ => reject .missingFlowEnd
  | fuel + 1, r => do
    if ← r.isNext (· == .flowMappingEnd) then return ([], r.skip)
    else
      let r ← separated first r
      match ← r.peek with
      | some .flowMappingEnd => return ([], r.skip)
      | some .key =>
        let (key, r) ← flowKey handles .flowMappingEnd fuel r.skip
        let (found, r) ← flowValue handles .flowMappingEnd fuel r
        let (entries, r) ← flowEntries handles false fuel r
        return ((key, found) :: entries, r)
      | _ =>
        let (key, r) ← node handles false false fuel r
        let (found, r) := r.empty
        let (entries, r) ← flowEntries handles false fuel r
        return ((key, found) :: entries, r)

def flowKey (handles : List (String × String)) (close : Token) :
    (fuel : Nat) → Reading → Except Trouble (Nat × Reading)
  | 0, _ => reject .missingFlowEnd
  | fuel + 1, r => do
    if ← r.isNext (endsFlowKey close) then return r.empty else node handles false false fuel r

def flowValue (handles : List (String × String)) (close : Token) :
    (fuel : Nat) → Reading → Except Trouble (Nat × Reading)
  | 0, _ => reject .missingFlowEnd
  | fuel + 1, r => do
    match ← r.peek with
    | some .value =>
      let r := r.skip
      if ← r.isNext (endsFlowEntry close) then return r.empty
      else node handles false false fuel r
    | _ => return r.empty

end

/-- Reads the directives in front of a document: whether a version was given, and the handles. -/
def directives (versioned : Bool) (handles : List (String × String)) :
    (fuel : Nat) → Reading → Except Trouble (List (String × String) × Reading)
  | 0, r => .ok (handles, r)
  | fuel + 1, r => do
    match ← r.peek with
    | some (.directive (.version major)) =>
      if versioned then reject .duplicateDirective
      else if major != 1 then reject .unknownVersion
      else directives true handles fuel r.skip
    | some (.directive (.handle name expansion)) =>
      if handles.any (·.1 == name) then reject .duplicateDirective
      else directives versioned ((name, expansion) :: handles) fuel r.skip
    | some (.directive .other) => directives versioned handles fuel r.skip
    | _ => return (handles, r)

def endsDocument : Token → Bool
  | .directive _ | .documentStart | .documentEnd => true
  | _ => false

/-- Each step of the reading takes a token or goes on to one that does. -/
def steps (r : Reading) : Nat := 3 * r.supply.tokens.length + 4

def documentStart (r : Reading) : Except Trouble (List (String × String) × Reading) := do
  let (handles, r) ← directives false [] r.steps r
  if ← r.isNext (· == .documentStart) then return (handles ++ standardHandles, r.skip)
  else reject .missingDocumentStart

def explicitDocument (r : Reading) : Except Trouble (Nat × Reading) := do
  let (handles, r) ← r.documentStart
  match ← r.peek with
  | none => return r.empty
  | some t => if endsDocument t then return r.empty else node handles true false r.steps r

def afterEnds : (fuel : Nat) → Reading → Except Trouble Reading
  | 0, r => .ok r
  | fuel + 1, r => do
    if ← r.isNext (· == .documentEnd) then afterEnds fuel r.skip else return r

/-- Nothing may follow the only document of a text. -/
def finish (r : Reading) : Except Trouble Unit := do
  let r ← afterEnds r.steps r
  match ← r.peek with
  | none => return ()
  | some _ =>
    let _ ← r.documentStart
    reject .severalDocuments

/-- The only document of a text, as its nodes and the number of the outermost one; none if the text
has no token. -/
def document (supply : Supply) : Except Trouble (Option (Store × Nat)) := do
  let r : Reading := { supply }
  match ← r.peek with
  | none => return none
  | some t =>
    let explicit := match t with
      | .directive _ => true
      | .documentStart => true
      | _ => false
    let (root, r) ← if explicit then r.explicitDocument
      else node standardHandles true false r.steps r
    r.finish
    return some (r.nodes, root)

end Reading

end Conformance.Yaml
