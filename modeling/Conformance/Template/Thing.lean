import Conformance.Rule.Fault
import Conformance.Template.Kind

/-!
# Things that fields refer to

A field starts at a value and may go on by features and indices, to parts of the value, to its kind
and to the members of the kind. Operations are reached but never carried out.
-/

namespace Conformance.Template

inductive Thing where
  | value (v : Value)
  | kind (k : Kind)
  | kinds (ks : List Kind)
  /-- An operation of a thing; `plain` tells methods from slots. -/
  | operation (plain : Bool) (of : Thing) (owner : Kind) (name : String)
  | member (sort : Member) (owner : Kind) (name : String)
  | application (k : Kind) (argument : Value)
  deriving Repr

namespace Thing

def itsKind : Thing → Kind
  | value v => .ofValue v
  | kind _ => .type
  | kinds _ => .tuple
  | operation plain .. => if plain then .operation else .boundSlot
  | member .method .. => .method
  | member .slot .. => .slot
  | member .property .. => .property
  | member .field .. => .field
  | member .shared .. => .operation
  | member .void .. => .null
  | application .. => .application

def kindLabel : Thing → String
  | value v => v.fullKind
  | t => t.itsKind.label

def kindText (k : Kind) : String := s!"<class '{k.label}'>"

def literal : Thing → Except Unwritable String
  | value v => v.literal
  | kind k => .ok (kindText k)
  | kinds [k] => .ok ("(" ++ kindText k ++ ",)")
  | kinds ks => .ok ("(" ++ ", ".intercalate (ks.map kindText) ++ ")")
  | operation true of _ name => .ok s!"<built-in method {name} of {of.kindLabel} object>"
  | operation false of _ name => .ok s!"<method-wrapper '{name}' of {of.kindLabel} object>"
  | member .method owner name => .ok s!"<method '{name}' of '{owner.label}' objects>"
  | member .slot owner name => .ok s!"<slot wrapper '{name}' of '{owner.label}' objects>"
  | member .property owner name => .ok s!"<attribute '{name}' of '{owner.label}' objects>"
  | member .field owner name => .ok s!"<member '{name}' of '{owner.label}' objects>"
  | member .shared owner name => .ok s!"<method '{name}' of '{owner.label}' objects>"
  | member .void .. => .ok "None"
  | application k argument => do return k.label ++ "[" ++ (← argument.literal) ++ "]"

def text : Thing → Except Unwritable String
  | value v => v.text
  | t => t.literal

def ofText? (s : Option String) : Thing := value ((s.map .str).getD .null)

def property? (v : Value) (name : String) : Option Value :=
  match v, name with
  | .float _, "real" => some v
  | .nan _, "real" => some v
  | .float _, "imag" => some (.float 0.0)
  | .nan _, "imag" => some (.float 0.0)
  | v, "real" => v.asInt?.map .int
  | v, "numerator" => v.asInt?.map .int
  | v, "imag" => v.asInt?.map fun _ => .int 0
  | v, "denominator" => v.asInt?.map fun _ => .int 1
  | _, _ => none

/-- The member of a thing's kind that a name refers to, as the thing has it. -/
def bound? (t : Thing) (name : String) : Option Thing :=
  match t.itsKind.member? name with
  | some (owner, .method) => some (operation true t owner name)
  | some (owner, .slot) => some (operation false t owner name)
  | some (owner, .shared) => some (operation true (kind t.itsKind) owner name)
  | some (_, .void) => some (value .null)
  | _ => none

def kindFeature (k : Kind) (name : String) : Except Fault Thing :=
  match name with
  | "__class__" => .ok (kind .type)
  | "__name__" => .ok (value (.str k.name))
  | "__qualname__" => .ok (value (.str k.name))
  | "__module__" => .ok (value (.str k.home))
  | "__mro__" => .ok (kinds k.lineage)
  | "__bases__" => .ok (kinds (k.lineage.tail.take 1))
  | "__base__" => .ok (((k.lineage.tail.head?).map kind).getD (value .null))
  | "__doc__" => .ok (ofText? k.account?)
  | name =>
    match k.member? name with
    | some (_, .shared) => .ok (operation true (kind k) k name)
    | some (_, .void) => .ok (value .null)
    | some (owner, sort) => .ok (member sort owner name)
    | none => ((bound? (kind k) name).map .ok).getD (.error (.missingKindFeature k.name name))

/-- A feature that only operations, members and applications have. -/
def ownFeature? (t : Thing) (name : String) : Option Thing :=
  match t, name with
  | operation _ _ _ name, "__name__" => some (value (.str name))
  | operation true (kind k) _ name, "__qualname__" => some (value (.str s!"{k.name}.{name}"))
  | operation true of _ name, "__qualname__" =>
    some (value (.str s!"{of.itsKind.name}.{name}"))
  | operation false _ owner name, "__qualname__" => some (value (.str s!"{owner.name}.{name}"))
  | operation _ of _ _, "__self__" => some of
  | operation true .., "__module__" => some (value .null)
  | operation false _ owner _, "__objclass__" => some (kind owner)
  | member _ _ name, "__name__" => some (value (.str name))
  | member _ owner name, "__qualname__" => some (value (.str s!"{owner.name}.{name}"))
  | member _ owner _, "__objclass__" => some (kind owner)
  | application k _, "__origin__" => some (kind k)
  | application _ argument, "__args__" => some (value (.tuple [argument]))
  | application .., "__parameters__" => some (value (.tuple []))
  | _, _ => none

def feature (t : Thing) (name : String) : Except Fault Thing :=
  match t with
  | kind k => kindFeature k name
  | application k _ =>
    match ownFeature? t name with
    | some found => .ok found
    | none => if name == "__class__" then .ok (kind .application) else kindFeature k name
  | t =>
    let found :=
      if name == "__class__" then some (kind t.itsKind)
      else
        match t with
        | value v =>
          if name == "__doc__" then some (ofText? (Kind.ofValue v).account?)
          else ((property? v name).map value).or (bound? t name)
        | kinds _ =>
          if name == "__doc__" then some (ofText? Kind.tuple.account?) else bound? t name
        | t => (ownFeature? t name).or (bound? t name)
    match found with
    | some found => .ok found
    | none => .error (.missingFeature t.kindLabel name)

def valueAt (v : Value) (n : Nat) : Except Fault Thing :=
  let found (what : String) (part : Option Value) : Except Fault Thing :=
    (part.map fun part => .ok (value part)).getD (.error (.outOfRange what))
  match v with
  | .str s => found "string" ((s.toList[n]?).map fun c => .str (String.ofList [c]))
  | .list items => found "list" items[n]?
  | .tuple items => found "tuple" items[n]?
  | .map entries =>
    ((Entries.find? entries (.int n)).map fun part => .ok (value part)).getD
      (.error (.missingKey (toString n)))
  | v => .error (.notSubscriptable v.fullKind)

def valueUnder (v : Value) (name : String) : Except Fault Thing :=
  match v with
  | .str _ => .error .textIndex
  | .list _ => .error (.sequenceIndex "list")
  | .tuple _ => .error (.sequenceIndex "tuple")
  | .map entries =>
    ((Entries.get? entries name).map fun part => .ok (value part)).getD
      (.error (.missingKey (Text.quoted name)))
  | v => .error (.notSubscriptable v.fullKind)

def apply (k : Kind) (argument : Value) : Except Fault Thing :=
  if k.isGeneric then .ok (application k argument) else .error (.kindNotSubscriptable k.label)

def noParts : Thing → Fault
  | application k argument => .notGeneric (((application k argument).literal.toOption).getD "")
  | t => .notSubscriptable t.kindLabel

def index (t : Thing) (n : Nat) : Except Fault Thing :=
  match t with
  | value v => valueAt v n
  | kind k => apply k (.int n)
  | kinds ks => ((ks[n]?).map fun k => .ok (kind k)).getD (.error (.outOfRange "tuple"))
  | t => .error t.noParts

def key (t : Thing) (name : String) : Except Fault Thing :=
  match t with
  | value v => valueUnder v name
  | kind k => apply k (.str name)
  | kinds _ => .error (.sequenceIndex "tuple")
  | t => .error t.noParts

end Thing

end Conformance.Template
