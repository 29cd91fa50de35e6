import Conformance.Document.Order
import Conformance.Severity
import Conformance.Symbol.Site
import Conformance.Template.Render

/-!
# Rules

A rule has an identifier, a category, the kind of node it looks at, a severity, a message template,
parameters, and a predicate. A predicate looks at one node and either lets it pass, reports a match,
or fails; it may also ask for the run to stop, or break off the evaluation of the unit. A draft is a
rule as it is given, whose identifier and message may still be any values.
-/

namespace Conformance

inductive Category where
  | annotationPolicy
  | documentation
  | naming
  | resourceLifecycle
  | concurrency
  | exceptionHandling
  | engine
  deriving DecidableEq, Repr

namespace Category

def label : Category → String
  | annotationPolicy => "annotation-policy"
  | documentation => "documentation"
  | naming => "naming"
  | resourceLifecycle => "resource-lifecycle"
  | concurrency => "concurrency"
  | exceptionHandling => "exception-handling"
  | engine => "engine"

def ofLabel? : String → Option Category
  | "annotation-policy" => some annotationPolicy
  | "documentation" => some documentation
  | "naming" => some naming
  | "resource-lifecycle" => some resourceLifecycle
  | "concurrency" => some concurrency
  | "exception-handling" => some exceptionHandling
  | "engine" => some engine
  | _ => none

@[simp] theorem ofLabel?_label (c : Category) : ofLabel? c.label = some c := by cases c <;> rfl

def targets : Category → List NodeKind
  | annotationPolicy => [.type, .method, .field, .declaration, .mark]
  | documentation => [.type, .method, .field, .declaration, .doc]
  | naming => [.type, .method, .field, .declaration]
  | resourceLifecycle => [.type, .method, .declaration]
  | concurrency => [.type, .method, .field, .declaration, .mark]
  | exceptionHandling => [.method]
  | engine => []

end Category

inductive Tier where
  | allowed
  | caution
  | banned
  deriving DecidableEq, Repr

/-- The policy for one annotation name. A caution entry may list arguments that have to be present,
possibly only where the marker in `whenMarked` is found. -/
structure TableEntry where
  tier : Tier
  reason : String := ""
  requires : Entries := []
  whenMarked : Value := .null

abbrev AnnotationTable := List (String × TableEntry)

inductive Param where
  | value (v : Value)
  | table (t : AnnotationTable)

/-- The parameters of a rule. Only those whose key is a text can be looked up. -/
abbrev Params := List (Value × Param)

namespace Params

def get? (params : Params) (name : String) : Option Param :=
  (params.find? fun p => p.1.isText name).map Prod.snd

def names (params : Params) : Except OrderError (List Value) := Value.sorted (params.map Prod.fst)

def valueOr (params : Params) (name : String) (default : Value) : Value :=
  match params.get? name with
  | some (.value v) => v
  | some (.table _) => .map []
  | none => default

end Params

/-- A match of a rule: where, if not at the node itself, and values for the message. -/
structure Match where
  span : Option Span := none
  values : Template.Fields := []

structure Context where
  unit : SourceUnit
  params : Params
  permissive : Bool

inductive Escape where
  | crash (cause : Fault)
  /-- A request to end the run at once. -/
  | interrupt
  deriving Repr

inductive Outcome where
  | pass
  | hit (m : Match)
  | fault (f : Fault)
  /-- The node passes, and no further unit is to be started. -/
  | stop
  | escape (e : Escape)

abbrev Predicate := Node → Context → Outcome

/-- A predicate that only passes, matches or fails. -/
abbrev Inspection := Node → Context → Except Fault (Option Match)

def Inspection.toPredicate (inspect : Inspection) : Predicate := fun node context =>
  match inspect node context with
  | .ok none => .pass
  | .ok (some m) => .hit m
  | .error f => .fault f

/-- What a rule has besides its identifier and its message. -/
structure RuleBody where
  category : Category
  target : Option NodeKind
  severity : Severity
  predicate : Option Predicate := none
  description : Value := .str ""
  params : Params := []

structure Rule extends RuleBody where
  id : String
  message : String

structure Draft extends RuleBody where
  id : Value
  message : Value

inductive RuleError where
  | badCategory (shown : String)
  | badSeverity (cause : Severity.Error)
  | badTarget (shown : String)
  | unwritable (cause : Unwritable)
  deriving DecidableEq, Repr

def RuleError.message : RuleError → String
  | badCategory shown => s!"{shown} is not a valid Category"
  | badSeverity cause => cause.message
  | badTarget shown => s!"{shown} is not a valid NodeKind"
  | unwritable cause => cause.message

def Value.ownText : Value → String
  | .str s => s
  | _ => ""

def NodeKind.parse (given : Value) : Except RuleError NodeKind :=
  match NodeKind.ofLabel? given.ownText with
  | some kind => .ok kind
  | none =>
    match given.literal with
    | .ok shown => .error (.badTarget shown)
    | .error cause => .error (.unwritable cause)

def Category.parse (given : Value) : Except RuleError Category :=
  match Category.ofLabel? given.ownText with
  | some category => .ok category
  | none =>
    match given.literal with
    | .ok shown => .error (.badCategory shown)
    | .error cause => .error (.unwritable cause)

/-- A draft from the values that describe it; a target that is null counts as none. -/
def Draft.ofValues (id category target severity message : Value) (predicate : Option Predicate)
    (description : Value) (params : Params) : Except RuleError Draft := do
  let category ← Category.parse category
  let severity ← match Severity.parse severity with
    | .ok s => .ok s
    | .error e => .error (.badSeverity e)
  let target ← match target with
    | .null => .ok none
    | given => some <$> NodeKind.parse given
  return { id, category, target, severity, message, predicate, description, params }

def RuleBody.isEngine (r : RuleBody) : Bool := r.category == .engine

def Rule.toDraft (r : Rule) : Draft where
  toRuleBody := r.toRuleBody
  id := .str r.id
  message := .str r.message

def Node.kindText : Node → String
  | declaration site => site.declaration.kind.label
  | mark .. => "annotation"
  | doc .. => "doccomment"

def renderFields : List String := ["rule_id", "name", "kind", "qualified_name"]

def nodeFields (id : Value) (node : Node) (unit : SourceUnit) : Template.Fields :=
  [("rule_id", id), ("name", .str node.name), ("kind", .str node.kindText)] ++
    (node.site?.map fun site => ("qualified_name", Value.str (unit.qualifiedName site))).toList

/-- The message for a match; the values of the match come before those of the node. -/
def Rule.render (r : Rule) (node : Node) (unit : SourceUnit) (values : Template.Fields) :
    Except Fault String :=
  Template.render r.message (values ++ nodeFields (.str r.id) node unit)

def Draft.render (d : Draft) (node : Node) (unit : SourceUnit) (values : Template.Fields) :
    Except Fault String :=
  match d.message with
  | .str template => Template.render template (values ++ nodeFields d.id node unit)
  | v => .error (.missingFeature v.fullKind "format_map")

end Conformance
