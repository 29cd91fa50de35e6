import Conformance.Pack.Basic
import Conformance.Rule.Engine

/-!
# The registry

A registry holds the rules of some packs together with those of the engine, sorted by identifier.
It is built only if all identifiers differ, every rule makes sense, and the configuration names
known rules.
-/

namespace Conformance

structure Config where
  /-- Annotations outside the table are let through if this counts as true. -/
  permissive : Value := .bool false
  overrides : List (String × Severity) := []
  disabled : List Value := []

namespace Config

def make (permissive : Value) (overrides : List (String × Value)) (disabled : Value) :
    Except PolicyError Config := do
  let overrides ← overrides.mapM fun (id, level) =>
    match Severity.parse level with
    | .ok severity => .ok (id, severity)
    | .error cause => .error (.badOverride id cause)
  match disabled.keyItems with
  | .ok disabled => return { permissive, overrides, disabled }
  | .error cause => .error (.fault cause)

def leavesOut (config : Config) (id : String) : Bool := config.disabled.any (·.isText id)

end Config

structure Registry where
  config : Config
  /-- The rules, sorted by identifier, each with the name of its pack. -/
  entries : List (Rule × Value)

def Draft.toRule (d : Draft) : Except PolicyError Rule :=
  let id := d.id.ownText
  if (Text.trim id).isEmpty then .error .emptyId
  else if d.category == .engine then .error (.reservedCategory id)
  else
    match d.target with
    | none => .error (.noTarget id)
    | some target =>
      if !d.category.targets.contains target then .error (.badTarget id d.category target)
      else if d.predicate.isNone then .error (.noPredicate id)
      else if d.message.ownText.isEmpty then .error (.noMessage id)
      else .ok { toRuleBody := d.toRuleBody, id, message := d.message.ownText }

namespace Rule

def withOverride (r : Rule) (config : Config) : Rule :=
  { r with severity := (config.overrides.lookup r.id).getD r.severity }

def looksAt (r : Rule) (kind : NodeKind) : Bool :=
  match r.target with
  | none => false
  | some .declaration => kind == .type || kind == .method || kind == .field
  | some target => target == kind

end Rule

namespace Registry

def enginePack : Value := .str "engine"

def inlineOrigin : Value := .str "<inline>"

def engineEntries : List (Rule × Value) := Rule.engineRules.map fun r => (r, enginePack)

def originIn (entries : List (Rule × Value)) (id : String) : Option Value :=
  (entries.find? fun entry => entry.1.id == id).map Prod.snd

/-- The error of two rules with one identifier, from the packs with the given names. -/
def clash (id first second : Value) : Except PolicyError Unit := do
  let first ← PolicyError.packName first
  let second ← PolicyError.packName second
  .error (.duplicateRule (← PolicyError.written id.text) first second)

/-- Refuses an identifier that cannot be told apart from others. -/
def checkKey (id : Value) : Except PolicyError Unit :=
  match id.keyFault? with
  | some kind => .error (.fault (.unhashable kind))
  | none => .ok ()

/-- Adds rules, each with the name of its pack, one after another to those known. -/
def enrol (known : List (Rule × Value)) :
    List (Draft × Value) → Except PolicyError (List (Rule × Value))
  | [] => .ok known
  | (draft, pack) :: rest => do
    checkKey draft.id
    match draft.id with
    | .str id =>
      match originIn known id with
      | some first => clash draft.id first pack
      | none => pure ()
    | _ => pure ()
    let rule ← draft.toRule
    enrol (known ++ [(rule, if pack.isTruthy then pack else inlineOrigin)]) rest

def checkOverrides (entries : List (Rule × Value)) :
    List (String × Severity) → Except PolicyError Unit
  | [] => .ok ()
  | (id, _) :: rest =>
    if (originIn entries id).isSome then checkOverrides entries rest
    else .error (.unknownOverride id)

def checkDisabled (entries : List (Rule × Value)) : List Value → Except PolicyError Unit
  | [] => .ok ()
  | id :: rest => do
    let text ← PolicyError.written id.text
    match entries.find? fun entry => id.isText entry.1.id with
    | none => .error (.unknownDisabled text)
    | some (rule, _) =>
      if rule.isEngine then .error (.engineDisabled text) else checkDisabled entries rest

/-- The registry of rules, each with the name of the pack it comes from, or null. -/
def ofRules (rules : List (Draft × Value)) (config : Config) : Except PolicyError Registry := do
  let entries ← enrol engineEntries rules
  checkOverrides entries config.overrides
  checkDisabled entries config.disabled
  let entries := entries.map fun entry => (entry.1.withOverride config, entry.2)
  return { config, entries := entries.mergeSort fun a b => Text.atMost a.1.id b.1.id }

def checkClashes (seen : Entries) : List (Draft × Value) → Except PolicyError Unit
  | [] => .ok ()
  | (draft, pack) :: rest => do
    checkKey draft.id
    match seen.find? draft.id with
    | some first => clash draft.id first pack
    | none => pure ()
    checkClashes ((draft.id, pack) :: seen) rest

def ofPacks (packs : List Pack) (config : Config) : Except PolicyError Registry := do
  let rules := packs.flatMap fun p => p.rules.map fun r => (r, p.name)
  checkClashes [] rules
  ofRules rules config

def rules (reg : Registry) : List Rule := reg.entries.map Prod.fst

def get? (reg : Registry) (id : String) : Option Rule := reg.rules.find? (·.id == id)

def contains (reg : Registry) (id : String) : Bool := (reg.get? id).isSome

def origin? (reg : Registry) (id : String) : Option Value := originIn reg.entries id

def isEnabled (reg : Registry) (id : String) : Bool :=
  reg.contains id && !reg.config.leavesOut id

def rulesFor (reg : Registry) (kind : NodeKind) : List Rule :=
  reg.rules.filter fun r => !r.isEngine && !reg.config.leavesOut r.id && r.looksAt kind

def engineSeverity (reg : Registry) (rule : Rule) : Severity :=
  ((reg.get? rule.id).getD rule).severity

def unknownText (id : String) : String := s!"Unknown rule identifier: {id}"

end Registry

end Conformance
