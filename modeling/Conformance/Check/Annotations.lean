import Conformance.Check.Access

/-!
# Annotation checks

Annotations are judged by a table of names. A name is looked up as written, as the imports resolve
its last part, and by its last part alone.
-/

namespace Conformance.Check

/-- What a table holds under a name. A parameter that was not prepared holds plain values, which
have no tier. -/
inductive TableHit where
  | entry (e : TableEntry)
  | plain (v : Value)

def tableOf (params : Params) : Param :=
  (params.get? "table").getD (.value (.map []))

/-- What a table holds under a name; null counts as nothing. -/
def tableGet? (table : Param) (name : String) : Except Fault (Option TableHit) :=
  match table with
  | .table entries => .ok ((entries.lookup name).map .entry)
  | .value v =>
    match v.bare with
    | .map entries =>
      match Entries.get? entries name with
      | none => .ok none
      | some .null => .ok none
      | some v => .ok (some (.plain v))
    | v => .error (.missingFeature v.fullKind "get")

def firstHit (table : Param) : List String → Except Fault (Option TableHit)
  | [] => .ok none
  | name :: rest => do
    match ← tableGet? table name with
    | some hit => return some hit
    | none => firstHit table rest

def candidates (unit : SourceUnit) (a : Annotation) : List String :=
  [a.name, unit.resolveName a.simpleName, a.simpleName]

def annotationOf (node : Node) : Except Fault (Option Site × Annotation) := do
  let _ ← node.named
  node.asMark "simple_name"

def hitFor (a : Annotation) (context : Context) : Except Fault (Option TableHit) :=
  firstHit (tableOf context.params) (candidates context.unit a)

def TableHit.asEntry : TableHit → Except Fault TableEntry
  | entry e => .ok e
  | plain v => .error (.missingFeature v.fullKind "tier")

def orElseText (s other : String) : String := if s.isEmpty then other else s

def bannedMark : Inspection := fun node context => do
  let (_, a) ← annotationOf node
  match ← hitFor a context with
  | none => return none
  | some hit =>
    let e ← hit.asEntry
    if e.tier == .banned then
      return some { values := [
        ("annotation", .str a.name),
        ("reason", .str (orElseText e.reason "banned by policy"))] }
    else return none

/-- Annotations that the table does not know, unless the policy is permissive. -/
def unlistedMark : Inspection := fun node context => do
  if context.permissive then return none
  else
    let (_, a) ← annotationOf node
    match ← hitFor a context with
    | some _ => return none
    | none => return some { values := [("annotation", .str a.name)] }

def isMarked (site : Site) (marker : Value) : Except Fault Bool := do
  let name ← marker.asName
  return site.header.carries name || site.declaration.members.any (·.header.carries name)

/-- Whether an argument is the expected one: an equal value, or the same text but for letter case
and the blanks around it. An argument that is absent or null is no literal. -/
def sameLiteral (actual : Option Value) (expected : Value) : Except Fault Bool :=
  match actual with
  | none => .ok false
  | some .null => .ok false
  | some v =>
    match v.same expected with
    | .error .comparison => .error .endless
    | .ok true => .ok true
    | .ok false => do
      let given ← v.written
      let wanted ← expected.written
      return Text.lower (Text.trim given) == Text.lower (Text.trim wanted)

/-- The requirements that the arguments do not meet, as they are shown, in table order. -/
def unmet (arguments : Entries) : (requires : Entries) → Except Fault (List String)
  | [] => .ok []
  | (name, expected) :: rest => do
    if ← sameLiteral (arguments.find? name) expected then unmet arguments rest
    else
      let shown := (← name.written) ++ "=" ++ (← expected.writtenLiteral)
      return shown :: (← unmet arguments rest)

def cautionArguments : Inspection := fun node context => do
  let (target, a) ← annotationOf node
  match ← hitFor a context with
  | none => return none
  | some hit =>
    let e ← hit.asEntry
    if e.tier != .caution || e.requires.isEmpty then return none
    else
      let applies ←
        if e.whenMarked.isTruthy then
          match target with
          | none => pure false
          | some site => isMarked site e.whenMarked
        else pure true
      if !applies then return none
      else
        let missing ← unmet a.arguments e.requires
        if missing.isEmpty then return none
        else
          return some { values := [
            ("annotation", .str a.name),
            ("missing", .str (", ".intercalate missing)),
            ("reason", .str (orElseText e.reason "caution-tier annotation")),
            ("target", .str ((target.map Site.name).getD "?"))] }

def nullableMarkers : List String := ["Nullable", "CheckForNull"]

def nonNullMarkers : List String := ["NonNull", "Nonnull", "NotNull"]

def carriedMarkers (node : Node) (markers : Value) : Except Fault (List Value) := do
  let items ← markers.iterate
  match items with
  | [] => return []
  | items =>
    let site ← node.asSite "has_annotation"
    filterNamed site.header.carries items

def conflictingNullness : Inspection := fun node context => do
  let nullable ←
    carriedMarkers node (context.params.valueOr "nullable" (.ofTexts nullableMarkers))
  let nonNull ←
    carriedMarkers node (context.params.valueOr "non_null" (.ofTexts nonNullMarkers))
  match nullable, nonNull with
  | first :: _, second :: _ => return some { values := [("nullable", first), ("non_null", second)] }
  | _, _ => return none

end Conformance.Check
