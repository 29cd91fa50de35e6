import Conformance.Check.Annotations
import Conformance.Check.Concurrency
import Conformance.Check.Documentation
import Conformance.Check.Exceptions
import Conformance.Check.Naming
import Conformance.Check.Resources
import Conformance.Pack.Error

/-!
# The catalogue of checks

Checks by name, with the message values that their matches give. The checks on annotations take a
table, which is prepared once when a rule is made.
-/

namespace Conformance

namespace AnnotationTable

def tierOf? : String → Option Tier
  | "allowed" => some .allowed
  | "caution" => some .caution
  | "banned" => some .banned
  | _ => none

/-- The entries of a mapping that describes an entry of a table: a text is the name of a tier. -/
def entriesOf? (v : Value) : Option Entries :=
  match v.bare with
  | .str tier => some [(.str "tier", .str tier)]
  | .map entries => some entries
  | _ => none

def tierOf (name : String) (given : Option Value) : Except PolicyError Tier := do
  let text ← PolicyError.written (given.getD (.str "allowed")).text
  match tierOf? (Text.lower (Text.trim text)) with
  | some tier => return tier
  | none => .error (.unknownTier name (← PolicyError.written (given.getD .null).literal))

def requiresOf (name : String) (given : Value) : Except PolicyError Entries :=
  if given.isTruthy then
    match given.bare with
    | .map requires => .ok requires
    | _ => .error (.badRequires name)
  else .ok []

def entryOf (name : String) (v : Value) : Except PolicyError TableEntry :=
  match entriesOf? v with
  | none => .error (.badTablePolicy name)
  | some entries => do
    let tier ← tierOf name (entries.get? "tier")
    let requires ← requiresOf name ((entries.get? "requires").getD .null)
    let reason ← PolicyError.written ((entries.get? "reason").getD (.str "")).text
    return { tier, reason, requires, whenMarked := (entries.get? "when_marked").getD .null }

/-- A name that is present keeps its place and takes the new entry. -/
def put (table : AnnotationTable) (name : String) (entry : TableEntry) : AnnotationTable :=
  if table.any (·.1 == name) then
    table.map fun item => if item.1 == name then (name, entry) else item
  else table ++ [(name, entry)]

def ofEntries (table : AnnotationTable) : Entries → Except PolicyError AnnotationTable
  | [] => .ok table
  | (key, v) :: rest => do
    let name ← PolicyError.written key.text
    ofEntries (table.put name (← entryOf name v)) rest

def ofValue (v : Value) : Except PolicyError AnnotationTable :=
  match v.bare with
  | .map entries => ofEntries [] entries
  | _ => .error .badTable

end AnnotationTable

def Params.ofEntries (entries : Entries) : Params :=
  entries.map fun entry => (entry.1, .value entry.2)

/-- The parameters with a prepared table, in the place of the plain one if there is one. -/
def Params.withTable (params : Params) (table : AnnotationTable) : Params :=
  if params.any (·.1.isText "table") then
    params.map fun p => if p.1.isText "table" then (p.1, .table table) else p
  else params ++ [(.str "table", .table table)]

structure Check where
  name : String
  inspection : Inspection
  values : List String := []
  takesTable : Bool := false

namespace Check

def prepare (check : Check) (entries : Entries) : Except PolicyError Params := do
  let params := Params.ofEntries entries
  if check.takesTable then
    return params.withTable (← AnnotationTable.ofValue ((entries.get? "table").getD (.map [])))
  else return params

def catalogue : List Check := [
  { name := "banned_annotation", inspection := bannedMark,
    values := ["annotation", "reason"], takesTable := true },
  { name := "unlisted_annotation", inspection := unlistedMark,
    values := ["annotation"], takesTable := true },
  { name := "caution_arguments", inspection := cautionArguments,
    values := ["annotation", "missing", "reason", "target"], takesTable := true },
  { name := "conflicting_nullness", inspection := conflictingNullness,
    values := ["nullable", "non_null"] },
  { name := "tag_order", inspection := tagOrder, values := ["tag", "detail"] },
  { name := "deprecation_mismatch", inspection := deprecationMismatch, values := ["detail"] },
  { name := "summary_period", inspection := summaryPeriod, values := ["owner", "detail"] },
  { name := "missing_public_doc", inspection := missingPublicDoc },
  { name := "close_throws", inspection := closeThrows,
    values := ["owner", "capability", "throws"] },
  { name := "guarded_by_unknown_lock", inspection := guardedByUnknownLock,
    values := ["lock", "detail"] },
  { name := "immutable_mutable_field", inspection := immutableMutableField,
    values := ["owner", "marker"] },
  { name := "name_matches_pattern", inspection := nameMatchesPattern, values := ["pattern"] },
  { name := "constant_name", inspection := constantName, values := ["pattern"] },
  { name := "empty_handler", inspection := emptyHandler, values := ["caught"] },
  { name := "broad_catch", inspection := broadCatch, values := ["caught"] }]

def names : List String := (catalogue.map (·.name)).mergeSort Text.atMost

def find (name : String) : Except PolicyError Check :=
  match catalogue.find? (·.name == name) with
  | some check => .ok check
  | none => .error (.unknownCheck name names)

end Check

end Conformance
