import Conformance.Check.Access
import Conformance.Text.CodePoint

/-!
# Documentation checks

The order of block tags, the agreement of deprecation tags with annotations, the form of summaries,
and the presence of documentation.
-/

namespace Conformance.Check

def canonicalTagOrder : List String := ["param", "return", "throws", "see", "since", "deprecated"]

def singleTags : List String := ["return", "since", "deprecated"]

/-- Two names of one tag count as one. -/
def canonicalTag (kind : String) : String := if kind == "exception" then "throws" else kind

/-- The place of a tag in the order, the last one if it is listed twice. -/
def tagRank? (order : List Value) (kind : String) : Option Nat :=
  ((order.zipIdx.filter fun item => item.1.isText kind).getLast?).map Prod.snd

structure TagProgress where
  previous : Option (Nat × String) := none
  seen : List String := []
  lastThrows : Option String := none

def tagDetail? (single : List Value) (progress : TagProgress) (rank : Nat) (kind subject : String) :
    Option String :=
  match progress.previous with
  | some (previousRank, previousKind) =>
    if rank < previousRank then some s!"@{kind} must come before @{previousKind}"
    else if single.any (·.isText kind) && progress.seen.contains kind then
      some s!"@{kind} may appear only once"
    else if kind == "throws" then
      match progress.lastThrows with
      | some last =>
        if Text.codes (Text.lower subject) < Text.codes (Text.lower last) then
          some s!"@throws {subject} must come before @throws {last}"
        else none
      | none => none
    else none
  | none => none

def firstMisplaced (order single : List Value) (progress : TagProgress) :
    List DocTag → Option (DocTag × String × String)
  | [] => none
  | tag :: rest =>
    let kind := canonicalTag tag.kind
    match tagRank? order kind with
    | none => firstMisplaced order single progress rest
    | some rank =>
      match tagDetail? single progress rank kind tag.subject with
      | some detail => some (tag, kind, detail)
      | none =>
        firstMisplaced order single
          { previous := some (rank, kind)
            seen := kind :: progress.seen
            lastThrows := if kind == "throws" then some tag.subject else progress.lastThrows }
          rest

/-- Block tags follow the order, single ones are not repeated, and exceptions are sorted by name. -/
def tagOrder : Inspection := fun node context => do
  let order ← (context.params.valueOr "order" (.ofTexts canonicalTagOrder)).iterate
  let single ← (context.params.valueOr "single" (.ofTexts singleTags)).keyItems
  let order ← (Value.list order).keyItems
  let (_, doc) ← node.asDoc "tags"
  match firstMisplaced order single {} doc.tags with
  | none => return none
  | some (tag, kind, detail) =>
    return some { span := tag.span, values := [("tag", .str kind), ("detail", .str detail)] }

def deprecationMismatch : Inspection := fun node context => do
  let marker := context.params.valueOr "annotation" (.str "Deprecated")
  let site ← node.asSite "has_annotation"
  let name ← marker.asName
  let annotated := site.header.carries name
  let tagged := site.header.doc.any (·.hasTag "deprecated")
  if annotated == tagged then return none
  else
    let detail :=
      if tagged then s!"has a @deprecated doc tag but no @{name} annotation"
      else s!"has a @{name} annotation but no @deprecated doc tag"
    return some { values := [("detail", .str detail)] }

/-- What is wrong with the summary of a comment: it is missing, it has no full stop at its end, or
its first sentence ends before it does. -/
def summaryDetail? (doc : DocComment) : Option String :=
  let summary := Text.trimChars doc.summary.toList
  if summary.isEmpty then some "summary fragment is missing"
  else if !doc.terminalPeriod then some "summary fragment does not end with a period"
  else
    match sentenceEnd? summary with
    | some (start, stop) =>
      if stop < summary.length then
        some s!"summary sentence ends early at '{String.ofList (summary.take (start + 1))}'"
      else none
    | none => none

def summaryPeriod : Inspection := fun node _ => do
  let (owner, doc) ← node.asDoc "owner"
  match summaryDetail? doc with
  | none => return none
  | some detail =>
    return some { values := [
      ("owner", .str ((owner.map Site.name).getD "?")), ("detail", .str detail)] }

def documentedKinds : List String := ["type", "method"]

def missingPublicDoc : Inspection := fun node context => do
  let kinds := context.params.valueOr "kinds" (.ofTexts documentedKinds)
  let site ← node.asSite "kind"
  let wanted ← kinds.holds site.declaration.kind.label
  if wanted && site.header.visibility == .pub && site.header.doc.isNone then return some {}
  else return none

end Conformance.Check
