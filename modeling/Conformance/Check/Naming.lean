import Conformance.Check.Access
import Conformance.Pattern.Meaning

/-!
# Naming checks

Names match the pattern of their kind.
-/

namespace Conformance.Check

def typePattern : String := "[A-Z][A-Za-z0-9]*"

def methodPattern : String := "[a-z][A-Za-z0-9]*"

def constantPattern : String := "[A-Z][A-Z0-9]*(?:_[A-Z0-9]+)*"

/-- Whether the whole name matches a written pattern. A pattern of bytes may be sound, but no text
can be matched against it. -/
def matchesPattern (pattern : Value) (name : String) : Except Fault Bool :=
  match pattern with
  | .str text =>
    match Pattern.parse text with
    | .ok p => .ok (p.matchesWhole name)
    | .error e => .error (.badPattern e)
  | .bytes bs =>
    match Pattern.parseBytes bs with
    | .ok _ => .error .bytesPattern
    | .error e => .error (.badPattern e)
  | v =>
    match v.keyFault? with
    | some kind => .error (.unhashable kind)
    | none => .error .notPattern

def patternOf (params : Params) : Except Fault Value :=
  match params.get? "pattern" with
  | some _ => .ok (params.valueOr "pattern" .null)
  | none => .error (.missingKey (Text.quoted "pattern"))

def nameMatchesPattern : Inspection := fun node context => do
  let pattern ← patternOf context.params
  let name ← node.named
  if ← matchesPattern pattern name then return none
  else return some { values := [("pattern", pattern)] }

/-- A constant, that is, a static final declaration, whose name does not match. -/
def constantName : Inspection := fun node context => do
  let site ← node.asSite "has_modifier"
  if site.header.hasModifier "static" && site.header.hasModifier "final" then
    nameMatchesPattern node context
  else return none

end Conformance.Check
