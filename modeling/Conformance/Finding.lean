import Conformance.Rule.Engine

/-!
# Findings

A finding is one violation of a rule at a place. Two findings of the same rule at the same place are
one and the same, except that those of the engine also differ by their message.
-/

namespace Conformance

structure Finding where
  rule : String
  severity : Severity
  unit : String
  span : Span
  message : String
  suppressed : Bool := false
  deriving DecidableEq, Repr

namespace Finding

/-- What makes a finding the one it is. -/
structure Identity where
  rule : String
  unit : String
  span : Span
  message : Option String
  deriving DecidableEq, Repr

def isEngine (f : Finding) : Bool := Rule.engineIds.contains f.rule

def identity (f : Finding) : Identity where
  rule := f.rule
  unit := f.unit
  span := f.span
  message := if f.isEngine then some f.message else none

def suppress (f : Finding) : Finding := { f with suppressed := true }

/-- The order of findings in a report: by unit, start, rule, stop and message, texts by their code
points. -/
def compareKey (a b : Finding) : Ordering :=
  (compare (Text.codes a.unit) (Text.codes b.unit)).then <|
  (compare a.span.start.line b.span.start.line).then <|
  (compare a.span.start.column b.span.start.column).then <|
  (compare (Text.codes a.rule) (Text.codes b.rule)).then <|
  (compare a.span.stop.line b.span.stop.line).then <|
  (compare a.span.stop.column b.span.stop.column).then <|
  compare (Text.codes a.message) (Text.codes b.message)

/-- The order of findings with those that are active first. -/
def compareActive (a b : Finding) : Ordering :=
  (compareKey a b).then (compare a.suppressed b.suppressed)

def precedes (a b : Finding) : Bool := (compareActive a b).isLE

end Finding

end Conformance
