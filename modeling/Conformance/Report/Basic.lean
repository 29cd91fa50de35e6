import Conformance.Document.Json.Writer
import Conformance.Finding

/-!
# Reports

A report lists findings in order, counts the active ones by severity, and names the units. It passes
if no active finding is an error.
-/

namespace Conformance

/-- The number of findings: active ones by severity, and suppressed ones. -/
structure Summary where
  error : Nat := 0
  warning : Nat := 0
  info : Nat := 0
  suppressed : Nat := 0
  deriving DecidableEq, Repr

namespace Summary

def add (s : Summary) (f : Finding) : Summary :=
  if f.suppressed then { s with suppressed := s.suppressed + 1 }
  else
    match f.severity with
    | .error => { s with error := s.error + 1 }
    | .warning => { s with warning := s.warning + 1 }
    | .info => { s with info := s.info + 1 }

def count (s : Summary) : Severity → Nat
  | .error => s.error
  | .warning => s.warning
  | .info => s.info

def total (s : Summary) : Nat := s.error + s.warning + s.info

/-- The counts by severity, the gravest first. -/
def rows (s : Summary) : List (Severity × Nat) :=
  Severity.all.map fun level => (level, s.count level)

def ofFindings (findings : List Finding) : Summary := findings.foldl add {}

end Summary

structure Report where
  findings : List Finding
  summary : Summary
  units : List String := []
  cancelled : Bool := false

namespace Report

def ofFindings (findings : List Finding) (units : List String) (cancelled : Bool) : Report where
  findings := findings
  summary := Summary.ofFindings findings
  units := units
  cancelled := cancelled

/-- The unit that configuration errors are reported for. -/
def configurationUnit : String := "<configuration>"

def configurationFailure (detail : String) : Report :=
  ofFindings [{
    rule := Rule.configurationError.id
    severity := Rule.configurationError.severity
    unit := configurationUnit
    span := Span.origin
    message := Rule.configurationText detail }] [] false

def passed (r : Report) : Bool := r.summary.error == 0

def exitCode (r : Report) : Nat := if r.passed then 0 else 1

def active (r : Report) : List Finding := r.findings.filter fun f => !f.suppressed

end Report

def Value.record (members : List (String × Value)) : Value :=
  .map (members.map fun m => (.str m.1, m.2))

def Value.nat (n : Nat) : Value := .int n

namespace Span

def toValue (s : Span) : Value :=
  .record [("start_line", .int s.start.line), ("start_column", .int s.start.column),
    ("end_line", .int s.stop.line), ("end_column", .int s.stop.column)]

end Span

def Finding.toValue (f : Finding) : Value :=
  .record [("rule", .str f.rule), ("severity", .str f.severity.label), ("unit", .str f.unit),
    ("span", f.span.toValue), ("message", .str f.message), ("suppressed", .bool f.suppressed)]

def Summary.toValue (s : Summary) : Value :=
  .record [("error", .nat s.error), ("warning", .nat s.warning), ("info", .nat s.info),
    ("suppressed", .nat s.suppressed), ("total", .nat s.total)]

namespace Report

def toValue (r : Report) : Value :=
  .record [("summary", r.summary.toValue), ("units", .list (r.units.map .str)),
    ("cancelled", .bool r.cancelled), ("passed", .bool r.passed),
    ("findings", .list (r.findings.map Finding.toValue))]

def toJson (r : Report) : String := Json.write .indented 0 r.toValue

end Report

end Conformance
