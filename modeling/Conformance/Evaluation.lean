import Conformance.Finding
import Conformance.Registry
import Conformance.Symbol.Validation

/-!
# Evaluation

A unit is evaluated by showing each of its nodes, in the order of their visit, to the rules that
look at nodes of its kind, in the order of their identifiers. A rule that fails on a node is
reported once and not asked again for the unit. A unit that breaks a rule of the symbol model is
not visited: its only finding is that.
-/

namespace Conformance

structure UnitResult where
  unit : String
  findings : List Finding
  suppressions : List Directive := []
  skipped : Bool := false

structure Visit where
  node : Node
  rule : Rule

inductive Verdict where
  | nothing
  | finding (f : Finding)
  | failure (f : Finding)
  | stop
  | escape (e : Escape)

structure Trace where
  findings : List Finding := []
  /-- Whether a predicate asked for the run to stop. -/
  stopped : Bool := false
  /-- What broke off the evaluation. -/
  escape : Option Escape := none

namespace Registry

def context (reg : Registry) (unit : SourceUnit) (rule : Rule) : Context where
  unit := unit
  params := rule.params
  permissive := reg.config.permissive.isTruthy

def failureFinding (reg : Registry) (unit : SourceUnit) (visit : Visit) (fault : Fault) :
    Finding where
  rule := Rule.ruleFailure.id
  severity := reg.engineSeverity Rule.ruleFailure
  unit := unit.path
  span := visit.node.span
  message := Rule.ruleFailureText visit.rule.id fault.describe

def inspect (reg : Registry) (unit : SourceUnit) (visit : Visit) : Verdict :=
  let rule := visit.rule
  match rule.predicate with
  | none => .nothing
  | some predicate =>
    match predicate visit.node (reg.context unit rule) with
    | .pass => .nothing
    | .stop => .stop
    | .escape e => .escape e
    | .fault f => .failure (reg.failureFinding unit visit f)
    | .hit m =>
      match rule.render visit.node unit m.values with
      | .error f => .failure (reg.failureFinding unit visit f)
      | .ok message =>
        .finding {
          rule := rule.id
          severity := rule.severity
          unit := unit.path
          span := m.span.getD visit.node.span
          message }

def visits (reg : Registry) (unit : SourceUnit) : List Visit :=
  unit.nodes.flatMap fun node => (reg.rulesFor node.kind).map fun rule => { node, rule }

/-- Makes the visits of a list; `failed` holds the identifiers of the rules that failed before. -/
def run (reg : Registry) (unit : SourceUnit) (failed : List String) : List Visit → Trace
  | [] => {}
  | visit :: rest =>
    if failed.contains visit.rule.id then reg.run unit failed rest
    else
      match reg.inspect unit visit with
      | .nothing => reg.run unit failed rest
      | .finding f =>
        let trace := reg.run unit failed rest
        { trace with findings := f :: trace.findings }
      | .failure f =>
        let trace := reg.run unit (visit.rule.id :: failed) rest
        { trace with findings := f :: trace.findings }
      | .stop =>
        let trace := reg.run unit failed rest
        { trace with stopped := true }
      | .escape e => { escape := some e }

def modelErrorResult (reg : Registry) (path detail : String) : UnitResult where
  unit := path
  findings := [{
    rule := Rule.modelError.id
    severity := reg.engineSeverity Rule.modelError
    unit := path
    span := Span.origin
    message := Rule.modelErrorText detail }]
  skipped := true

/-- The evaluation of a unit: its result, or what broke it off, and whether the run is to stop. -/
structure Evaluated where
  outcome : Except Escape UnitResult
  stopped : Bool := false

def evaluate (reg : Registry) (unit : SourceUnit) : Evaluated :=
  match unit.fault? with
  | some e =>
    match e.written with
    | .ok detail => { outcome := .ok (reg.modelErrorResult unit.path detail) }
    | .error cause => { outcome := .error (.crash (.unwritable cause)) }
  | none =>
    let trace := reg.run unit [] (reg.visits unit)
    match trace.escape with
    | some e => { outcome := .error e, stopped := trace.stopped }
    | none =>
      { outcome := .ok {
          unit := unit.path
          findings := trace.findings
          suppressions := unit.suppressions }
        stopped := trace.stopped }

end Registry

end Conformance
