import Conformance.Report.Basic
import Conformance.Suppression

/-!
# Aggregation

The results of units are merged into one report, whatever the order in which they arrive: the
directives of each result are applied to its own findings, all findings are sorted, and of those
with one identity the first is kept.
-/

namespace Conformance

/-- The first finding of each identity, in order; `seen` holds the identities met before. -/
def firstsFrom (seen : List Finding.Identity) : List Finding → List Finding
  | [] => []
  | f :: rest =>
    if seen.contains f.identity then firstsFrom seen rest
    else f :: firstsFrom (f.identity :: seen) rest

def mergeFindings (findings : List Finding) : List Finding :=
  firstsFrom [] (findings.mergeSort Finding.precedes)

def mergeUnits (results : List UnitResult) : List String :=
  ((results.map (·.unit)).mergeSort Text.atMost).eraseDups

namespace Registry

def aggregate (reg : Registry) (results : List UnitResult) (cancelled : Bool) : Report :=
  Report.ofFindings (mergeFindings (results.flatMap reg.applyDirectives)) (mergeUnits results)
    cancelled

end Registry

end Conformance
