import Conformance.Aggregation

/-!
# Runs

A run evaluates units one after another and aggregates the results. It can be cancelled before it
starts or while a unit is evaluated; a unit that ends after that is dropped whole, and no further
unit is started. An interruption drops its unit and ends the run.
-/

namespace Conformance

structure Progress where
  results : List UnitResult := []
  cancelled : Bool := false

namespace Registry

/-- The result of a unit, also if its evaluation crashed; none if it was interrupted. -/
def guarded (reg : Registry) (unit : SourceUnit) : Option UnitResult × Bool :=
  let evaluated := reg.evaluate unit
  match evaluated.outcome with
  | .ok result => (some result, evaluated.stopped)
  | .error (.crash cause) => (some (reg.modelErrorResult unit.path cause.text), evaluated.stopped)
  | .error .interrupt => (none, true)

def collect (reg : Registry) (cancelled : Bool) : List SourceUnit → Progress
  | [] => { cancelled }
  | unit :: rest =>
    if cancelled then { cancelled }
    else
      match reg.guarded unit with
      | (some result, false) =>
        let progress := reg.collect false rest
        { progress with results := result :: progress.results }
      | _ => { cancelled := true }

/-- The report of a run over units; `earlier` holds results for units that could not be read. -/
def analyze (reg : Registry) (units : List SourceUnit) (earlier : List UnitResult)
    (cancelled : Bool) : Report :=
  let progress := reg.collect cancelled units
  reg.aggregate (earlier ++ progress.results) progress.cancelled

end Registry

end Conformance
