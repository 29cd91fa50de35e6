import Conformance.Report.Basic

/-!
# The summary table

A report for reading: counts, status, and the first active findings. The table is the text as it is
put together. That a line number may have too many digits to be shown, or a message a code point
that an output cannot encode, is left out.
-/

namespace Conformance.Report

def padRight (width : Nat) (s : String) : String :=
  s ++ String.ofList (List.replicate (width - s.length) ' ')

def padLeft (width : Nat) (s : String) : String :=
  String.ofList (List.replicate (width - s.length) ' ') ++ s

def tableRow (label count : String) : String := padRight 10 label ++ " | " ++ padLeft 5 count

def ruler (width : Nat) (c : Char) : String := String.ofList (List.replicate width c)

/-- The first items of a list; a negative number leaves out as many at the end. -/
def firstItems {α : Type} (limit : Int) (items : List α) : List α :=
  if 0 ≤ limit then items.take limit.toNat else items.take (items.length - limit.natAbs)

def findingLines (f : Finding) : List String :=
  [s!"{f.unit}:{f.span.start.line}:{f.span.start.column} [{f.severity.label}] {f.rule}",
   s!"  {f.message}"]

/-- The part of the table that lists findings; empty if none is shown. -/
def findingSection (shown : List Finding) (remaining : Nat) : List String :=
  if shown.isEmpty then []
  else
    ["", "Findings", ruler 40 '-'] ++ shown.flatMap findingLines ++
      (if remaining > 0 then [s!"... {remaining} more"] else [])

def defaultLimit : Int := 20

def table (r : Report) (limit : Int) : String :=
  let shown := firstItems limit r.active
  let status := if r.passed then "PASS" else "FAIL"
  let counts := r.summary.rows.map fun row => tableRow row.1.label (toString row.2)
  "\n".intercalate (
    ["Policy Summary", ruler 40 '=', tableRow "Severity" "Count", ruler 18 '-'] ++ counts ++
    [ruler 18 '-', s!"Status    : {status}", s!"Units     : {r.units.length}",
     s!"Findings  : {r.summary.total}"] ++
    (if r.summary.suppressed > 0 then [s!"Suppressed: {r.summary.suppressed}"] else []) ++
    (if r.cancelled then ["Cancelled : run stopped before all units were analysed"] else []) ++
    findingSection shown (r.active.length - shown.length))

end Conformance.Report
