import Conformance.Document.Literal
import Conformance.Text.Blank
import Conformance.Text.LowerCase

/-!
# Severities

How grave a finding is. Levels are read from text whatever its letter case and the blanks around it.
-/

namespace Conformance

inductive Severity where
  | error
  | warning
  | info
  deriving DecidableEq, Repr

namespace Severity

def label : Severity → String
  | error => "error"
  | warning => "warning"
  | info => "info"

/-- Graver levels have a higher priority. -/
def priority : Severity → Nat
  | error => 2
  | warning => 1
  | info => 0

def all : List Severity := [error, warning, info]

def ofLabel? : String → Option Severity
  | "error" => some error
  | "warning" => some warning
  | "warn" => some warning
  | "info" => some info
  | _ => none

@[simp] theorem ofLabel?_label (s : Severity) : ofLabel? s.label = some s := by cases s <;> rfl

inductive Error where
  | unknown (given : String)
  | unwritable (cause : Unwritable)
  deriving DecidableEq, Repr

def Error.message : Error → String
  | unknown given => s!"Unknown severity: {given}"
  | unwritable cause => cause.message

def parse (v : Value) : Except Error Severity :=
  match v.text, v.literal with
  | .ok text, .ok shown =>
    match ofLabel? (Text.lower (Text.trim text)) with
    | some s => .ok s
    | none => .error (.unknown shown)
  | .error cause, _ => .error (.unwritable cause)
  | _, .error cause => .error (.unwritable cause)

end Severity

end Conformance
