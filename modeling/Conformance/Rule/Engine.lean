import Conformance.Rule.Basic

/-!
# The rules of the engine

Four rules are reserved for what the engine itself has to report. They look at no node.
-/

namespace Conformance.Rule

/-- A unit that could not be analysed. -/
def modelError : Rule where
  id := "engine/model-error"
  category := .engine
  target := none
  severity := .error
  message := "Source unit skipped: \x7bdetail\x7d"
  description := .str "The parser output for a unit breaks a symbol-model invariant."

def ruleFailure : Rule where
  id := "engine/rule-failure"
  category := .engine
  target := none
  severity := .error
  message := "Rule '\x7bfailed_rule\x7d' raised an internal error: \x7bdetail\x7d"
  description := .str "A rule predicate raised while evaluating a node."

/-- A suppression directive that says nothing. -/
def suppressionSyntax : Rule where
  id := "engine/suppression-syntax"
  category := .engine
  target := none
  severity := .info
  message := "Ignored suppression directive '\x7bdirective\x7d': \x7bdetail\x7d"
  description := .str "An inline suppression directive cannot be applied."

/-- A configuration that gives no registry. -/
def configurationError : Rule where
  id := "engine/configuration-error"
  category := .engine
  target := none
  severity := .error
  message := "Policy configuration rejected: \x7bdetail\x7d"
  description := .str "The rule registry could not be built."

def engineRules : List Rule := [modelError, ruleFailure, suppressionSyntax, configurationError]

def engineIds : List String := engineRules.map (·.id)

def engineRule? (id : String) : Option Rule := engineRules.find? (·.id == id)

def modelErrorText (detail : String) : String := s!"Source unit skipped: {detail}"

def ruleFailureText (id detail : String) : String :=
  s!"Rule '{id}' raised an internal error: {detail}"

def suppressionText (directive detail : String) : String :=
  s!"Ignored suppression directive '{directive}': {detail}"

def configurationText (detail : String) : String := s!"Policy configuration rejected: {detail}"

end Conformance.Rule
