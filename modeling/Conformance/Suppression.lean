import Conformance.Evaluation

/-!
# Suppression directives

A directive is the word `disable`, in any letter case, a colon or an equals sign or neither, and the
rules it names, separated by commas; `all` names every rule but those of the engine. White space may
stand anywhere between these parts, line breaks only outside the names.
-/

namespace Conformance

inductive DirectiveError where
  | notDirective
  | noRule
  | badReference (given : String)
  | unknownRule (name : String)
  deriving DecidableEq, Repr

def DirectiveError.message : DirectiveError → String
  | notDirective => "expected 'disable <rule-id|all>[, ...]'"
  | noRule => "directive names no rule"
  | badReference given => s!"invalid rule reference {Text.quoted given}"
  | unknownRule name => s!"unknown rule '{name}'"

namespace Directive

/-- The name that stands for every rule but those of the engine. -/
def allRules : String := "all"

def isLetterForm (letter c : Char) : Bool :=
  c == letter || c == letter.toUpper || (letter == 'i' && (c == 'ı' || c == 'İ')) ||
    (letter == 's' && c == 'ſ')

def afterWord? : (word : List Char) → List Char → Option (List Char)
  | [], cs => some cs
  | _ :: _, [] => none
  | letter :: word, c :: rest => if isLetterForm letter c then afterWord? word rest else none

def keyword : List Char := "disable".toList

def afterMark : List Char → List Char
  | ':' :: rest => rest
  | '=' :: rest => rest
  | cs => cs

/-- The part of a directive that names rules. -/
def targetText? (cs : List Char) : Option (List Char) := do
  let rest ← afterWord? keyword (cs.dropWhile Text.isBlank)
  let body := Text.trimEnd ((afterMark (rest.dropWhile Text.isBlank)).dropWhile Text.isBlank)
  if body.contains '\n' then none else some body

def isReferenceChar (c : Char) : Bool :=
  c.isAlphanum || c == '_' || c == '.' || c == '-' || c == '/'

def target (known : String → Bool) (part : List Char) : Except DirectiveError String :=
  let cs := Text.trimChars part
  let name := String.ofList cs
  if cs.isEmpty || !cs.all isReferenceChar then .error (.badReference name)
  else if Text.lower name == allRules then .ok allRules
  else if known name then .ok name
  else .error (.unknownRule name)

def targets (known : String → Bool) (text : String) : Except DirectiveError (List String) := do
  match targetText? text.toList with
  | none => .error .notDirective
  | some [] => .error .noRule
  | some body =>
    let names ← (Text.splitChars ',' body).mapM (target known)
    return names.eraseDups

end Directive

structure Scope where
  span : Span
  targets : List String
  deriving DecidableEq, Repr

def Scope.covers (scope : Scope) (f : Finding) : Bool :=
  scope.span.contains f.span &&
    (scope.targets.contains f.rule || (scope.targets.contains Directive.allRules && !f.isEngine))

namespace Registry

def parseDirective (reg : Registry) (text : String) : Except DirectiveError (List String) :=
  Directive.targets reg.contains text

def directiveFinding (reg : Registry) (unit : String) (directive : Directive)
    (error : DirectiveError) : Finding where
  rule := Rule.suppressionSyntax.id
  severity := reg.engineSeverity Rule.suppressionSyntax
  unit := unit
  span := directive.span
  message := Rule.suppressionText directive.text error.message

def scopes (reg : Registry) (directives : List Directive) : List Scope :=
  directives.filterMap fun d =>
    match reg.parseDirective d.text with
    | .ok targets => some { span := d.span, targets }
    | .error _ => none

def directiveFindings (reg : Registry) (unit : String) (directives : List Directive) :
    List Finding :=
  directives.filterMap fun d =>
    match reg.parseDirective d.text with
    | .ok _ => none
    | .error e => some (reg.directiveFinding unit d e)

/-- The findings of a unit with its directives applied, and those on the directives themselves. -/
def applyDirectives (reg : Registry) (result : UnitResult) : List Finding :=
  let scopes := reg.scopes result.suppressions
  (result.findings.map fun f => if scopes.any (·.covers f) then f.suppress else f) ++
    reg.directiveFindings result.unit result.suppressions

end Registry

end Conformance
