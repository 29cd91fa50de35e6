import Conformance.Rule.Basic

/-!
# What can be wrong with a configuration

A configuration is rejected as a whole. The families of causes are told apart: rules that share an
identifier, packs that cannot be loaded, values that fail where they are looked at, and all other
definitions that make no sense.
-/

namespace Conformance

inductive PolicyFamily where
  | definition
  | duplicate
  | load
  | fault (family : FaultFamily)
  deriving DecidableEq, Repr

inductive PolicyError where
  | badTable
  | badTablePolicy (name : String)
  | unknownTier (name shown : String)
  | badRequires (name : String)
  | unknownCheck (name : String) (known : List String)
  | unknownPack (name : String) (known : List String)
  /-- Two rules with one identifier, and the packs they come from as far as these have names. -/
  | duplicateRule (id : String) (first second : Option String)
  | badOverrideText (given : String)
  | badOverride (id : String) (cause : Severity.Error)
  | emptyId
  | reservedCategory (id : String)
  | noTarget (id : String)
  | badTarget (id : String) (category : Category) (target : NodeKind)
  | noPredicate (id : String)
  | noMessage (id : String)
  | unknownOverride (id : String)
  | unknownDisabled (id : String)
  | engineDisabled (id : String)
  | packWithoutName
  | packWithoutRules (name : String)
  | ruleNotMapping (pack : String)
  | missingKeys (pack : String) (keys : List String)
  | badParams (id : String)
  | badTemplate (id : String) (defect : Template.Defect)
  | unknownFields (id : String) (names : List String)
  | badRule (id pack : String) (cause : RuleError)
  | unreadablePack (path detail : String)
  | packNotFound (path : String)
  | fault (cause : Fault)

namespace PolicyError

def family : PolicyError → PolicyFamily
  | duplicateRule .. => .duplicate
  | packWithoutName => .load
  | packWithoutRules _ => .load
  | ruleNotMapping _ => .load
  | missingKeys .. => .load
  | badParams _ => .load
  | badTemplate .. => .load
  | unknownFields .. => .load
  | badRule .. => .load
  | unreadablePack .. => .load
  | packNotFound _ => .load
  | fault cause => .fault cause.family
  | _ => .definition

def commaList (names : List String) : String := ", ".intercalate names

/-- The packs that two rules of one identifier come from, if any is known. -/
def originText (first second : Option String) : String :=
  if first.isSome || second.isSome then
    " (packs: " ++ first.getD "?" ++ ", " ++ second.getD "?" ++ ")"
  else ""

def message : PolicyError → String
  | badTable => "Annotation table must be a mapping of name to policy"
  | badTablePolicy name => s!"Annotation policy for '{name}' must be a mapping or a tier name"
  | unknownTier name shown => s!"Unknown tier for annotation '{name}': {shown}"
  | badRequires name => s!"'requires' for annotation '{name}' must be a mapping"
  | unknownCheck name known => s!"Unknown check '{name}' (known: {commaList known})"
  | unknownPack name known => s!"Unknown built-in pack '{name}' (known: {commaList known})"
  | duplicateRule id first second => s!"Duplicate rule identifier '{id}'{originText first second}"
  | badOverrideText given =>
    s!"Severity override must look like RULE=LEVEL, got {Text.quoted given}"
  | badOverride id cause => s!"Invalid severity override for '{id}': {cause.message}"
  | emptyId => "Rule identifier must be a non-empty string"
  | reservedCategory id => s!"Rule '{id}' uses the reserved engine category"
  | noTarget id => s!"Rule '{id}' does not declare a target node kind"
  | badTarget id category target =>
    s!"Rule '{id}' of category '{category.label}' cannot target '{target.label}' nodes"
  | noPredicate id => s!"Rule '{id}' has no callable predicate"
  | noMessage id => s!"Rule '{id}' has no message template"
  | unknownOverride id => s!"Severity override names unknown rule '{id}'"
  | unknownDisabled id => s!"Cannot disable unknown rule '{id}'"
  | engineDisabled id => s!"Engine rule '{id}' cannot be disabled"
  | packWithoutName => "Policy pack is missing 'name'"
  | packWithoutRules name => s!"Policy pack '{name}' must include a non-empty 'rules' list"
  | ruleNotMapping pack => s!"Each rule entry of pack '{pack}' must be a mapping"
  | missingKeys pack keys => s!"Rule in pack '{pack}' is missing keys: {commaList keys}"
  | badParams id => s!"'params' of rule '{id}' must be a mapping"
  | badTemplate id defect => s!"Message template of rule '{id}' is malformed: {defect.message}"
  | unknownFields id names =>
    s!"Message template of rule '{id}' uses unknown fields: {commaList names}"
  | badRule id pack cause => s!"Rule '{id}' in pack '{pack}': {cause.message}"
  | unreadablePack path detail => s!"Cannot read policy pack {path}: {detail}"
  | packNotFound path => s!"Policy pack not found: {path}"
  | fault cause => cause.text

def unwritable (cause : Unwritable) : PolicyError := fault (.unwritable cause)

def written : Except Unwritable String → Except PolicyError String
  | .ok text => .ok text
  | .error cause => .error (unwritable cause)

def packName (name : Value) : Except PolicyError (Option String) :=
  if name.isTruthy then some <$> written name.text else .ok none

end PolicyError

end Conformance
