import Conformance.Check.Catalogue

/-!
# Policy packs

A pack is a named, versioned bundle of rules. Packs are read from documents; the message of each
rule is checked against the values that its check gives. The rules of a pack are drafts until a
registry takes them.
-/

namespace Conformance

structure Pack where
  name : Value
  rules : List Draft
  version : Value := .str "1"

namespace Pack

def ruleIds (p : Pack) : List Value := p.rules.map (·.id)

def defaultMessage : String := "\x7bkind\x7d '\x7bname\x7d' violates \x7brule_id\x7d"

def requiredKeys : List String := ["id", "category", "target", "severity", "check"]

def checkTemplate (id message : String) (values : List String) : Except PolicyError Unit :=
  match Template.fieldNames message with
  | .error defect => .error (.badTemplate id defect)
  | .ok names =>
    let unknown := names.filter fun name => !renderFields.contains name && !values.contains name
    if unknown.isEmpty then .ok ()
    else .error (.unknownFields id (unknown.eraseDups.mergeSort Text.atMost))

/-- The error for a rule of a pack: what cannot be written counts against the rule. -/
def blame (id pack : String) : PolicyError → PolicyError
  | .fault (.unwritable cause) => .badRule id pack (.unwritable cause)
  | e => e

def draftOf (id pack message : String) (entries : Entries) (check : Check) (params : Entries) :
    Except PolicyError Draft := do
  let text (v : Value) : Except PolicyError String :=
    (PolicyError.written v.text).mapError (blame id pack)
  let get (key : String) : Value := (entries.get? key).getD .null
  let category ← text (get "category")
  let target ← text (get "target")
  let severity ← text (get "severity")
  let description ← text ((entries.get? "description").getD (.str ""))
  let params ← (check.prepare params).mapError (blame id pack)
  match Draft.ofValues (.str id) (.str category) (.str target) (.str severity) (.str message)
      (some check.inspection.toPredicate) (.str description) params with
  | .ok draft => return draft
  | .error cause => .error (.badRule id pack cause)

def messageOf (entries : Entries) : Except PolicyError String :=
  let given := (entries.get? "message").getD .null
  if given.isTruthy then PolicyError.written given.text else .ok defaultMessage

/-- The rule that the entries of a mapping describe, with parameters that are known. -/
def ruleWith (pack : String) (entries params : Entries) : Except PolicyError Draft := do
  let get (key : String) : Value := (entries.get? key).getD .null
  let check ← Check.find (← PolicyError.written (get "check").text)
  let message ← messageOf entries
  let id ← PolicyError.written (get "id").text
  checkTemplate id message check.values
  draftOf id pack message entries check params

def ruleOfEntries (pack : String) (entries : Entries) : Except PolicyError Draft :=
  let get (key : String) : Value := (entries.get? key).getD .null
  let missing := requiredKeys.filter fun key => !entries.has key
  if !missing.isEmpty then .error (.missingKeys pack missing)
  else if !(get "params").isTruthy then ruleWith pack entries []
  else
    match (get "params").bare with
    | .map params => ruleWith pack entries params
    | _ => do .error (.badParams (← PolicyError.written (get "id").text))

def ruleOfValue (pack : String) (v : Value) : Except PolicyError Draft :=
  match v.bare with
  | .map entries => ruleOfEntries pack entries
  | _ => .error (.ruleNotMapping pack)

def nameOf (entries : Entries) : Except PolicyError String :=
  let given := (entries.get? "name").getD .null
  if given.isTruthy then PolicyError.written given.text else .ok ""

def ofNamed (name : String) (entries : Entries) : Except PolicyError Pack :=
  match ((entries.get? "rules").getD .null).bare with
  | .list (first :: rest) => do
    let rules ← (first :: rest).mapM (ruleOfValue name)
    let version ← PolicyError.written ((entries.get? "version").getD (.str "1")).text
    return { name := .str name, rules, version := .str version }
  | _ => .error (.packWithoutRules name)

def ofEntries (entries : Entries) : Except PolicyError Pack := do
  let name := Text.trim (← nameOf entries)
  if name.isEmpty then .error .packWithoutName else ofNamed name entries

end Pack

end Conformance
