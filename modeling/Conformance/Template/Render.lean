import Conformance.Template.Thing

/-!
# Filling templates

A template is filled from named values. The name of a field may be followed by features and
indices, the value found is converted if the field says so, and laid out in the format of the field,
whose own fields are filled first.
-/

namespace Conformance.Template

/-- Named values; of equal names the first counts. -/
abbrev Fields := List (String × Value)

inductive Accessor where
  | feature (name : String)
  | index (n : Nat)
  | key (name : String)
  deriving DecidableEq, Repr

/-- The number that decimal digits of any script give; none if something else follows them. -/
def indexNumber? (cs : List Char) : Except Fault (Option Nat) :=
  match scanNumber cs with
  | .ok (n, []) => .ok n
  | .ok _ => .ok none
  | .error e => .error (.badFormat e)

def nextAccessor : List Char → Except Fault (Accessor × List Char)
  | '.' :: rest =>
    let name := rest.takeWhile fun c => c != '.' && c != '['
    if name.isEmpty then .error .emptyAccessor
    else .ok (.feature (String.ofList name), rest.drop name.length)
  | '[' :: rest => do
    let name := rest.takeWhile (· != ']')
    let number ← indexNumber? name
    if name.isEmpty then .error .emptyAccessor
    else
      let accessor := match number with
        | some n => .index n
        | none => .key (String.ofList name)
      return (accessor, rest.drop (name.length + 1))
  | _ => .error .strayAfterIndex

def access (t : Thing) : Accessor → Except Fault Thing
  | .feature name => t.feature name
  | .index n => t.index n
  | .key name => t.key name

/-- Follows the accessors of a field; each takes at least one character. -/
def follow : (fuel : Nat) → Thing → List Char → Except Fault Thing
  | 0, t, _ => .ok t
  | _ + 1, t, [] => .ok t
  | fuel + 1, t, cs => do
    let (accessor, rest) ← nextAccessor cs
    follow fuel (← access t accessor) rest

/-- The thing that a field refers to. A field without a name, or with a number for a name, would
refer to a place in a list of values, and there is none. -/
def resolve (fields : Fields) (path : List Char) : Except Fault Thing := do
  let base := path.takeWhile fun c => c != '.' && c != '['
  let number ← indexNumber? base
  if base.isEmpty || number.isSome then .error .positionalField
  else
    match fields.lookup (String.ofList base) with
    | none => .error (.missingKey (Text.quoted (String.ofList base)))
    | some v => follow (path.length + 1) (.value v) (path.drop base.length)

def written : Except Unwritable String → Except Fault String
  | .ok text => .ok text
  | .error cause => .error (.unwritable cause)

def convert (t : Thing) : Option Char → Except Fault Thing
  | none => .ok t
  | some 'r' => do return .value (.str (← written t.literal))
  | some 's' => do return .value (.str (← written t.text))
  | some 'a' => do return .value (.str (Text.escapeNonAscii (← written t.literal)))
  | some c => .error (.unknownConversion c)

/-- The text of a thing in a format. Without a format, and only then, everything has a text. -/
def layOutThing (t : Thing) (format : List Char) : Except Fault String :=
  if format.isEmpty then written t.text
  else
    let laidOut := match t with
      | .value v => formatValue v format
      | t => .error (.unsupported t.kindLabel)
    match laidOut with
    | .ok text => .ok text
    | .error e => .error (.badFormat e)

/-- Fills the characters of a template; `depth` bounds how far formats may be nested. -/
def renderChars (fields : Fields) : (depth : Nat) → List Char → Except Fault String
  | 0, _ => .error .deepTemplate
  | depth + 1, cs => do
    let parsed := parseChars (cs.length + 1) cs
    let parts ← parsed.segments.mapM fun
      | .literal text => .ok (String.ofList text)
      | .field f => do
        let t ← convert (← resolve fields f.path) f.conversion
        let format ←
          if f.format.contains '\x7b' then
            do pure (← renderChars fields depth f.format).toList
          else pure f.format
        layOutThing t format
    match parsed.defect with
    | some d => .error (.badTemplate d)
    | none => return String.join parts

def render (template : String) (fields : Fields) : Except Fault String :=
  renderChars fields 2 template.toList

end Conformance.Template
