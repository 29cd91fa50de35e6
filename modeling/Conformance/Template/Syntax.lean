/-!
# Message templates

A template is text with fields in braces; a doubled brace stands for itself. A field has a name, an
optional conversion after an exclamation mark and an optional format after a colon, which may hold
fields of its own. `Template.parse` divides a template into its segments up to the first defect, so
that what stands before a defect can still be used.
-/

namespace Conformance.Template

structure Field where
  path : List Char
  conversion : Option Char := none
  format : List Char := []
  deriving DecidableEq, Repr

inductive Segment where
  | literal (text : List Char)
  | field (f : Field)
  deriving DecidableEq, Repr

inductive Defect where
  | singleOpen
  | singleClose
  | openInName
  | missingClose
  | missingConversion
  | afterConversion
  | openFormat
  deriving DecidableEq, Repr

def Defect.message : Defect → String
  | singleOpen => "Single '\x7b' encountered in format string"
  | singleClose => "Single '\x7d' encountered in format string"
  | openInName => "unexpected '\x7b' in field name"
  | missingClose => "expected '\x7d' before end of string"
  | missingConversion => "end of string while looking for conversion specifier"
  | afterConversion => "expected ':' after conversion specifier"
  | openFormat => "unmatched '\x7b' in format spec"

/-- The segments in front of the first defect, and the defect if there is one. -/
structure Parsed where
  segments : List Segment
  defect : Option Defect := none
  deriving DecidableEq, Repr

def Parsed.after (segment : Segment) (p : Parsed) : Parsed :=
  { p with segments := segment :: p.segments }

def isBrace (c : Char) : Bool := c == '\x7b' || c == '\x7d'

inductive NameEnd where
  | close
  | format
  | conversion
  deriving DecidableEq, Repr

/-- Reads the name of a field; `inBrackets` holds inside an index, where only its end counts. -/
def scanName (inBrackets : Bool) : List Char → Except Defect (List Char × NameEnd × List Char)
  | [] => .error .missingClose
  | c :: rest =>
    let more (inBrackets : Bool) := do
      let (name, ending, rest) ← scanName inBrackets rest
      return (c :: name, ending, rest)
    if inBrackets then more (c != ']')
    else if c == '\x7b' then .error .openInName
    else if c == '[' then more true
    else if c == '\x7d' then .ok ([], .close, rest)
    else if c == ':' then .ok ([], .format, rest)
    else if c == '!' then .ok ([], .conversion, rest)
    else more false

/-- Reads a format up to the brace that closes the field; `depth` counts the braces opened in it. -/
def scanFormat (depth : Nat) : List Char → Except Defect (List Char × List Char)
  | [] => .error .openFormat
  | c :: rest =>
    let more (depth : Nat) := do
      let (format, rest) ← scanFormat depth rest
      return (c :: format, rest)
    if c == '\x7b' then more (depth + 1)
    else if c == '\x7d' then
      match depth with
      | 0 => .ok ([], rest)
      | depth + 1 => more depth
    else more depth

def scanField (cs : List Char) : Except Defect (Field × List Char) := do
  let (path, ending, rest) ← scanName false cs
  match ending with
  | .close => return ({ path }, rest)
  | .format =>
    let (format, rest) ← scanFormat 0 rest
    return ({ path, format }, rest)
  | .conversion =>
    match rest with
    | [] => .error .missingConversion
    | [_] => .error .openFormat
    | conversion :: c :: rest =>
      if c == '\x7d' then return ({ path, conversion := some conversion }, rest)
      else if c == ':' then
        let (format, rest) ← scanFormat 0 rest
        return ({ path, conversion := some conversion, format }, rest)
      else .error .afterConversion

/-- The segments of the characters; every segment takes at least one of them. -/
def parseChars : (fuel : Nat) → List Char → Parsed
  | 0, _ => ⟨[], none⟩
  | fuel + 1, cs =>
    let text := cs.takeWhile fun c => !isBrace c
    match cs.dropWhile fun c => !isBrace c with
    | [] => if text.isEmpty then ⟨[], none⟩ else ⟨[.literal text], none⟩
    | [c] => ⟨[], some (if c == '\x7d' then .singleClose else .singleOpen)⟩
    | c :: d :: rest =>
      if c == d then (parseChars fuel rest).after (.literal (text ++ [c]))
      else if c == '\x7d' then ⟨[], some .singleClose⟩
      else
        match scanField (d :: rest) with
        | .error defect => ⟨[.literal text], some defect⟩
        | .ok (field, rest) => ((parseChars fuel rest).after (.field field)).after (.literal text)

def parse (template : String) : Parsed :=
  parseChars (template.toList.length + 1) template.toList

def Field.base (f : Field) : String :=
  String.ofList (f.path.takeWhile fun c => c != '.' && c != '[')

def Segment.base? : Segment → Option String
  | literal _ => none
  | field f => some f.base

def fieldNames (template : String) : Except Defect (List String) :=
  let p := parse template
  match p.defect with
  | some d => .error d
  | none => .ok (p.segments.filterMap Segment.base?)

end Conformance.Template
