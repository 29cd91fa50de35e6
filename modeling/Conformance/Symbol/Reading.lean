import Conformance.Symbol.Site
import Conformance.Text.LowerCase

/-!
# Symbol models from documents

A unit is read from a mapping. Spans are lists of four integers or mappings with four keys; the line
index is given as line lengths, as the source text, or as a number of lines of one width. Missing
optional parts take their defaults, and the first defect in reading order is reported.

Declarations are read at any depth. That an interpreter bounds the depth of its calls is left out
here; only the reader of JSON refuses what is nested too deeply, by `Json.depthLimit`.
-/

namespace Conformance

inductive ReadError where
  | model (e : ModelError)
  | overflow (detail : String)
  /-- There is no room for so many lines. -/
  | tooManyLines
  | unwritablePath (cause : Unwritable)
  | endless
  deriving DecidableEq, Repr

abbrev Reading (α : Type) := Except ReadError α

namespace Reading

/-- Rejects a part of a document, for whatever unit it belongs to. -/
def reject {α : Type} (cause : ModelFault) : Reading α := .error (.model ⟨cause, none⟩)

/-- What is rejected is rejected for the unit with the given path. -/
def within {α : Type} (path : String) : Reading α → Reading α
  | .error (.model e) => .error (.model { e with unit := some path })
  | r => r

@[simp]
theorem within_eq_ok_iff {α : Type} {path : String} {r : Reading α} {a : α} :
    within path r = .ok a ↔ r = .ok a := by
  unfold within
  split
  · simp
  · rfl

def required (entries : Entries) (key : String) : Reading Value :=
  match entries.get? key with
  | some v => .ok v
  | none => reject (.missingKey key)

def optional (entries : Entries) (key : String) (default : Value) : Value :=
  (entries.get? key).getD default

def textOfValue (v : Value) : Reading String :=
  match v.text with
  | .ok s => .ok s
  | .error cause => reject (.unwritable cause)

def literalOf (v : Value) : Reading String :=
  match v.literal with
  | .ok s => .ok s
  | .error cause => reject (.unwritable cause)

/-- The items of a list; an absent value has none. -/
def items (v : Value) : Reading (List Value) :=
  match v.bare with
  | .null => .ok []
  | .list vs => .ok vs
  | .tuple vs => .ok vs
  | v => reject (.notList v.kind)

def itemsUnder (entries : Entries) (key : String) : Reading (List Value) :=
  items (optional entries key .null)

def textsUnder (entries : Entries) (key : String) : Reading (List String) := do
  (← itemsUnder entries key).mapM textOfValue

def mapping (what : String) (v : Value) : Reading Entries :=
  match v.bare with
  | .map entries => .ok entries
  | v => reject (.badEntry what v.kind)

def integer (v : Value) : Reading Int :=
  match v.toInteger with
  | .ok n => .ok n
  | .error .infinite => .error (.overflow IntegerError.infinite.message)
  | .error e => reject (.badInteger e)

def rejectSpan (v : Value) : Reading Span := do
  reject (.badSpan (← literalOf v))

def spanOfParts (v : Value) : List Value → Reading Span
  | [a, b, c, d] => do
    return Span.ofInts (← integer a) (← integer b) (← integer c) (← integer d)
  | _ => rejectSpan v

def span (v : Value) : Reading Span :=
  match v.bare with
  | .map entries => do
    spanOfParts v
      (← ["start_line", "start_column", "end_line", "end_column"].mapM (required entries))
  | .list parts => spanOfParts v parts
  | .tuple parts => spanOfParts v parts
  | _ => rejectSpan v

def spanOf (entries : Entries) : Reading Span := do
  span (← required entries "span")

def textOf (entries : Entries) (key : String) : Reading String := do
  textOfValue (← required entries key)

def textOr (entries : Entries) (key default : String) : Reading String :=
  textOfValue (optional entries key (.str default))

def flag (entries : Entries) (key : String) : Bool :=
  (optional entries key (.bool false)).isTruthy

def visibility (v : Value) : Reading Visibility := do
  match Visibility.ofLabel? (Text.lower (Text.trim (← textOfValue v))) with
  | some found => return found
  | none => reject (.unknownVisibility (← literalOf v))

def argumentsOf (entries : Entries) : Reading Entries :=
  let given := optional entries "arguments" .null
  if given.isTruthy then
    match given.bare with
    | .map arguments => .ok arguments
    | _ => do reject (.badArguments (← textOfValue (optional entries "name" .null)))
  else .ok []

def annotationOf (v : Value) : Reading Annotation := do
  let entries ← mapping "Annotation" v
  let arguments ← argumentsOf entries
  return { name := ← textOf entries "name", span := ← spanOf entries, arguments }

/-- A block tag; its kind may be written with the sign in front. -/
def tag (v : Value) : Reading DocTag := do
  let entries ← mapping "Doc tag" v
  let kind ← textOf entries "kind"
  return {
    kind := String.ofList (kind.toList.dropWhile (· == '@'))
    text := ← textOr entries "text" ""
    span := ← spanOf entries }

/-- A documentation comment; unless the document says whether the summary ends with a full stop, the
summary itself decides. -/
def doc (v : Value) : Reading DocComment := do
  let entries ← mapping "Doc comment" v
  let tags ← (← itemsUnder entries "tags").mapM tag
  let terminal := optional entries "terminal_period" .null
  let span ← spanOf entries
  let summary ← textOr entries "summary" ""
  let terminalPeriod := match terminal with
    | .null => endsSentence summary
    | v => v.isTruthy
  return { span, summary, tags, terminalPeriod }

/-- A parameter, given by its name alone or with its type. -/
def parameter : Value → Reading Parameter
  | .str name => .ok { name }
  | v => do
    let entries ← mapping "Parameter" v
    return { name := ← textOf entries "name", typeName := ← textOr entries "type" "" }

def handler (v : Value) : Reading Handler := do
  let entries ← mapping "Exception handler" v
  let caught ← textsUnder entries "caught"
  return {
    caught
    span := ← spanOf entries
    bodyEmpty := flag entries "empty"
    hasComment := flag entries "comment" }

def scope (v : Value) : Reading ResourceScope := do
  let entries ← mapping "Resource scope" v
  let resources ← textsUnder entries "resources"
  return { resources, span := ← spanOf entries }

def importEntry (v : Value) : Reading Import := do
  let entries ← mapping "Import" v
  return {
    name := ← textOf entries "name"
    span := ← spanOf entries
    static := flag entries "static" }

def directive (v : Value) : Reading Directive := do
  let entries ← mapping "Suppression" v
  return { text := ← textOf entries "text", span := ← spanOf entries }

def header (entries : Entries) : Reading Header := do
  let name ← textOf entries "name"
  let span ← spanOf entries
  let visibility ← visibility (optional entries "visibility" (.str "package"))
  let modifiers ← textsUnder entries "modifiers"
  let annotations ← (← itemsUnder entries "annotations").mapM annotationOf
  let given := optional entries "doc" .null
  let doc ← if given.isTruthy then some <$> doc given else .ok none
  return { name, span, visibility, modifiers, annotations, doc }

def signature (entries : Entries) : Reading Signature := do
  let parameters ← (← itemsUnder entries "parameters").mapM parameter
  let throws ← textsUnder entries "throws"
  let handlers ← (← itemsUnder entries "handlers").mapM handler
  let resourceScopes ← (← itemsUnder entries "resource_scopes").mapM scope
  return { parameters, returnType := optional entries "return_type" .null, throws, handlers,
           resourceScopes }

theorem sizeOf_get?_lt {entries : Entries} {key : String} {v : Value}
    (h : entries.get? key = some v) : sizeOf v < sizeOf entries := by
  induction entries with
  | nil => simp at h
  | cons entry rest ih =>
    rw [Entries.get?_cons] at h
    split at h
    · obtain ⟨k, w⟩ := entry
      simp only [Option.some.injEq] at h
      subst h
      simp only [List.cons.sizeOf_spec, Prod.mk.sizeOf_spec]
      omega
    · have := ih h
      simp only [List.cons.sizeOf_spec]
      omega

theorem sizeOf_bare_le (v : Value) : sizeOf v.bare ≤ sizeOf v := by
  fun_induction Value.bare v with
  | case1 name v ih => simp only [Value.knot.sizeOf_spec]; omega
  | case2 v _ => exact Nat.le_refl _

theorem sizeOf_items_le {v : Value} {vs : List Value} (h : items v = .ok vs) :
    sizeOf vs ≤ sizeOf v := by
  have small := sizeOf_bare_le v
  unfold items at h
  split at h
  · rename_i found
    simp only [Except.ok.injEq] at h
    subst h
    rw [found] at small
    simp only [Value.null.sizeOf_spec] at small
    simp only [List.nil.sizeOf_spec]
    exact small
  · rename_i found
    simp only [Except.ok.injEq] at h
    subst h
    rw [found] at small
    simp only [Value.list.sizeOf_spec] at small
    omega
  · rename_i found
    simp only [Except.ok.injEq] at h
    subst h
    rw [found] at small
    simp only [Value.tuple.sizeOf_spec] at small
    omega
  · simp [reject] at h

theorem sizeOf_itemsUnder_lt {entries : Entries} {key : String} {vs : List Value}
    (h : itemsUnder entries key = .ok vs) : sizeOf vs < sizeOf (Value.map entries) := by
  have small := sizeOf_items_le h
  unfold optional at small
  simp only [Value.map.sizeOf_spec]
  cases found : entries.get? key with
  | none =>
    simp only [found, Option.getD_none, Value.null.sizeOf_spec] at small
    have : 0 < sizeOf entries := by
      cases entries with
      | nil => simp
      | cons => rw [List.cons.sizeOf_spec]; omega
    omega
  | some v =>
    have := sizeOf_get?_lt found
    simp only [found, Option.getD_some] at small
    omega

mutual

/-- A declaration with all that is below it; `met` holds the names of the knots around it. -/
def declaration (met : List Nat) (v : Value) : Reading Declaration :=
  match v with
  | .knot name v =>
    if met.contains name then .error .endless else declaration (name :: met) v
  | .map entries => do
    let kind := Text.lower (Text.trim (← textOr entries "kind" ""))
    let header ← header entries
    if kind == "type" then do
      let typeKind ← textOr entries "type_kind" "class"
      let supertypes ← textsUnder entries "supertypes"
      match _found : itemsUnder entries "members" with
      | .error e => .error e
      | .ok members => do
        return .type header typeKind supertypes (← declarations met members)
    else if kind == "method" then do
      return .method header (← signature entries)
    else if kind == "field" then do
      return .field header (← textOr entries "type" "")
    else do
      reject (.unknownKind (← literalOf (optional entries "kind" .null))
        (← textOfValue (optional entries "name" .null)))
  | v => reject (.badEntry "Declaration" v.kind)
termination_by sizeOf v
decreasing_by
  · simp only [Value.knot.sizeOf_spec]; omega
  · exact sizeOf_itemsUnder_lt _found

def declarations (met : List Nat) (vs : List Value) : Reading (List Declaration) :=
  match vs with
  | [] => .ok []
  | v :: rest => do
    let d ← declaration met v
    return d :: (← declarations met rest)
termination_by sizeOf vs

end

def defaultLineWidth : Int := 120

/-- One more than the greatest number of lines that can be asked for. -/
def lineCountBound : Int := 0x8000000000000000

def lineCapacity : Int := 0x100000000

def uniformLines (width count : Int) : Reading (List Int) :=
  if count < -lineCountBound || lineCountBound ≤ count then
    .error (.overflow "cannot fit 'int' into an index-sized integer")
  else if lineCapacity ≤ count then .error .tooManyLines
  else .ok (List.replicate count.toNat width)

def lengthsOf (source : String) : List Int :=
  (Text.splitChars '\n' source.toList).map fun line => (line.length : Int)

def lineLengths (entries : Entries) : Reading (List Int) :=
  match entries.get? "line_lengths" with
  | some v => do (← items v).mapM integer
  | none =>
    match entries.get? "source" with
    | some source => do return lengthsOf (← textOfValue source)
    | none =>
      match entries.get? "line_count" with
      | some count => do
        let width ← integer (optional entries "line_width" (.int defaultLineWidth))
        uniformLines width (← integer count)
      | none => reject .noLineIndex

end Reading

namespace SourceUnit

def pathOf (entries : Entries) : Except Unwritable String :=
  let given := Reading.optional entries "path" .null
  if given.isTruthy then given.text else .ok "<unknown>"

def packageOf (entries : Entries) : Reading String :=
  let given := Reading.optional entries "package" .null
  if given.isTruthy then Reading.textOfValue given else .ok ""

def ofEntries (path : String) (entries : Entries) : Reading SourceUnit := Reading.within path do
  let package ← packageOf entries
  let lineLengths ← Reading.lineLengths entries
  let imports ← (← Reading.itemsUnder entries "imports").mapM Reading.importEntry
  let suppressions ← (← Reading.itemsUnder entries "suppressions").mapM Reading.directive
  let declarations ← Reading.declarations [] (← Reading.itemsUnder entries "declarations")
  return { path, package, lineLengths, imports, suppressions, declarations }

def ofDocument (v : Value) : Reading SourceUnit :=
  match v.bare with
  | .map entries =>
    match pathOf entries with
    | .ok path => ofEntries path entries
    | .error cause => .error (.unwritablePath cause)
  | v => Reading.reject (.notMapping v.kind)

end SourceUnit

/-- The path of the unit that a document was to describe, if it is a mapping. -/
def Value.unitPath? (v : Value) : Option String :=
  match v.bare with
  | .map entries => (SourceUnit.pathOf entries).toOption
  | _ => none

end Conformance
