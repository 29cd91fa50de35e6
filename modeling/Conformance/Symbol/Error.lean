import Conformance.Document.Integer
import Conformance.Document.Literal
import Conformance.Span

/-!
# What can be wrong with a symbol model

Each cause is a constructor, and the wording of all of them is in one place.
-/

namespace Conformance

inductive SpanFault where
  | empty
  | inverted
  /-- Outside the lines of the unit, whose own span is `bounds`. -/
  | outsideUnit (bounds : Span)
  /-- Outside the part that should hold it. -/
  | outsidePart (part : String) (outer : Span)
  deriving DecidableEq, Repr

inductive ModelFault where
  | notMapping (kind : String)
  | noLineIndex
  /-- The span is given by something that is written like this. -/
  | badSpan (given : String)
  | unknownVisibility (given : String)
  | unknownKind (kind name : String)
  | badArguments (owner : String)
  | badEntry (what kind : String)
  | notList (kind : String)
  | missingKey (key : String)
  | badInteger (cause : IntegerError)
  | unwritable (cause : Unwritable)
  | spanFault (label : String) (place : Span) (fault : SpanFault)
  | positionOutside (position : Position) (path : String)
  | offsetOutside (offset : Int) (path : String)
  | foreignMark (name path : String)
  | unreadable (detail : String)
  | notFound (path : String)
  | other (detail : String)
  deriving DecidableEq, Repr

def ModelFault.message : ModelFault → String
  | notMapping kind => s!"Symbol model document must be a mapping, got {kind}"
  | noLineIndex => "Symbol model has no line index (line_lengths, source, or line_count)"
  | badSpan given => s!"Span must have four integers, got {given}"
  | unknownVisibility given => s!"Unknown visibility {given}"
  | unknownKind kind name => s!"Unknown declaration kind {kind} for '{name}'"
  | badArguments owner => s!"Arguments of annotation '{owner}' must be a mapping"
  | badEntry what kind => s!"{what} entry must be a mapping, got {kind}"
  | notList kind => s!"Expected a list, got {kind}"
  | missingKey key => s!"Malformed symbol model: {Text.quoted key}"
  | badInteger cause => s!"Malformed symbol model: {cause.message}"
  | unwritable cause => s!"Malformed symbol model: {cause.message}"
  | spanFault label place .empty => s!"{label} has an empty span {place.text}"
  | spanFault label place .inverted => s!"{label} has an inverted span {place.text}"
  | spanFault label place (.outsideUnit bounds) =>
    s!"{label} span {place.text} lies outside unit bounds {bounds.text}"
  | spanFault label place (.outsidePart part outer) =>
    s!"{label} span {place.text} lies outside {part} {outer.text}"
  | positionOutside position path =>
    s!"Position {position.line}:{position.column} is outside {path}"
  | offsetOutside offset path => s!"Offset {offset} is outside {path}"
  | foreignMark name path => s!"Annotation '{name}' is not part of {path}"
  | unreadable detail => s!"Cannot read symbol model: {detail}"
  | notFound path => s!"Symbol model not found: {path}"
  | other detail => detail

def ModelFault.integers : ModelFault → List Int
  | spanFault _ place .empty => spanIntegers place
  | spanFault _ place .inverted => spanIntegers place
  | spanFault _ place (.outsideUnit bounds) => spanIntegers place ++ spanIntegers bounds
  | spanFault _ place (.outsidePart _ outer) => spanIntegers place ++ spanIntegers outer
  | positionOutside position _ => [position.line, position.column]
  | offsetOutside offset _ => [offset]
  | _ => []
where
  spanIntegers (s : Span) : List Int := [s.start.line, s.start.column, s.stop.line, s.stop.column]

/-- A fault, with the path of the unit that has it where that is known. -/
structure ModelError where
  cause : ModelFault
  unit : Option String
  deriving DecidableEq, Repr

namespace ModelError

def message (e : ModelError) : String := e.cause.message

def integers (e : ModelError) : List Int := e.cause.integers

/-- The wording of an error, unless there is an integer in it that cannot be written. -/
def written (e : ModelError) : Except Unwritable String :=
  match e.integers.mapM integerText with
  | .ok _ => .ok e.message
  | .error cause => .error cause

end ModelError

end Conformance
