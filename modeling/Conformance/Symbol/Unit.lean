import Conformance.Symbol.Declaration
import Conformance.Symbol.Error

/-!
# Source units

One analysed file: its declarations, imports, inline directives, and the lengths of its lines. The
line lengths turn positions into character offsets and back, a line break counting as one character.
-/

namespace Conformance

structure Import where
  name : String
  span : Span
  static : Bool

def Import.simpleName (i : Import) : String := Text.simpleName i.name

structure Directive where
  text : String
  span : Span
  deriving DecidableEq, Repr

structure SourceUnit where
  path : String
  package : String
  lineLengths : List Int
  imports : List Import
  suppressions : List Directive
  declarations : List Declaration

namespace SourceUnit

def span (u : SourceUnit) : Span :=
  match u.lineLengths.getLast? with
  | none => Span.origin
  | some last => Span.ofInts 1 1 u.lineLengths.length (last + 1)

/-- Whether a position is on a line of the unit, at most one column after the last character. -/
def inBounds (u : SourceUnit) (p : Position) : Bool :=
  if p.line < 1 || p.column < 1 then false
  else
    match u.lineLengths[(p.line - 1).toNat]? with
    | some length => p.column ≤ length + 1
    | none => false

/-- The number of characters in the first lines, each with its line break. -/
def linesSize : List Int → Int
  | [] => 0
  | length :: rest => length + 1 + linesSize rest

def modelError (u : SourceUnit) (cause : ModelFault) : ModelError := ⟨cause, some u.path⟩

def offsetOf (u : SourceUnit) (p : Position) : Except ModelError Int :=
  if u.inBounds p then
    .ok (linesSize (u.lineLengths.take (p.line - 1).toNat) + p.column - 1)
  else .error (u.modelError (.positionOutside p u.path))

/-- The place of an offset in lines of the given lengths, the first of which has number `line`. -/
def locate (line : Int) : List Int → Int → Option Position
  | [], _ => none
  | length :: rest, offset =>
    if offset ≤ length then some ⟨line, offset + 1⟩
    else locate (line + 1) rest (offset - (length + 1))

def positionOf (u : SourceUnit) (offset : Int) : Except ModelError Position :=
  match locate 1 u.lineLengths offset with
  | some p => .ok p
  | none => .error (u.modelError (.offsetOutside offset u.path))

/-- The qualified name that an import gives to a simple name; a name that no import gives stays as
it is. -/
def resolveName (u : SourceUnit) (name : String) : String :=
  match u.imports.find? fun i => !i.static && i.simpleName == name with
  | some i => i.name
  | none => name

end SourceUnit

end Conformance
