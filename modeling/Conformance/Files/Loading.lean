import Conformance.Files.Document
import Conformance.Pack.Basic
import Conformance.Symbol.Reading

/-!
# Loading units and packs

Units and packs come from documents in files. A document that gives no path to its unit, or no name
to its pack, takes it from the file.
-/

namespace Conformance

/-- An error that is not reported as a finding, but ends the run. -/
inductive Abort where
  | overflow (detail : String)
  | tooManyLines
  | unwritable (cause : Unwritable)
  | endless
  | document (e : DocumentError)
  /-- A value of a pack that fails where it is looked at. -/
  | fault (cause : Fault)
  | write (e : FileTree.WriteError)

def Abort.message : Abort → String
  | overflow detail => detail
  | tooManyLines => ""
  | unwritable cause => cause.message
  | endless => "maximum recursion depth exceeded"
  | document e => e.message
  | fault cause => cause.text
  | write e => e.message

inductive LoadError where
  /-- The model is rejected; the error is reported under its unit, or else under the file. -/
  | rejected (unit : String) (e : ModelError)
  | abort (a : Abort)

inductive PackFileError where
  | policy (e : PolicyError)
  | abort (a : Abort)

def Entries.withDefault (entries : Entries) (key : String) (v : Value) : Entries :=
  if entries.has key then entries else entries ++ [(.str key, v)]

namespace FileTree

def loadUnit (t : FileTree) (p : Path) : Except LoadError SourceUnit :=
  match t.readDocument p with
  | .error e =>
    if e.isReported then .error (.rejected p.text ⟨.unreadable e.message, some p.text⟩)
    else .error (.abort (.document e))
  | .ok none => .error (.rejected p.text ⟨.notFound p.text, some p.text⟩)
  | .ok (some entries) =>
    let entries := entries.withDefault "path" (.str p.text)
    match SourceUnit.pathOf entries with
    | .error cause => .error (.abort (.unwritable cause))
    | .ok path =>
      match SourceUnit.ofEntries path entries with
      | .ok unit => .ok unit
      | .error (.model e) => .error (.rejected (e.unit.getD p.text) e)
      | .error (.overflow detail) => .error (.abort (.overflow detail))
      | .error .tooManyLines => .error (.abort .tooManyLines)
      | .error (.unwritablePath cause) => .error (.abort (.unwritable cause))
      | .error .endless => .error (.abort .endless)

def loadPack (t : FileTree) (p : Path) : Except PackFileError Pack :=
  match t.readDocument p with
  | .error e =>
    if e.isReported then .error (.policy (.unreadablePack p.text e.message))
    else .error (.abort (.document e))
  | .ok none => .error (.policy (.packNotFound p.text))
  | .ok (some entries) =>
    match Pack.ofEntries (entries.withDefault "name" (.str p.stem)) with
    | .ok pack => .ok pack
    | .error e => .error (.policy e)

end FileTree

end Conformance
