import Conformance.Document.Json.Reader
import Conformance.Document.Yaml.Reader
import Conformance.Files.Tree
import Conformance.Text.Newline
import Conformance.Text.Utf8

/-!
# Documents in files

A document is a mapping in a file: JSON if the name of the file says so, YAML otherwise. Bytes are
read as UTF-8, and all ends of lines are unified.
-/

namespace Conformance

inductive DocumentError where
  | directory (path : Path)
  | encoding (e : Text.Utf8.Error)
  | json (e : Json.Error)
  | yaml (path : Path) (e : Yaml.Error)
  | notMapping (path : Path)
  deriving Repr

namespace DocumentError

def message : DocumentError → String
  | directory path => s!"[Errno 21] Is a directory: {Text.quoted path.text}"
  | encoding e => e.message
  | json e => e.message
  | yaml path e =>
    if e.family == .document then s!"Invalid YAML in {path.text}: {e.message}" else e.message
  | notMapping path => s!"Document at {path.text} is not a mapping"

/-- Whether an error is one of a document that cannot be read, which is reported for the document.
Collections that are nested too deeply, and a scalar with a type that its text cannot have, break
off the run instead. -/
def isReported : DocumentError → Bool
  | json .deepList => false
  | json .deepMapping => false
  | yaml _ e =>
    match e.family with
    | .document => true
    | .encoding => true
    | .value => true
    | _ => false
  | _ => true

end DocumentError

namespace FileTree

/-- The bytes of a file; nothing if there is none. -/
def bytes? (t : FileTree) (p : Path) : Except DocumentError (Option (List UInt8)) :=
  match t.find? p with
  | none => .ok none
  | some .directory => .error (.directory p)
  | some (.file bytes) => .ok (some bytes)

def readText (t : FileTree) (p : Path) : Except DocumentError String := do
  match ← t.bytes? p with
  | none => return ""
  | some bytes =>
    match Text.Utf8.decode bytes with
    | .ok cs => return String.ofList (Text.unifyNewlines cs)
    | .error e => .error (.encoding e)

/-- The value of a YAML file, null if there is none. -/
def readYaml (t : FileTree) (p : Path) : Except DocumentError Value := do
  match ← t.bytes? p with
  | none => return .null
  | some bytes =>
    match Yaml.read bytes with
    | .ok v => return v
    | .error e => .error (.yaml p e)

def readJson (t : FileTree) (p : Path) : Except DocumentError Value := do
  match Json.read (← t.readText p) with
  | .ok v => return v
  | .error e => .error (.json e)

def jsonSuffix : String := ".json"

/-- The entries of a document, nothing if there is no such file. -/
def readDocument (t : FileTree) (p : Path) : Except DocumentError (Option Entries) := do
  if !t.contains p then return none
  else
    let v ← if p.suffix == jsonSuffix then t.readJson p else t.readYaml p
    match v.bare with
    | .map entries => return some entries
    | _ => .error (.notMapping p)

theorem readDocument_of_any {t : FileTree} {p : Path} {test : Entries → Bool}
    (h : (t.readDocument p).toOption.join.any test = true) :
    ∃ m, t.readDocument p = .ok (some m) ∧ test m = true := by
  cases hread : t.readDocument p with
  | error e =>
    rw [hread] at h
    cases h
  | ok document =>
    rw [hread] at h
    obtain ⟨m, rfl, htest⟩ := Option.any_eq_true _ _ |>.mp h
    exact ⟨m, rfl, htest⟩

end FileTree

end Conformance
