import Conformance.Files.Path
import Conformance.Text.Quoted

/-!
# File trees

The files and directories that a run can see, below the directory it works in. A directory is there
if it is listed or if something is listed inside of it.
-/

namespace Conformance

inductive FileItem where
  | file (bytes : List UInt8)
  | directory
  deriving DecidableEq, Repr

structure FileTree where
  items : List (List String × FileItem)

namespace FileTree

/-- Whether a place is there without being listed: the directory the run works in, those around it,
the root, and every directory with something inside. -/
def isImplied (t : FileTree) (place : List String) : Bool :=
  place.all (fun part => part == ".." || Path.isRoot part) ||
    t.items.any fun item => place.isPrefixOf item.1 && place != item.1

/-- What stands at a place given by names without double dots inside. -/
def at? (t : FileTree) (place : List String) : Option FileItem :=
  match t.items.lookup place with
  | some item => some item
  | none => if t.isImplied place then some .directory else none

def isDirectoryAt (t : FileTree) (place : List String) : Bool := t.at? place == some .directory

def enter (place : List String) (part : String) : List String :=
  if part != ".." then place ++ [part]
  else
    match place.getLast? with
    | none => [".."]
    | some last =>
      if last == ".." then place ++ [".."] else if Path.isRoot last then place else place.dropLast

/-- The place that names lead to from a directory. Every name but the last has to lead to a
directory. -/
def resolveFrom (t : FileTree) (place : List String) : List String → Option (List String)
  | [] => some place
  | part :: rest => if t.isDirectoryAt place then t.resolveFrom (enter place part) rest else none

def resolve (t : FileTree) (p : Path) : Option (List String) := t.resolveFrom [] p.parts

def find? (t : FileTree) (p : Path) : Option FileItem := (t.resolve p).bind t.at?

def contains (t : FileTree) (p : Path) : Bool := (t.find? p).isSome

def isFile (t : FileTree) (p : Path) : Bool :=
  match t.find? p with
  | some (.file _) => true
  | _ => false

def isDirectory (t : FileTree) (p : Path) : Bool := t.find? p == some .directory

/-- The files below a place, by the names that lead to them from there. -/
def filesBelow (t : FileTree) (place : List String) : List (List String) :=
  t.items.filterMap fun item =>
    match item.2 with
    | .directory => none
    | .file _ =>
      if place.isPrefixOf item.1 && place != item.1 then some (item.1.drop place.length) else none

def documentSuffixes : List String := [".json", ".yaml", ".yml"]

/-- The documents below a directory in order; there are none where no directory is. -/
def documentsBelow (t : FileTree) (p : Path) : List Path :=
  match t.resolve p with
  | none => []
  | some place =>
    let found := ((t.filesBelow place).map p.append).filter fun f =>
      documentSuffixes.contains f.suffix
    found.mergeSort fun a b => Path.partsLE a.parts b.parts

/-- The documents that an argument names: the file itself, whatever its name, or all below a
directory. -/
def documentsAt (t : FileTree) (p : Path) : List Path :=
  if t.isFile p then [p] else t.documentsBelow p

def documents (t : FileTree) (roots : List String) : List Path :=
  roots.flatMap fun root => t.documentsAt (Path.parse root)

def insert (t : FileTree) (place : List String) (item : FileItem) : FileTree :=
  ⟨(place, item) :: t.items.filter fun other => other.1 != place⟩

inductive WriteError where
  | exists (path : Path)
  | isDirectory (path : Path)
  | notDirectory (path : Path)
  deriving DecidableEq, Repr

def WriteError.message : WriteError → String
  | .exists path => s!"[Errno 17] File exists: {Text.quoted path.text}"
  | .isDirectory path => s!"[Errno 21] Is a directory: {Text.quoted path.text}"
  | .notDirectory path => s!"[Errno 20] Not a directory: {Text.quoted path.text}"

/-- Whether some part of a path, the last one apart, leads to a file. -/
def passesFile (t : FileTree) (place : List String) : List String → Bool
  | [] => false
  | [_] => false
  | part :: rest =>
    match t.at? (enter place part) with
    | some (.file _) => true
    | some .directory => t.passesFile (enter place part) rest
    | none => false

/-- Makes a directory, and those around it that are missing. A number of steps bounds how many names
the path has. -/
def makeDirectory (t : FileTree) (p : Path) : (steps : Nat) → Except WriteError FileTree
  | 0 => .ok t
  | steps + 1 =>
    match t.find? p with
    | some .directory => .ok t
    | some (.file _) => .error (.exists p)
    | none =>
      if t.passesFile [] p.parts then .error (.notDirectory p)
      else do
        let t ← if t.isDirectory p.parent then .ok t else t.makeDirectory p.parent steps
        match t.resolve p with
        | some place => if (t.at? place).isSome then return t else return t.insert place .directory
        | none => return t

def write (t : FileTree) (p : Path) (bytes : List UInt8) : Except WriteError FileTree := do
  let t ← t.makeDirectory p.parent (p.parts.length + 1)
  match t.find? p, t.resolve p with
  | some .directory, _ => .error (.isDirectory p)
  | _, some place => return t.insert place (.file bytes)
  | _, none => .error (.notDirectory p)

end FileTree

end Conformance
