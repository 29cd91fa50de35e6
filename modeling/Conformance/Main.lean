import Conformance.CommandLine.Program

/-!
# The program

Takes a picture of the files that a command line names, lets `runCommand` decide what to do about
them, and prints and writes the outcome.
-/

namespace Conformance

/-- The files and directories below a directory of the machine. Links to directories are not
followed. -/
partial def itemsBelow (name : String) (place : List String) :
    IO (List (List String × FileItem)) := do
  let mut items := []
  for entry in ← ((← IO.currentDir) / name).readDir do
    let inner := place ++ [entry.fileName]
    if ← entry.path.isDir then
      items := (inner, .directory) :: items
      if (← entry.path.symlinkMetadata).type == .dir then
        items := (← itemsBelow (name ++ "/" ++ entry.fileName) inner) ++ items
    else
      items := (inner, .file (← IO.FS.readBinFile entry.path).toList) :: items
  return items

def itemsTo (p : Path) : IO (List (List String × FileItem)) := do
  let here ← IO.currentDir
  let mut items := []
  let mut place := []
  let mut walked := []
  for part in p.parts do
    place := FileTree.enter place part
    walked := walked ++ [part]
    let path := here / Path.text ⟨walked⟩
    if ← path.isDir then items := (place, .directory) :: items
    else if ← path.pathExists then
      items := (place, .file (← IO.FS.readBinFile path).toList) :: items
  return items

def itemsAt (p : Path) : IO (List (List String × FileItem)) := do
  let items ← itemsTo p
  if ← ((← IO.currentDir) / p.text).isDir then
    return (← itemsBelow p.text (p.parts.foldl FileTree.enter [])) ++ items
  else return items

def treeOf (items : List (List String × FileItem)) : FileTree :=
  items.foldl (fun t item => t.insert item.1 item.2) ⟨[]⟩

def filesFor (arguments : List String) : IO FileTree := do
  match Request.parse arguments with
  | .ok (.run s) =>
    let read ← (s.units ++ s.packFiles).mapM fun name => itemsAt (Path.parse name)
    let written ← s.output.toList.mapM fun name => itemsTo (Path.parse name)
    return treeOf (read ++ written).flatten
  | _ => return ⟨[]⟩

/-- Writes what is new in a tree; a directory was added before what it holds. -/
def writeChanges (before after : FileTree) : IO Unit := do
  let here ← IO.currentDir
  for (place, item) in after.items.reverse do
    if before.items.lookup place != some item then
      let path := here / Path.text ⟨place⟩
      match item with
      | .directory => IO.FS.createDirAll path
      | .file bytes => IO.FS.writeBinFile path ⟨bytes.toArray⟩

end Conformance

open Conformance in
def main (arguments : List String) : IO UInt32 := do
  let files ← filesFor arguments
  match runCommand files arguments with
  | .usage e =>
    IO.eprint usageText
    IO.eprintln e.line
    return 2
  | .help =>
    IO.print usageText
    return 0
  | .aborted a printed =>
    IO.print printed
    IO.eprintln a.message
    return 1
  | .finished code printed after =>
    writeChanges files after
    IO.print printed
    return UInt32.ofNat code
