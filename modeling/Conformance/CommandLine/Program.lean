import Conformance.CommandLine.Override
import Conformance.CommandLine.Usage
import Conformance.Files.Loading
import Conformance.Report.Table
import Conformance.Run

/-!
# A run from the command line

The packs and switches of a command line make a registry, the documents it names give units, and the
report on them is printed and, if asked for, written to a file. All of this is a function of the
files that are there. The console is left out: what is printed is a text, also where a number in it
has too many digits to be shown or a code point cannot be encoded.
-/

namespace Conformance

inductive RunResult where
  | usage (e : UsageError)
  | help
  /-- The run ended early, after a text was printed, with an error of its surroundings. -/
  | aborted (a : Abort) (printed : String)
  | finished (code : Nat) (printed : String) (files : FileTree)

namespace Settings

/-- The names of the standard packs to use: those asked for, or else, if no pack is loaded from a
file, the default ones. -/
def standardPacks (s : Settings) : List String :=
  if !s.packs.isEmpty then s.packs
  else if s.packFiles.isEmpty then Standard.defaultNames
  else []

/-- The standard packs with the given names; without parameters only a name can be wrong. -/
def buildPacks : List String → Except PackFileError (List Pack)
  | [] => .ok []
  | name :: rest =>
    match Standard.build name [] with
    | .ok pack => do return pack :: (← buildPacks rest)
    | .error (.policy e) => .error (.policy e)
    | .error _ => .error (.policy (.unknownPack name Standard.packNames))

def makeRegistry (s : Settings) (packs : List Pack) : Except PolicyError Registry := do
  let overrides ← Override.parseAll s.severities
  let config ← Config.make (.bool s.permissive) (overrides.map fun o => (o.1, .str o.2))
    (.list (s.disabled.map .str))
  Registry.ofPacks packs config

def registryOf (s : Settings) (names : List String) (loaded : Except PackFileError (List Pack)) :
    Except PackFileError Registry := do
  let standard ← buildPacks names
  match s.makeRegistry (standard ++ (← loaded)) with
  | .ok reg => return reg
  | .error e => .error (.policy e)

def registry (s : Settings) (t : FileTree) : Except PackFileError Registry :=
  s.registryOf s.standardPacks (s.packFiles.mapM fun path => t.loadPack (Path.parse path))

end Settings

def FileTree.loadUnits (t : FileTree) (reg : Registry) :
    List Path → Except Abort (List SourceUnit × List UnitResult)
  | [] => .ok ([], [])
  | p :: rest =>
    match t.loadUnit p with
    | .ok unit => do
      let (units, rejected) ← t.loadUnits reg rest
      return (unit :: units, rejected)
    | .error (.rejected name e) => do
      let (units, rejected) ← t.loadUnits reg rest
      return (units, reg.modelErrorResult name e.message :: rejected)
    | .error (.abort a) => .error a

namespace Settings

def report (s : Settings) (t : FileTree) (reg : Registry) : Except Abort Report := do
  let (units, rejected) ← t.loadUnits reg (t.documents s.units)
  return reg.analyze units rejected false

def printed (s : Settings) (r : Report) : String :=
  let table := r.table Report.defaultLimit ++ "\n"
  if s.output.isNone && s.json then table ++ "\nJSON Report\n" ++ r.toJson ++ "\n" else table

def configurationCode : Nat := 2

def publish (s : Settings) (t : FileTree) (r : Report) (code : Nat) : RunResult :=
  match s.output with
  | none => .finished code (s.printed r) t
  | some path =>
    match t.write (Path.parse path) r.toJson.toUTF8.toList with
    | .ok t => .finished code (s.printed r ++ s!"\nReport written to {path}\n") t
    | .error e => .aborted (.write e) (s.printed r)

def execute (s : Settings) (t : FileTree) : RunResult :=
  match s.registry t with
  | .error (.abort a) => .aborted a ""
  | .error (.policy (.fault cause)) => .aborted (.fault cause) ""
  | .error (.policy e) => s.publish t (Report.configurationFailure e.message) configurationCode
  | .ok reg =>
    match s.report t reg with
    | .error a => .aborted a ""
    | .ok r => s.publish t r r.exitCode

end Settings

def runCommand (t : FileTree) (arguments : List String) : RunResult :=
  match Request.parse arguments with
  | .error e => .usage e
  | .ok .help => .help
  | .ok (.run settings) => settings.execute t

end Conformance
