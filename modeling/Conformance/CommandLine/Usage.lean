import Conformance.Document.Integer
import Conformance.Pack.Standard

/-!
# The command line

Options may be shortened as long as they stay distinct, take their argument from the next word or
after an equals sign, and may be mixed with the names of units; two hyphens alone end the options.
-/

namespace Conformance

inductive Switch where
  | help
  | pack
  | packFile
  | permissive
  | severity
  | disable
  | workers
  | format
  | output
  | logLevel
  deriving DecidableEq, Repr

namespace Switch

/-- All spellings of options, in the order in which they are listed. -/
def spellings : List (String × Switch) := [
  ("-h", help), ("--help", help), ("--pack", pack), ("--pack-file", packFile),
  ("--permissive", permissive), ("--severity", severity), ("--disable", disable),
  ("--workers", workers), ("--format", format), ("--out", output), ("--output", output),
  ("--log-level", logLevel)]

def label (s : Switch) : String :=
  "/".intercalate ((spellings.filter fun item => item.2 == s).map Prod.fst)

def takesArgument : Switch → Bool
  | help => false
  | permissive => false
  | _ => true

def choices? : Switch → Option (List String)
  | pack => some Standard.packNames
  | format => some ["text", "json"]
  | logLevel => some ["DEBUG", "INFO", "WARNING", "ERROR"]
  | _ => none

end Switch

inductive UsageError where
  | ambiguous (given : String) (candidates : List String)
  | missingArgument (option : Switch)
  | ignoredArgument (option : Switch) (given : String)
  | badInteger (option : Switch) (given : String)
  | badChoice (option : Switch) (given : String) (choices : List String)
  | noUnits
  | unrecognized (words : List String)
  deriving DecidableEq, Repr

namespace UsageError

def quotedList (names : List String) : String := ", ".intercalate (names.map Text.quoted)

def spaced (words : List String) : String := " ".intercalate words

def message : UsageError → String
  | ambiguous given candidates =>
    s!"ambiguous option: {given} could match {PolicyError.commaList candidates}"
  | missingArgument option => s!"argument {option.label}: expected one argument"
  | ignoredArgument option given =>
    s!"argument {option.label}: ignored explicit argument {Text.quoted given}"
  | badInteger option given => s!"argument {option.label}: invalid int value: {Text.quoted given}"
  | badChoice option given choices =>
    s!"argument {option.label}: invalid choice: {Text.quoted given} " ++
      s!"(choose from {quotedList choices})"
  | noUnits => "the following arguments are required: units"
  | unrecognized words => s!"unrecognized arguments: {spaced words}"

end UsageError

def programName : String := "policy-engine"

def usageText : String :=
  "usage: " ++ programName ++ " [-h] [--pack NAME] [--pack-file FILE] [--permissive]\n" ++
  "       [--severity RULE=LEVEL] [--disable RULE] [--workers N] [--format \x7btext,json\x7d]\n" ++
  "       [--out FILE] [--log-level LEVEL] units [units ...]\n"

def UsageError.line (e : UsageError) : String := s!"{programName}: error: {e.message}"

structure Settings where
  units : List String := []
  packs : List String := []
  packFiles : List String := []
  permissive : Bool := false
  severities : List String := []
  disabled : List String := []
  workers : Option Int := none
  json : Bool := false
  /-- The file to write the report to; an empty name stands for none. -/
  output : Option String := none
  logLevel : String := "WARNING"
  deriving Repr

inductive Word where
  | plain (text : String)
  /-- The mark after which all words are plain. -/
  | separator
  | option (s : Switch) (argument : Option String)
  /-- A short option with letters behind it, which are options of their own. -/
  | cluster (s : Switch) (letters : String)
  | unknown (text : String)
  deriving DecidableEq, Repr

namespace Word

def divide (text : List Char) : List Char × Option (List Char) :=
  let front := text.takeWhile (· != '=')
  match text.drop front.length with
  | [] => (front, none)
  | _ :: rest => (front, some rest)

def candidates (start : List Char) : List (String × Switch) :=
  Switch.spellings.filter fun item => start.isPrefixOf item.1.toList

def isNegativeNumber (text : List Char) : Bool :=
  match text with
  | '-' :: rest =>
    let rest := if rest.getLast? == some '\n' then rest.dropLast else rest
    let fraction := rest.dropWhile Text.isDigit
    match fraction with
    | [] => !rest.isEmpty
    | '.' :: digits => !digits.isEmpty && digits.all Text.isDigit
    | _ => false
  | _ => false

def other (text : String) : Word :=
  if isNegativeNumber text.toList || text.toList.contains ' ' then .plain text else .unknown text

def ofShort (text : String) : Word :=
  match text.toList with
  | '-' :: letter :: letters =>
    match Switch.spellings.lookup (String.ofList ['-', letter]) with
    | some s => .cluster s (String.ofList letters)
    | none => other text
  | _ => other text

def ofLong (text : String) : Except UsageError Word :=
  let (start, argument) := divide text.toList
  match candidates start with
  | [] => .ok (other text)
  | [(_, s)] => .ok (.option s (argument.map String.ofList))
  | several => .error (.ambiguous text (several.map Prod.fst))

def classify (text : String) : Except UsageError Word :=
  match text.toList with
  | '-' :: next :: rest =>
    let (front, argument) := divide ('-' :: next :: rest)
    match Switch.spellings.lookup text, Switch.spellings.lookup (String.ofList front), argument with
    | some s, _, _ => .ok (.option s none)
    | none, some s, some argument =>
      let argument := String.ofList argument
      .ok (if next == '-' then .option s (some argument) else .cluster s argument)
    | _, _, _ => if next == '-' then ofLong text else .ok (ofShort text)
  | _ => .ok (.plain text)

def classifyAll : List String → Except UsageError (List Word)
  | [] => .ok []
  | "--" :: rest => .ok (.separator :: rest.map .plain)
  | text :: rest => do
    let word ← classify text
    return word :: (← classifyAll rest)

def text : Word → String
  | plain text => text
  | separator => "--"
  | unknown text => text
  | option .. => ""
  | cluster .. => ""

def isPositional : Word → Bool
  | plain _ => true
  | separator => true
  | _ => false

end Word

inductive Request where
  | run (settings : Settings)
  | help

structure Reader where
  settings : Settings := {}
  hasUnits : Bool := false
  /-- Words that belong to nothing, the last one first. -/
  extras : List String := []

namespace Reader

def apply (settings : Settings) (s : Switch) (argument : String) : Except UsageError Settings :=
  match s.choices? with
  | some choices =>
    if choices.contains argument then .ok (store settings s argument)
    else .error (.badChoice s argument choices)
  | none =>
    if s == .workers then
      match Text.integerOf 10 argument with
      | .ok n => .ok { settings with workers := some n }
      | .error _ => .error (.badInteger s argument)
    else .ok (store settings s argument)
where
  store (settings : Settings) (s : Switch) (argument : String) : Settings :=
    match s with
    | .pack => { settings with packs := settings.packs ++ [argument] }
    | .packFile => { settings with packFiles := settings.packFiles ++ [argument] }
    | .severity => { settings with severities := settings.severities ++ [argument] }
    | .disable => { settings with disabled := settings.disabled ++ [argument] }
    | .format => { settings with json := argument == "json" }
    | .output => { settings with output := if argument.isEmpty then none else some argument }
    | .logLevel => { settings with logLevel := argument }
    | _ => settings

def takeUnits (r : Reader) (words : List Word) : Reader :=
  { r with
    settings := { r.settings with units := (words.erase .separator).map Word.text }
    hasUnits := true }

def putAside (r : Reader) (words : List Word) : Reader :=
  { r with extras := (words.map Word.text).reverse ++ r.extras }

/-- Words between options: the names of units, if they come first and are more than a separator. -/
def positionals (r : Reader) (words : List Word) : Reader :=
  if r.hasUnits || words.all (· == .separator) then r.putAside words else r.takeUnits words

def flag (r : Reader) : Reader := { r with settings := { r.settings with permissive := true } }

/-- What is wrong with letters behind the short option for help: each has to be that option again.
-/
def clusterFault? : List Char → Option (List Char)
  | ['h'] => none
  | 'h' :: rest => clusterFault? rest
  | letters => some letters

/-- Reads the words of a command line. A run of words between two options is read at once. -/
def words (r : Reader) : (fuel : Nat) → List Word → Except UsageError (Reader ⊕ Unit)
  | 0, _ => .ok (.inl r)
  | _ + 1, [] => .ok (.inl r)
  | fuel + 1, word :: rest =>
    match word with
    | .unknown text => words { r with extras := text :: r.extras } fuel rest
    | .cluster s letters =>
      match clusterFault? letters.toList with
      | some rest => .error (.ignoredArgument s (String.ofList rest))
      | none => .ok (.inr ())
    | .option s (some argument) =>
      if s.takesArgument then do
        words { r with settings := ← apply r.settings s argument } fuel rest
      else .error (.ignoredArgument s argument)
    | .option s none =>
      if s == .help then .ok (.inr ())
      else if s.takesArgument then
        match rest with
        | .plain argument :: rest => do
          words { r with settings := ← apply r.settings s argument } fuel rest
        | _ => .error (.missingArgument s)
      else words r.flag fuel rest
    | _ =>
      let run := (word :: rest).takeWhile Word.isPositional
      words (r.positionals run) fuel ((word :: rest).drop run.length)

end Reader

def Request.parse (arguments : List String) : Except UsageError Request := do
  let words ← Word.classifyAll arguments
  match ← Reader.words {} (words.length + 1) words with
  | .inr () => return .help
  | .inl r =>
    if !r.hasUnits then .error .noUnits
    else if !r.extras.isEmpty then .error (.unrecognized r.extras.reverse)
    else return .run r.settings

end Conformance
