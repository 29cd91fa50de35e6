import Conformance.Text.Blank
import Conformance.Text.CodePoint
import Conformance.Text.LowerCase

/-!
# Paths

A path is a list of names, the first of which is the root if the path is absolute. Empty names and
single dots are left out when a path is read, and double dots are kept.
-/

namespace Conformance

structure Path where
  parts : List String
  deriving DecidableEq, Repr

namespace Path

/-- The name of the root that a text starts with: two strokes are told from one and from more. -/
def rootOf : List Char → List String
  | '/' :: '/' :: '/' :: _ => ["/"]
  | '/' :: '/' :: _ => ["//"]
  | '/' :: _ => ["/"]
  | _ => []

def parse (text : String) : Path :=
  ⟨rootOf text.toList ++ (Text.split '/' text).filter fun part => !part.isEmpty && part != "."⟩

def isRoot (part : String) : Bool := part == "/" || part == "//"

def text (p : Path) : String :=
  match p.parts with
  | [] => "."
  | first :: rest =>
    if isRoot first then first ++ "/".intercalate rest else "/".intercalate (first :: rest)

/-- The last name of a path; a root has none. -/
def name (p : Path) : String :=
  match p.parts.getLast? with
  | some part => if isRoot part then "" else part
  | none => ""

def parent (p : Path) : Path :=
  match p.parts with
  | [first] => if isRoot first then p else ⟨[]⟩
  | parts => ⟨parts.dropLast⟩

/-- The name up to its last dot and the rest from there; a dot at either end divides nothing. -/
def divideName (name : List Char) : List Char × List Char :=
  let ending := (name.reverse.takeWhile (· != '.')).reverse
  let stem := name.take (name.length - ending.length - 1)
  if ending.isEmpty || stem.isEmpty then (name, []) else (stem, '.' :: ending)

def suffix (p : Path) : String := Text.lower (String.ofList (divideName p.name.toList).2)

def stem (p : Path) : String := String.ofList (divideName p.name.toList).1

def append (p : Path) (parts : List String) : Path := ⟨p.parts ++ parts⟩

/-- Whether a list of names stands before another or is the same, name by name. -/
def partsLE : List String → List String → Bool
  | [], _ => true
  | _ :: _, [] => false
  | a :: as, b :: bs => if a == b then partsLE as bs else Text.atMost a b

end Path

end Conformance
