import Conformance.Registry

/-!
# Severities on the command line

A severity is overridden by the name of a rule, an equals sign and a level.
-/

namespace Conformance.Override

/-- A name that is present keeps its place and takes the new level. -/
def put (overrides : List (String × String)) (id level : String) : List (String × String) :=
  if overrides.any (·.1 == id) then
    overrides.map fun o => if o.1 == id then (id, level) else o
  else overrides ++ [(id, level)]

def parse (given : String) : Except PolicyError (String × String) :=
  let cs := given.toList
  let id := Text.trimChars (cs.takeWhile (· != '='))
  let level := Text.trimChars ((cs.dropWhile (· != '=')).drop 1)
  if id.isEmpty || level.isEmpty then .error (.badOverrideText given)
  else .ok (String.ofList id, String.ofList level)

def parseFrom (overrides : List (String × String)) :
    List String → Except PolicyError (List (String × String))
  | [] => .ok overrides
  | given :: rest => do
    let (id, level) ← parse given
    parseFrom (put overrides id level) rest

/-- The rules and levels of several texts; for a rule that is named again the last level counts. -/
def parseAll (given : List String) : Except PolicyError (List (String × String)) :=
  parseFrom [] given

end Conformance.Override
