import Conformance.Check.Access

/-!
# Concurrency checks

Guard annotations name a lock that exists, and the fields of types that are marked as safe to share
are final or guarded.
-/

namespace Conformance.Check

def guardName : String := "GuardedBy"

def threadSafeMarkers : List String := ["Immutable", "ThreadSafe"]

/-- Whether a lock is always there: the instance itself, or a class literal. -/
def isImplicitLock (lock : String) : Bool :=
  lock == "this" || ".class".toList.isSuffixOf lock.toList

def lockDetail? (target : Option Site) (lock : String) : Option String :=
  if isImplicitLock lock then none
  else
    match (target.map Site.enclosing).getD [] with
    | [] => some "is not inside a type"
    | owner :: outer =>
      let name := Text.simpleName lock
      if (owner :: outer).any fun t => (t.memberNames .field).contains name then none
      else some s!"names '{lock}', which is not a field of {owner.header.name}"

def lockOf (a : Annotation) : Except Fault String :=
  match a.arguments.get? "value" with
  | none => .ok ""
  | some .null => .ok ""
  | some v => do return Text.trim (← v.written)

def guardedByUnknownLock : Inspection := fun node context => do
  let (target, a) ← node.asMark "simple_name"
  if !(context.params.valueOr "annotation" (.str guardName)).isText a.simpleName then return none
  else
    let lock ← lockOf a
    if lock.isEmpty then
      return some { values := [("lock", .str ""), ("detail", .str "names no lock")] }
    else
      match lockDetail? target lock with
      | none => return none
      | some detail => return some { values := [("lock", .str lock), ("detail", .str detail)] }

/-- A field of a type that is safe to share, neither final nor guarded; a volatile one will do where
the type is not immutable. -/
def immutableMutableField : Inspection := fun node context => do
  let site ← node.asSite "enclosing_type"
  match site.enclosing.head? with
  | none => return none
  | some owner =>
    let markers ← (context.params.valueOr "markers" (.ofTexts threadSafeMarkers)).iterate
    match ← findNamed owner.header.carries markers with
    | none => return none
    | some marker =>
      let h := site.header
      if h.hasModifier "final" || h.carries guardName then return none
      else if h.hasModifier "volatile" && marker != "Immutable" then return none
      else
        return some { values := [("owner", .str owner.header.name), ("marker", .str marker)] }

end Conformance.Check
