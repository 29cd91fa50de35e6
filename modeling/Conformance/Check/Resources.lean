import Conformance.Check.Access

/-!
# Resource checks

The closing operation of a type that closes itself declares no exceptions.
-/

namespace Conformance.Check

def autoClosingTypes : List String := ["AutoCloseable", "Closeable"]

def closingMethod : String := "close"

/-- A closing operation without parameters that declares exceptions. -/
def closeThrows : Inspection := fun node context => do
  let name ← node.named
  if !(context.params.valueOr "method" (.str closingMethod)).isText name then return none
  else
    let (site, _, signature) ← node.asMethod "parameters"
    if !signature.parameters.isEmpty then return none
    else
      match site.enclosing.head? with
      | none => return none
      | some owner =>
        let capabilities ←
          (context.params.valueOr "capabilities" (.ofTexts autoClosingTypes)).iterate
        match ← findNamed owner.implements capabilities with
        | none => return none
        | some capability =>
          if signature.throws.isEmpty then return none
          else
            return some { values := [
              ("owner", .str owner.header.name),
              ("capability", .str capability),
              ("throws", .str (", ".intercalate signature.throws))] }

end Conformance.Check
