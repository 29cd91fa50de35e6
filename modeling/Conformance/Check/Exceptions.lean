import Conformance.Check.Access

/-!
# Exception checks

Handlers do something, and catch no more than they can handle.
-/

namespace Conformance.Check

def broadTypes : List String := ["Throwable", "Exception", "RuntimeException"]

def emptyHandler : Inspection := fun node _ => do
  let (_, _, signature) ← node.asMethod "handlers"
  match signature.handlers.find? fun h => h.bodyEmpty && !h.hasComment with
  | none => return none
  | some handler =>
    return some {
      span := handler.span
      values := [("caught", .str (" | ".intercalate handler.caught))] }

def broadCatch : Inspection := fun node context => do
  let broad ← (context.params.valueOr "types" (.ofTexts broadTypes)).keyItems
  let (_, _, signature) ← node.asMethod "handlers"
  let caught := signature.handlers.flatMap fun h => h.caught.map (h, ·)
  match caught.find? fun c => broad.any (·.isText (Text.simpleName c.2)) with
  | none => return none
  | some (handler, name) =>
    return some { span := handler.span, values := [("caught", .str name)] }

end Conformance.Check
