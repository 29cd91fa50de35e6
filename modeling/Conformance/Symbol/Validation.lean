import Conformance.Symbol.Site

/-!
# Validation

The rules that the spans of a unit keep: every part lies inside the lines of the unit, declarations
are not empty and lie inside the type around them, annotations, handlers and resource scopes lie
inside their declaration, and tags inside their documentation comment. The first broken rule is
reported, in the order imports, directives, declarations as they are visited.
-/

namespace Conformance

namespace SourceUnit

def boundsFault? (u : SourceUnit) (label : String) (span : Span) : Option ModelFault :=
  if span.isInverted then some (.spanFault label span .inverted)
  else if u.inBounds span.start && u.inBounds span.stop then none
  else some (.spanFault label span (.outsideUnit u.span))

def withinFault? (u : SourceUnit) (label part : String) (outer span : Span) : Option ModelFault :=
  u.boundsFault? label span <|>
    if outer.contains span then none else some (.spanFault label span (.outsidePart part outer))

def docFault? (u : SourceUnit) (label : String) (doc : DocComment) : Option ModelFault :=
  u.boundsFault? s!"doc comment of {label}" doc.span <|>
    doc.tags.findSome? fun tag =>
      u.withinFault? s!"@{tag.kind} tag of {label}" "its doc comment" doc.span tag.span

/-- The first fault in the body of a method; other declarations have no body. -/
def bodyFault? (u : SourceUnit) (label : String) : Declaration → Option ModelFault
  | .method header signature =>
    (signature.handlers.findSome? fun handler =>
      u.withinFault? s!"exception handler in {label}" label header.span handler.span) <|>
    signature.resourceScopes.findSome? fun scope =>
      u.withinFault? s!"resource scope in {label}" label header.span scope.span
  | _ => none

def siteLabel (site : Site) : String :=
  s!"{site.declaration.kind.label} '{site.qualifiedName}'"

def siteFault? (u : SourceUnit) (site : Site) : Option ModelFault :=
  let label := siteLabel site
  let span := site.declaration.span
  (if span.isEmpty then some (.spanFault label span .empty) else none) <|>
    u.boundsFault? label span <|>
    (site.enclosing.head?.bind fun parent =>
      u.withinFault? label "its enclosing type" parent.header.span span) <|>
    (site.header.annotations.findSome? fun a =>
      u.withinFault? s!"annotation '{a.name}' on {label}" label span a.span) <|>
    (site.header.doc.bind (u.docFault? label)) <|>
    u.bodyFault? label site.declaration

def firstFault? (u : SourceUnit) : Option ModelFault :=
  (u.imports.findSome? fun i => u.boundsFault? s!"import '{i.name}'" i.span) <|>
    (u.suppressions.findSome? fun d => u.boundsFault? s!"suppression '{d.text}'" d.span) <|>
    u.walk.findSome? u.siteFault?

def fault? (u : SourceUnit) : Option ModelError := u.firstFault?.map u.modelError

end SourceUnit

end Conformance
