import Conformance.Symbol.Unit

/-!
# Declarations in their places

A site is a declaration together with the types around it. `SourceUnit.walk` lists the sites of a
unit, each type before its members, and `SourceUnit.nodes` the nodes that rules look at: each
declaration, then its annotations, then its documentation comment.
-/

namespace Conformance

/-- A declaration and the types that enclose it, the innermost first. -/
structure Site where
  enclosing : List TypeDeclaration
  declaration : Declaration

namespace Site

def header (s : Site) : Header := s.declaration.header

def name (s : Site) : String := s.declaration.name

/-- The names of the enclosing types, from the outermost, and of the declaration. -/
def namePath (s : Site) : List String :=
  (s.enclosing.map (·.header.name)).reverse ++ [s.name]

def qualifiedName (s : Site) : String := ".".intercalate s.namePath

def memberSites (s : Site) : List Site :=
  match s.declaration.asType? with
  | some t => t.members.map fun m => ⟨t :: s.enclosing, m⟩
  | none => []

/-- The number of declarations at and below the sites of a stack, which bounds the work left. -/
def load (stack : List Site) : Nat := Declaration.sizes (stack.map declaration)

theorem load_memberSites (s : Site) : load s.memberSites < s.declaration.size := by
  obtain ⟨enclosing, declaration⟩ := s
  cases declaration <;>
    simp [load, memberSites, Declaration.asType?, Declaration.size, Declaration.sizes,
      Function.comp_def]

/-- The sites reached from a stack of sites: the top one, and then what its members and the rest of
the stack lead to. -/
def walkFrom : List Site → List Site
  | [] => []
  | site :: rest => site :: walkFrom (site.memberSites ++ rest)
termination_by stack => load stack
decreasing_by
  have := load_memberSites site
  simp only [load, List.map_append, List.map_cons, Declaration.sizes_append, Declaration.sizes]
  simp only [load] at this
  omega

end Site

/-- What a rule looks at. Annotations and documentation know the declaration they belong to. -/
inductive Node where
  | declaration (site : Site)
  | mark (target : Option Site) (written : Annotation)
  | doc (owner : Option Site) (comment : DocComment)

namespace Node

def kind : Node → NodeKind
  | declaration site => site.declaration.kind
  | mark .. => .mark
  | doc .. => .doc

def span : Node → Span
  | declaration site => site.declaration.span
  | mark _ a => a.span
  | doc _ d => d.span

/-- The name of a node; documentation has none. -/
def name : Node → String
  | declaration site => site.name
  | mark _ a => a.name
  | doc .. => ""

def site? : Node → Option Site
  | declaration site => some site
  | mark target _ => target
  | doc owner _ => owner

end Node

def Site.nodes (s : Site) : List Node :=
  .declaration s :: s.header.annotations.map (Node.mark (some s)) ++
    (s.header.doc.map (Node.doc (some s))).toList

/-- An annotation, given by the place of its declaration in the walk and its own place there, or an
annotation that belongs to no unit. -/
inductive AnnotationRef where
  | placed (site mark : Nat)
  | loose (name : String)
  deriving DecidableEq, Repr

namespace SourceUnit

/-- The sites of a unit in depth-first order, parents before children. -/
def walk (u : SourceUnit) : List Site :=
  Site.walkFrom (u.declarations.map fun d => ⟨[], d⟩)

def nodes (u : SourceUnit) : List Node := u.walk.flatMap Site.nodes

def qualifiedName (u : SourceUnit) (s : Site) : String :=
  if u.package.isEmpty then s.qualifiedName else u.package ++ "." ++ s.qualifiedName

def lookup (u : SourceUnit) (name : String) : List Site :=
  u.walk.filter fun s => name == s.qualifiedName || name == u.qualifiedName s

def annotationTarget (u : SourceUnit) : AnnotationRef → Except ModelError Site
  | .placed place mark =>
    match u.walk[place]? with
    | some site =>
      if mark < site.header.annotations.length then .ok site
      else .error (u.modelError (.foreignMark "" u.path))
    | none => .error (u.modelError (.foreignMark "" u.path))
  | .loose name => .error (u.modelError (.foreignMark name u.path))

end SourceUnit

end Conformance
