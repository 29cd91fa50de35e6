import Conformance.Proofs.Traversal
import Conformance.Symbol.Validation

/-!
# Units without the arguments of annotations

Two units agree but for the arguments of annotations exactly if they are equal once the arguments
are taken away. Taking them away moves no declaration, and validation does not look at them.
-/

namespace Conformance

/-! ### Taking the arguments away -/

def Annotation.withoutArguments (a : Annotation) : Annotation := { a with arguments := [] }

def Header.withoutArguments (h : Header) : Header :=
  { h with annotations := h.annotations.map (·.withoutArguments) }

namespace Declaration

mutual

/-- The declaration and all that is declared in it, with no argument on any annotation. -/
def withoutArguments : Declaration → Declaration
  | type header typeKind supertypes members =>
    type header.withoutArguments typeKind supertypes (membersWithoutArguments members)
  | method header signature => method header.withoutArguments signature
  | field header typeName => field header.withoutArguments typeName

def membersWithoutArguments : List Declaration → List Declaration
  | [] => []
  | d :: rest => d.withoutArguments :: membersWithoutArguments rest

end

end Declaration

def TypeDeclaration.withoutArguments (t : TypeDeclaration) : TypeDeclaration :=
  ⟨t.header.withoutArguments, t.typeKind, t.supertypes,
    Declaration.membersWithoutArguments t.members⟩

def Site.withoutArguments (s : Site) : Site :=
  ⟨s.enclosing.map (·.withoutArguments), s.declaration.withoutArguments⟩

def SourceUnit.withoutArguments (u : SourceUnit) : SourceUnit :=
  { u with declarations := Declaration.membersWithoutArguments u.declarations }

/-! ### Declarations stay in their places -/

namespace Declaration

@[simp] theorem header_withoutArguments (d : Declaration) :
    d.withoutArguments.header = d.header.withoutArguments := by
  cases d <;> simp [withoutArguments, header]

@[simp] theorem kind_withoutArguments (d : Declaration) : d.withoutArguments.kind = d.kind := by
  cases d <;> simp [withoutArguments, kind]

mutual

theorem preorder_withoutArguments (enclosing : List TypeDeclaration) : (d : Declaration) →
    d.withoutArguments.preorder (enclosing.map (·.withoutArguments)) =
      (d.preorder enclosing).map (·.withoutArguments)
  | type header typeKind supertypes members => by
    have hmembers :=
      preorders_withoutArguments (⟨header, typeKind, supertypes, members⟩ :: enclosing) members
    rw [withoutArguments, preorder, preorder, List.map_cons, ← hmembers]
    simp [Site.withoutArguments, withoutArguments, TypeDeclaration.withoutArguments]
  | method header signature => by
    simp [withoutArguments, preorder, Site.withoutArguments]
  | field header typeName => by
    simp [withoutArguments, preorder, Site.withoutArguments]

theorem preorders_withoutArguments (enclosing : List TypeDeclaration) : (ds : List Declaration) →
    preorders (enclosing.map (·.withoutArguments)) (membersWithoutArguments ds) =
      (preorders enclosing ds).map (·.withoutArguments)
  | [] => rfl
  | d :: rest => by
    rw [membersWithoutArguments, preorders, preorders, List.map_append,
      preorder_withoutArguments enclosing d, preorders_withoutArguments enclosing rest]

end

end Declaration

namespace SourceUnit

theorem preorder_withoutArguments (u : SourceUnit) :
    u.withoutArguments.preorder = u.preorder.map (·.withoutArguments) :=
  Declaration.preorders_withoutArguments [] u.declarations

/-- The annotations of a unit, those of a declaration before those of what is declared in it. -/
def occurrences (u : SourceUnit) : List Annotation := u.preorder.flatMap (·.header.annotations)

theorem occurrences_withoutArguments (u : SourceUnit) :
    u.withoutArguments.occurrences = u.occurrences.map (·.withoutArguments) := by
  rw [occurrences, preorder_withoutArguments, List.flatMap_map, occurrences, List.map_flatMap]
  simp [Site.withoutArguments, Site.header, Header.withoutArguments]

/-! ### Validation -/

theorem siteLabel_withoutArguments (s : Site) : siteLabel s.withoutArguments = siteLabel s := by
  have hnames : s.withoutArguments.qualifiedName = s.qualifiedName := by
    simp [Site.qualifiedName, Site.namePath, Site.withoutArguments, Site.name, Declaration.name,
      TypeDeclaration.withoutArguments, Header.withoutArguments, Function.comp_def]
  have hkind : s.withoutArguments.declaration.kind = s.declaration.kind :=
    Declaration.kind_withoutArguments _
  rw [siteLabel, hnames, hkind, siteLabel]

theorem bodyFault?_withoutArguments (u : SourceUnit) (label : String) (d : Declaration) :
    u.withoutArguments.bodyFault? label d.withoutArguments = u.bodyFault? label d := by
  cases d <;> rw [Declaration.withoutArguments] <;> rfl

/-- No part of the check of a site looks at arguments. -/
theorem siteFault?_withoutArguments (u : SourceUnit) (s : Site) :
    u.withoutArguments.siteFault? s.withoutArguments = u.siteFault? s := by
  have hheader : s.withoutArguments.header = s.header.withoutArguments :=
    Declaration.header_withoutArguments _
  have hspan : s.withoutArguments.declaration.span = s.declaration.span := by
    change s.withoutArguments.header.span = s.header.span
    rw [hheader]
    rfl
  have hdoc : s.withoutArguments.header.doc = s.header.doc := by
    rw [hheader]
    rfl
  have hunit : u.withoutArguments.boundsFault? = u.boundsFault? ∧
      u.withoutArguments.withinFault? = u.withinFault? ∧
      u.withoutArguments.docFault? = u.docFault? := ⟨rfl, rfl, rfl⟩
  have hbody : u.withoutArguments.bodyFault? (siteLabel s) s.withoutArguments.declaration =
      u.bodyFault? (siteLabel s) s.declaration := bodyFault?_withoutArguments u _ _
  simp only [siteFault?, siteLabel_withoutArguments, hspan, hdoc, hunit, hbody]
  rw [hheader, Header.withoutArguments, List.findSome?_map, Site.withoutArguments, List.head?_map,
    Option.bind_map]
  rfl

theorem fault?_withoutArguments (u : SourceUnit) : u.withoutArguments.fault? = u.fault? := by
  have hsites : u.withoutArguments.walk.findSome? u.withoutArguments.siteFault? =
      u.walk.findSome? u.siteFault? := by
    rw [walk_eq_preorder, walk_eq_preorder, preorder_withoutArguments, List.findSome?_map]
    congr 1
    funext s
    exact siteFault?_withoutArguments u s
  rw [fault?, firstFault?, hsites]
  rfl

end SourceUnit

end Conformance
