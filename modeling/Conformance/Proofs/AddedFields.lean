import Conformance.Proofs.Traversal
import Conformance.Proofs.WellFormed
import Mathlib.Data.List.Forall2

/-!
# Nesting, and units that gain a field

A declaration is nested in the types that it is written in, and the walk over a unit meets each
declaration with just these types. A unit that gains a field without annotations has the annotations
that it had, on declarations with the headers that they had; only the types around them may have one
more field.
-/

namespace Conformance

/-- The declaration is written in the unit inside of the given types, the innermost first. -/
inductive SourceUnit.Nests (u : SourceUnit) : List TypeDeclaration → Declaration → Prop where
  | top {d : Declaration} (hd : d ∈ u.declarations) : Nests u [] d
  | member {around : List TypeDeclaration} {t : TypeDeclaration} {m : Declaration}
      (ht : Nests u around t.toDeclaration) (hm : m ∈ t.members) : Nests u (t :: around) m

namespace Site

theorem mem_walkFrom_of_mem {stack : List Site} {s : Site} (h : s ∈ stack) :
    s ∈ walkFrom stack := by
  rw [walkFrom_eq_flatMap]
  refine List.mem_flatMap.mpr ⟨s, h, ?_⟩
  rw [preorder_eq_cons]
  exact List.mem_cons_self

theorem memberSites_subset_walkFrom {stack : List Site} {s m : Site} (h : s ∈ walkFrom stack)
    (hm : m ∈ s.memberSites) : m ∈ walkFrom stack := by
  induction stack using walkFrom.induct with
  | case1 =>
    rw [walkFrom] at h
    cases h
  | case2 site rest ih =>
    rw [walkFrom] at h ⊢
    refine List.mem_cons_of_mem _ ?_
    rcases List.mem_cons.mp h with rfl | h
    · exact mem_walkFrom_of_mem (List.mem_append_left _ hm)
    · exact ih h

end Site

theorem SourceUnit.mem_walk_iff {u : SourceUnit} {around : List TypeDeclaration}
    {d : Declaration} : (⟨around, d⟩ : Site) ∈ u.walk ↔ u.Nests around d := by
  constructor
  · have hstep (s : Site) (hs : u.Nests s.enclosing s.declaration) (m : Site)
        (hm : m ∈ s.memberSites) : u.Nests m.enclosing m.declaration := by
      obtain ⟨t, ht, d, hd, rfl⟩ := Site.mem_memberSites.mp hm
      exact .member (ht ▸ hs) hd
    exact Site.walkFrom_preserves hstep (List.forall_mem_map.mpr fun d hd => .top hd) ⟨around, d⟩
  · intro h
    induction h with
    | top hd => exact Site.mem_walkFrom_of_mem (List.mem_map.mpr ⟨_, hd, rfl⟩)
    | @member around t m _ hm ih =>
      exact Site.memberSites_subset_walkFrom ih (Site.mem_memberSites.mpr ⟨t, rfl, m, hm, rfl⟩)

/-- Annotations are shown with the declaration that they stand on, as it is nested. -/
theorem SourceUnit.mark_mem_nodes_iff {u : SourceUnit} {target : Option Site} {a : Annotation} :
    Node.mark target a ∈ u.nodes ↔
      ∃ around d, u.Nests around d ∧ a ∈ d.header.annotations ∧ target = some ⟨around, d⟩ := by
  constructor
  · intro h
    cases holds_of_mem_nodes h with
    | @mark site _ hsite ha =>
      exact ⟨site.enclosing, site.declaration, mem_walk_iff.mp hsite, ha, rfl⟩
  · rintro ⟨around, d, hd, ha, rfl⟩
    refine List.mem_flatMap.mpr ⟨⟨around, d⟩, mem_walk_iff.mpr hd, ?_⟩
    exact List.mem_append_left _ (List.mem_cons_of_mem _ (List.mem_map_of_mem ha))

/-! ### One more field -/

/-- The declarations gain a field without annotations: among them, or in a type at any depth. -/
inductive GainsField : List Declaration → List Declaration → Prop where
  | here (before after : List Declaration) {header : Header} (typeName : String)
      (bare : header.annotations = []) :
      GainsField (before ++ after) (before ++ .field header typeName :: after)
  | inside (before after : List Declaration) (header : Header) (typeKind : String)
      (supertypes : List String) {members grown : List Declaration}
      (gains : GainsField members grown) :
      GainsField (before ++ .type header typeKind supertypes members :: after)
        (before ++ .type header typeKind supertypes grown :: after)

theorem TypeDeclaration.mem_memberNames {t : TypeDeclaration} {kind : NodeKind} {name : String} :
    name ∈ t.memberNames kind ↔ ∃ m ∈ t.members, m.kind = kind ∧ m.name = name := by
  simp only [memberNames, List.mem_map, List.mem_filter, beq_iff_eq, and_assoc]

/-- The same type, but that it may have more fields. -/
structure TypeDeclaration.Widens (t wide : TypeDeclaration) : Prop where
  header : wide.header = t.header
  fields : t.memberNames .field ⊆ wide.memberNames .field

/-- A declaration with the same header, in types that may have more fields. -/
structure Site.Widens (s wide : Site) : Prop where
  header : wide.header = s.header
  enclosing : List.Forall₂ TypeDeclaration.Widens s.enclosing wide.enclosing

/-- The same annotation, in types that may have more fields. -/
inductive Node.MarkWidens : Node → Node → Prop where
  | intro {s wide : Site} (h : s.Widens wide) (a : Annotation) :
      MarkWidens (.mark (some s) a) (.mark (some wide) a)

theorem TypeDeclaration.Widens.refl (t : TypeDeclaration) : t.Widens t :=
  ⟨rfl, List.Subset.refl _⟩

/-- The annotations of a declaration as nodes. -/
def Site.marks (s : Site) : List Node := s.header.annotations.map (Node.mark (some s))

theorem Site.Widens.marks {s wide : Site} (h : s.Widens wide) :
    List.Forall₂ Node.MarkWidens s.marks wide.marks := by
  rw [Site.marks, Site.marks, h.header, List.forall₂_map_left_iff, List.forall₂_map_right_iff,
    List.forall₂_same]
  exact fun a _ => .intro h a

namespace Declaration

mutual

theorem preorder_widens {around wide : List TypeDeclaration}
    (h : List.Forall₂ TypeDeclaration.Widens around wide) :
    ∀ d : Declaration, List.Forall₂ Site.Widens (d.preorder around) (d.preorder wide)
  | .type header typeKind supertypes members => by
    rw [preorder, preorder]
    exact .cons ⟨rfl, h⟩ (preorders_widens (.cons (.refl _) h) members)
  | .method header signature => .cons ⟨rfl, h⟩ .nil
  | .field header typeName => .cons ⟨rfl, h⟩ .nil

theorem preorders_widens {around wide : List TypeDeclaration}
    (h : List.Forall₂ TypeDeclaration.Widens around wide) :
    ∀ ds : List Declaration,
      List.Forall₂ Site.Widens (preorders around ds) (preorders wide ds)
  | [] => .nil
  | d :: rest => List.rel_append (preorder_widens h d) (preorders_widens h rest)

end

/-- The annotations of the declarations of a list, each with the site that it stands on. -/
def marks (around : List TypeDeclaration) (ds : List Declaration) : List Node :=
  (preorders around ds).flatMap Site.marks

theorem marks_append (around : List TypeDeclaration) (ds es : List Declaration) :
    marks around (ds ++ es) = marks around ds ++ marks around es := by
  simp only [marks, preorders_eq_flatMap, List.flatMap_append]

theorem marks_type (around : List TypeDeclaration) (t : TypeDeclaration)
    (rest : List Declaration) :
    marks around (t.toDeclaration :: rest) = (⟨around, t.toDeclaration⟩ : Site).marks ++
      marks (t :: around) t.members ++ marks around rest := by
  rw [marks, preorders, List.flatMap_append]
  rfl

theorem marks_field (around : List TypeDeclaration) {header : Header} (typeName : String)
    (bare : header.annotations = []) (rest : List Declaration) :
    marks around (.field header typeName :: rest) = marks around rest := by
  have hnone : (⟨around, .field header typeName⟩ : Site).marks = [] := by
    rw [Site.marks, Site.header, Declaration.header, bare]
    rfl
  rw [marks, preorders, List.flatMap_append, preorder, List.flatMap_singleton, hnone]
  rfl

theorem marks_widens {around wide : List TypeDeclaration}
    (h : List.Forall₂ TypeDeclaration.Widens around wide) (ds : List Declaration) :
    List.Forall₂ Node.MarkWidens (marks around ds) (marks wide ds) :=
  List.rel_flatMap (preorders_widens h ds) fun _ _ => Site.Widens.marks

end Declaration

theorem SourceUnit.sequence_filter_mark (u : SourceUnit) :
    u.sequence.filter (fun node => node.kind == .mark) = Declaration.marks [] u.declarations := by
  rw [sequence, Declaration.marks, List.filter_flatMap, ← preorder]
  refine List.flatMap_congr fun s _ => ?_
  have hsite : ((Node.declaration s).kind == .mark) = false := by
    cases h : s.declaration <;> simp [Node.kind, Declaration.kind, h]
  have hmarks : s.marks.filter (fun node => node.kind == .mark) = s.marks :=
    List.filter_eq_self.mpr (List.forall_mem_map.mpr fun _ _ => rfl)
  have hdoc : (s.header.doc.map (Node.doc (some s))).toList.filter
      (fun node => node.kind == .mark) = [] := by
    cases s.header.doc <;> rfl
  rw [List.filter_cons, if_neg (Bool.eq_false_iff.mp hsite), List.filter_append, hdoc,
    List.append_nil]
  exact hmarks

namespace GainsField

theorem mem_of_field {ds grown : List Declaration} (h : GainsField ds grown) {d : Declaration}
    (hd : d ∈ ds) (field : d.kind = .field) : d ∈ grown := by
  cases h with
  | here before after typeName bare =>
    rcases List.mem_append.mp hd with hd | hd
    · exact List.mem_append_left _ hd
    · exact List.mem_append_right _ (List.mem_cons_of_mem _ hd)
  | inside before after header typeKind supertypes gains =>
    rcases List.mem_append.mp hd with hd | hd
    · exact List.mem_append_left _ hd
    rcases List.mem_cons.mp hd with rfl | hd
    · cases field
    · exact List.mem_append_right _ (List.mem_cons_of_mem _ hd)

theorem widens {members grown : List Declaration} (h : GainsField members grown) (header : Header)
    (typeKind : String) (supertypes : List String) :
    TypeDeclaration.Widens ⟨header, typeKind, supertypes, members⟩
      ⟨header, typeKind, supertypes, grown⟩ := by
  refine ⟨rfl, fun name hname => ?_⟩
  obtain ⟨d, hd, hkind, rfl⟩ := TypeDeclaration.mem_memberNames.mp hname
  exact TypeDeclaration.mem_memberNames.mpr ⟨d, h.mem_of_field hd hkind, hkind, rfl⟩

/-- A field without annotations brings no annotation, and all others stay in their order. -/
theorem marks {ds grown : List Declaration} (h : GainsField ds grown) :
    ∀ {around wide : List TypeDeclaration}, List.Forall₂ TypeDeclaration.Widens around wide →
      List.Forall₂ Node.MarkWidens (Declaration.marks around ds)
        (Declaration.marks wide grown) := by
  -- The types around the list differ from one depth to the next, so they stay general.
  induction h with
  | here before after typeName bare =>
    intro around wide hwide
    rw [Declaration.marks_append, Declaration.marks_append, Declaration.marks_field _ _ bare]
    exact List.rel_append (Declaration.marks_widens hwide before)
      (Declaration.marks_widens hwide after)
  | @inside before after header typeKind supertypes members grown gains ih =>
    intro around wide hwide
    have htype := Declaration.marks_type around ⟨header, typeKind, supertypes, members⟩ after
    have htype' := Declaration.marks_type wide ⟨header, typeKind, supertypes, grown⟩ after
    rw [TypeDeclaration.toDeclaration] at htype htype'
    rw [Declaration.marks_append, Declaration.marks_append, htype, htype']
    refine List.rel_append (Declaration.marks_widens hwide before) (List.rel_append
      (List.rel_append ?own ?members) (Declaration.marks_widens hwide after))
    case own => exact Site.Widens.marks ⟨rfl, hwide⟩
    case members => exact ih (.cons (gains.widens header typeKind supertypes) hwide)

/-! ### Validation -/

theorem wellFormed {ds grown : List Declaration} (h : GainsField ds grown) {u : SourceUnit} :
    ∀ {around : Option Span}, (∀ d ∈ grown, d.WellFormed u around) →
      ∀ d ∈ ds, d.WellFormed u around := by
  induction h with
  | here before after typeName bare =>
    intro around hall
    obtain ⟨hbefore, hafter⟩ := List.forall_mem_append.mp hall
    exact List.forall_mem_append.mpr ⟨hbefore, (List.forall_mem_cons.mp hafter).2⟩
  | inside before after header typeKind supertypes gains ih =>
    intro around hall
    obtain ⟨hbefore, hafter⟩ := List.forall_mem_append.mp hall
    obtain ⟨htype, hafter⟩ := List.forall_mem_cons.mp hafter
    refine List.forall_mem_append.mpr ⟨hbefore, List.forall_mem_cons.mpr ⟨?_, hafter⟩⟩
    cases htype with
    | intro sound members =>
      refine .intro ?_ (ih members)
      exact ⟨sound.nonempty, sound.start, sound.stop, sound.inside, sound.annotations, sound.doc,
        sound.body⟩

end GainsField

namespace SourceUnit
variable {u v : SourceUnit}

theorem Fits.of_lines (lines : v.lineLengths = u.lineLengths) {s : Span} (h : u.Fits s) :
    v.Fits s := by
  have hposition (p : Position) : u.HasPosition p → v.HasPosition p := by
    rw [HasPosition, HasPosition, lines]
    exact id
  exact ⟨h.upright, hposition _ h.start, hposition _ h.stop⟩

theorem FitsIn.of_lines (lines : v.lineLengths = u.lineLengths) {outer s : Span}
    (h : u.FitsIn outer s) : v.FitsIn outer s :=
  ⟨h.toFits.of_lines lines, h.inside⟩

end SourceUnit

/-- The rules for declarations look at the lines of the unit and at nothing else of it. -/
theorem Declaration.WellFormed.of_lines {u v : SourceUnit}
    (lines : v.lineLengths = u.lineLengths) {around : Option Span} {d : Declaration}
    (h : d.WellFormed u around) : d.WellFormed v around := by
  induction h with
  | intro sound members ih =>
    have hfits := sound.fits.of_lines lines
    exact .intro {
      nonempty := sound.nonempty
      start := hfits.start
      stop := hfits.stop
      inside := sound.inside
      annotations := fun a ha => (sound.annotations a ha).of_lines lines
      doc := fun c hc => ⟨(sound.doc c hc).1.of_lines lines,
        fun tag htag => ((sound.doc c hc).2 tag htag).of_lines lines⟩
      body := fun s hs => (sound.body s hs).of_lines lines } ih

/-- A unit that is valid with the field was valid without it. -/
theorem GainsField.fault?_eq_none {u : SourceUnit} {grown : List Declaration}
    (h : GainsField u.declarations grown)
    (sound : { u with declarations := grown }.fault? = none) : u.fault? = none := by
  have lines : u.lineLengths = { u with declarations := grown }.lineLengths := rfl
  obtain ⟨himports, hsuppressions, hdeclarations⟩ := SourceUnit.fault?_eq_none_iff.mp sound
  refine SourceUnit.fault?_eq_none_iff.mpr ⟨fun i hi => (himports i hi).of_lines lines,
    fun d hd => (hsuppressions d hd).of_lines lines, ?_⟩
  exact fun d hd => (h.wellFormed hdeclarations d hd).of_lines lines

end Conformance
