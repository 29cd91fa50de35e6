import Conformance.Proofs.DocumentNesting
import Conformance.Proofs.UnitDocuments

/-!
# Objects and their links

In memory the parts of a unit are objects: annotations, comments and declarations. They are made
from the inside out, and a declaration, when it is made, is written into each of its parts as the
one that the part belongs to: into its annotations as their target, into its comment as its owner,
and into its members as their parent. Names are found by following these links outward. Here it is
shown that the links lead back through just the types that a declaration is written in.
-/

namespace Conformance

/-- The header without annotations and comment, which are objects of their own. -/
def Header.alone (h : Header) : Header := { h with annotations := [], doc := none }

/-- A declaration without annotations, comment and members. -/
def Declaration.alone : Declaration → Declaration
  | type header typeKind supertypes _ => type header.alone typeKind supertypes []
  | method header signature => method header.alone signature
  | field header typeName => field header.alone typeName

/-- A declaration as an object: what it says itself, and where its parts are. -/
structure Entity where
  own : Declaration
  marks : List Nat
  comment : Option Nat
  members : List Nat

def Entity.parts (e : Entity) : List Nat := e.marks ++ e.comment.toList ++ e.members

inductive Object where
  | declaration (entity : Entity)
  | mark (written : Annotation)
  | comment (written : DocComment)

/-- Objects, each known by its number, and links from an object to the declaration that it belongs
to: the target of an annotation, the owner of a comment, the parent of a member. -/
structure Store where
  objects : List Object := []
  link : Nat → Option Nat := fun _ => none

namespace Store

/-! ## Making the objects of a unit -/

/-- The number that the next object gets. -/
def size (st : Store) : Nat := st.objects.length

def addMarks (st : Store) (written : List Annotation) : List Nat × Store :=
  (List.range' st.size written.length, { st with objects := st.objects ++ written.map .mark })

def addComment (st : Store) : Option DocComment → Option Nat × Store
  | none => (none, st)
  | some c => (some st.size, { st with objects := st.objects ++ [.comment c] })

/-- Makes a declaration and links its parts to it. -/
def declare (st : Store) (e : Entity) : Nat × Store :=
  (st.size,
    { objects := st.objects ++ [.declaration e]
      link := fun k => if k ∈ e.parts then some st.size else st.link k })

mutual

/-- Makes the objects of a declaration: its annotations, its comment, its members and, when all of
them are there, the declaration. -/
def build (st : Store) : Declaration → Nat × Store
  | .type header typeKind supertypes members =>
    let (marks, st) := st.addMarks header.annotations
    let (comment, st) := st.addComment header.doc
    let (ids, st) := st.buildAll members
    st.declare ⟨.type header.alone typeKind supertypes [], marks, comment, ids⟩
  | .method header signature =>
    let (marks, st) := st.addMarks header.annotations
    let (comment, st) := st.addComment header.doc
    st.declare ⟨.method header.alone signature, marks, comment, []⟩
  | .field header typeName =>
    let (marks, st) := st.addMarks header.annotations
    let (comment, st) := st.addComment header.doc
    st.declare ⟨.field header.alone typeName, marks, comment, []⟩

def buildAll (st : Store) : List Declaration → List Nat × Store
  | [] => ([], st)
  | d :: rest =>
    let (id, st) := st.build d
    let (ids, st) := st.buildAll rest
    (id :: ids, st)

end

/-! ## Looking at objects -/

def entity? (st : Store) (id : Nat) : Option Entity :=
  match st.objects[id]? with
  | some (.declaration e) => some e
  | _ => none

def marksOf (st : Store) (id : Nat) : List Nat := ((st.entity? id).map (·.marks)).getD []

def commentOf (st : Store) (id : Nat) : Option Nat := (st.entity? id).bind (·.comment)

def membersOf (st : Store) (id : Nat) : List Nat := ((st.entity? id).map (·.members)).getD []

def nameOf (st : Store) (id : Nat) : String := ((st.entity? id).map (·.own.name)).getD ""

/-- The declarations that are reached by following links outward, the innermost first. -/
def ancestors (st : Store) (id : Nat) : Part (List Nat) :=
  yields (fun k => (st.link k).map fun outer => (outer, outer)) id

/-- The names of the ancestors, the outermost first, and of the object, joined by dots. -/
def qualifiedName (st : Store) (id : Nat) : Part String := do
  let around ← st.ancestors id
  return ".".intercalate ((around.map st.nameOf).reverse ++ [st.nameOf id])

/-- The declarations in the order of the walk. -/
def walk (st : Store) (roots : List Nat) : Part (List Nat) :=
  depthFirst st.membersOf roots.reverse

/-- The first declaration of the walk that has the annotation. -/
def annotationTarget (st : Store) (roots : List Nat) (mark : Nat) : Part (Option Nat) := do
  return (← st.walk roots).find? fun id => (st.marksOf id).contains mark

/-- The declarations of the walk with the given name, with or without the package. -/
def lookup (st : Store) (roots : List Nat) (package name : String) : Part (List Nat) := do
  let named ← (← st.walk roots).mapM fun id => do return (id, ← st.qualifiedName id)
  let matching := named.filter fun x =>
    name == x.2 || name == if package.isEmpty then x.2 else package ++ "." ++ x.2
  return matching.map Prod.fst

theorem ancestors_of_loose {st : Store} {id : Nat} (h : st.link id = none) :
    st.ancestors id = Part.some [] :=
  yields_of_none (by rw [h, Option.map_none])

theorem ancestors_of_linked {st : Store} {id outer : Nat} {further : List Nat}
    (h : st.link id = some outer) (hfurther : st.ancestors outer = Part.some further) :
    st.ancestors id = Part.some (outer :: further) :=
  yields_of_some (by rw [h, Option.map_some]) hfurther

theorem build_eq (st : Store) (d : Declaration) :
    st.build d =
      let (marks, st) := st.addMarks d.header.annotations
      let (comment, st) := st.addComment d.header.doc
      let (ids, st) := st.buildAll d.members
      st.declare ⟨d.alone, marks, comment, ids⟩ := by
  cases d with
  | type header typeKind supertypes members => rw [build]; rfl
  | method header signature => rw [build]; simp only [Declaration.members, buildAll]; rfl
  | field header typeName => rw [build]; simp only [Declaration.members, buildAll]; rfl

/-! ## What making objects leaves as it was -/

/-- Objects stay, and a link that is written stays. -/
structure Grows (st later : Store) : Prop where
  objects : st.objects <+: later.objects
  links : ∀ k owner, st.link k = some owner → later.link k = some owner

/-- No link is written before there is an object. -/
def Fresh (st : Store) : Prop := ∀ k, st.size ≤ k → st.link k = none

/-- Objects are added, and nothing is linked but new objects. -/
structure Extends (st later : Store) : Prop where
  objects : st.objects <+: later.objects
  kept : ∀ k, k < st.size → later.link k = st.link k
  fresh : later.Fresh

/-- An object that was added and belongs to nothing so far. -/
structure New (st later : Store) (k : Nat) : Prop where
  low : st.size ≤ k
  high : k < later.size
  loose : later.link k = none

theorem Extends.size_le {st later : Store} (h : st.Extends later) : st.size ≤ later.size :=
  h.objects.length_le

theorem Extends.refl {st : Store} (h : st.Fresh) : st.Extends st :=
  ⟨List.prefix_rfl, fun _ _ => rfl, h⟩

theorem Extends.trans {st middle later : Store} (h : st.Extends middle)
    (h' : middle.Extends later) : st.Extends later := by
  refine ⟨h.objects.trans h'.objects, fun k hk => ?_, h'.fresh⟩
  rw [h'.kept k (Nat.lt_of_lt_of_le hk h.size_le), h.kept k hk]

/-- A link that is written belongs to an object, which is not new later on. -/
theorem Extends.grows {st later : Store} (h : st.Extends later) (fresh : st.Fresh) :
    st.Grows later := by
  refine ⟨h.objects, fun k owner hk => ?_⟩
  by_cases hsize : k < st.size
  · rw [h.kept k hsize, hk]
  · rw [fresh k (by omega)] at hk
    cases hk

theorem New.later {st middle later : Store} {k : Nat} (h : st.New middle k)
    (h' : middle.Extends later) : st.New later k where
  low := h.low
  high := Nat.lt_of_lt_of_le h.high h'.size_le
  loose := by rw [h'.kept k h.high, h.loose]

theorem New.earlier {st middle later : Store} {k : Nat} (h : middle.New later k)
    (h' : st.Extends middle) : st.New later k :=
  ⟨Nat.le_trans h'.size_le h.low, h.high, h.loose⟩

/-- Adding objects that are parts of nothing. -/
theorem extends_append {st : Store} (fresh : st.Fresh) (added : List Object) :
    st.Extends { st with objects := st.objects ++ added } where
  objects := List.prefix_append _ _
  kept _ _ := rfl
  fresh k hk := by
    refine fresh k ?_
    simp only [size, List.length_append] at hk ⊢
    omega

section Parts
variable {st : Store} (fresh : st.Fresh)
include fresh

theorem addMarks_extends (written : List Annotation) : st.Extends (st.addMarks written).2 :=
  extends_append fresh _

theorem addMarks_new (written : List Annotation) :
    ∀ k ∈ (st.addMarks written).1, st.New (st.addMarks written).2 k := by
  intro k hk
  obtain ⟨hlow, hhigh⟩ := List.mem_range'_1.mp hk
  refine ⟨hlow, ?_, fresh k hlow⟩
  simpa [addMarks, size] using hhigh

theorem addComment_extends (written : Option DocComment) :
    st.Extends (st.addComment written).2 := by
  cases written with
  | none => exact .refl fresh
  | some c => exact extends_append fresh _

theorem addComment_new (written : Option DocComment) :
    ∀ k ∈ (st.addComment written).1, st.New (st.addComment written).2 k := by
  intro k hk
  cases written with
  | none => cases hk
  | some c =>
    cases hk
    exact ⟨Nat.le_refl _, by simp [addComment, size], fresh _ (Nat.le_refl _)⟩

end Parts

theorem addMarks_objects (st : Store) (written : List Annotation) :
    List.Forall₂ (fun k a => (st.addMarks written).2.objects[k]? = some (.mark a))
      (st.addMarks written).1 written := by
  refine List.forall₂_iff_get.mpr ⟨by simp [addMarks], fun i _ hi => ?_⟩
  simp [addMarks, size, hi]

theorem addComment_objects (st : Store) (written : Option DocComment) :
    List.Forall₂ (fun k c => (st.addComment written).2.objects[k]? = some (.comment c))
      (st.addComment written).1.toList written.toList := by
  cases written with
  | none => exact .nil
  | some c => exact .cons (by simp [addComment, size]) .nil

section Declare
variable {base st : Store} {e : Entity} (h : base.Extends st) (parts : ∀ k ∈ e.parts, base.New st k)
include h parts

theorem declare_extends : base.Extends (st.declare e).2 := by
  refine ⟨h.objects.trans (List.prefix_append _ _), fun k hk => ?_, fun k hk => ?_⟩
  · have hk' : k ∉ e.parts := fun hpart => Nat.not_le_of_lt hk (parts k hpart).low
    simp only [declare, if_neg hk', h.kept k hk]
  · have hsize : st.size ≤ k := by
      simp only [declare, size, List.length_append, List.length_singleton] at hk ⊢
      omega
    have hk' : k ∉ e.parts := fun hpart => Nat.not_le_of_lt (parts k hpart).high hsize
    simp only [declare, if_neg hk', h.fresh k hsize]

omit h in
/-- The parts belong to nothing before, so that no link is overwritten. -/
theorem declare_grows : st.Grows (st.declare e).2 := by
  refine ⟨List.prefix_append _ _, fun k owner hk => ?_⟩
  have hk' : k ∉ e.parts := by
    intro hpart
    rw [(parts k hpart).loose] at hk
    cases hk
  simp only [declare, if_neg hk', hk]

theorem declare_new : base.New (st.declare e).2 (st.declare e).1 := by
  have hk' : st.size ∉ e.parts := fun hpart => Nat.lt_irrefl _ (parts _ hpart).high
  refine ⟨h.size_le, by simp [declare, size], ?_⟩
  simp only [declare, if_neg hk', h.fresh _ (Nat.le_refl _)]

end Declare

/-! ## The objects of a declaration -/

/-- The object is the declaration: it says the same, its parts are the objects of the declaration's
parts, and they are linked to it. -/
inductive Shows (st : Store) : Nat → Declaration → Prop where
  | intro {id : Nat} {d : Declaration} {e : Entity} (entity : st.entity? id = some e)
      (own : e.own = d.alone)
      (marks : List.Forall₂ (fun k a => st.objects[k]? = some (.mark a)) e.marks
        d.header.annotations)
      (comment : List.Forall₂ (fun k c => st.objects[k]? = some (.comment c)) e.comment.toList
        d.header.doc.toList)
      (linked : ∀ k ∈ e.parts, st.link k = some id)
      (members : List.Forall₂ (Shows st) e.members d.members) : Shows st id d

theorem Grows.getElem? {st later : Store} (h : st.Grows later) {k : Nat} {o : Object}
    (ho : st.objects[k]? = some o) : later.objects[k]? = some o := by
  obtain ⟨added, hadded⟩ := h.objects
  obtain ⟨hk, _⟩ := List.getElem?_eq_some_iff.mp ho
  rw [← hadded, List.getElem?_append_left hk, ho]

theorem Grows.entity? {st later : Store} (h : st.Grows later) {id : Nat} {e : Entity}
    (he : st.entity? id = some e) : later.entity? id = some e := by
  unfold Store.entity? at he ⊢
  split at he
  · rename_i found hfound
    rw [h.getElem? hfound]
    exact he
  · cases he

theorem Grows.shows_of_members {st later : Store} (h : st.Grows later) {id : Nat}
    {d : Declaration} (hshows : st.Shows id d)
    (hmembers : ∀ ids, List.Forall₂ st.Shows ids d.members →
      List.Forall₂ later.Shows ids d.members) : later.Shows id d := by
  cases hshows with
  | intro entity own marks comment linked members =>
    exact .intro (h.entity? entity) own (marks.imp fun _ _ => h.getElem?)
      (comment.imp fun _ _ => h.getElem?) (fun k hk => h.links k id (linked k hk))
      (hmembers _ members)

mutual

theorem Shows.later {st later : Store} (h : st.Grows later) : (d : Declaration) → {id : Nat} →
    st.Shows id d → later.Shows id d
  | .type _ _ _ members, _, hshows =>
    h.shows_of_members hshows fun _ hmembers => Shows.later_all h members hmembers
  | .method _ _, _, hshows => h.shows_of_members hshows fun _ hmembers => by
    cases hmembers
    exact .nil
  | .field _ _, _, hshows => h.shows_of_members hshows fun _ hmembers => by
    cases hmembers
    exact .nil

theorem Shows.later_all {st later : Store} (h : st.Grows later) : (ds : List Declaration) →
    {ids : List Nat} → List.Forall₂ st.Shows ids ds → List.Forall₂ later.Shows ids ds
  | [], _, .nil => .nil
  | d :: rest, _, .cons hd hrest => .cons (Shows.later h d hd) (Shows.later_all h rest hrest)

end

/-- Declarations were made one after another: their objects are there, and belong to nothing. -/
structure Made (st later : Store) (ids : List Nat) (ds : List Declaration) : Prop where
  grown : st.Extends later
  new : ∀ id ∈ ids, st.New later id
  shown : List.Forall₂ later.Shows ids ds

theorem Made.refl {st : Store} (h : st.Fresh) : st.Made st [] [] :=
  ⟨.refl h, List.forall_mem_nil _, .nil⟩

theorem Made.append {st middle later : Store} {ids more : List Nat} {ds es : List Declaration}
    (h : st.Made middle ids ds) (h' : middle.Made later more es) :
    st.Made later (ids ++ more) (ds ++ es) where
  grown := h.grown.trans h'.grown
  new := List.forall_mem_append.mpr
    ⟨fun id hid => (h.new id hid).later h'.grown, fun id hid => (h'.new id hid).earlier h.grown⟩
  shown := List.rel_append (Shows.later_all (h'.grown.grows h.grown.fresh) ds h.shown) h'.shown

theorem entity?_declare (st : Store) (e : Entity) :
    (st.declare e).2.entity? (st.declare e).1 = some e := by
  simp [entity?, declare, size]

/-- A declaration is made of annotations, a comment and members that were made one after another. -/
theorem made_declare {st marked commented whole : Store} {d : Declaration} {marks ids : List Nat}
    {comment : Option Nat} (hmarks : st.Extends marked) (newMarks : ∀ k ∈ marks, st.New marked k)
    (shownMarks : List.Forall₂ (fun k a => marked.objects[k]? = some (.mark a)) marks
      d.header.annotations)
    (hcomment : marked.Extends commented) (newComment : ∀ k ∈ comment, marked.New commented k)
    (shownComment : List.Forall₂ (fun k c => commented.objects[k]? = some (.comment c))
      comment.toList d.header.doc.toList)
    (made : commented.Made whole ids d.members) :
    st.Made (whole.declare ⟨d.alone, marks, comment, ids⟩).2
      [(whole.declare ⟨d.alone, marks, comment, ids⟩).1] [d] := by
  have later : marked.Extends whole := hcomment.trans made.grown
  have hparts : ∀ k ∈ (⟨d.alone, marks, comment, ids⟩ : Entity).parts, st.New whole k := by
    simp only [Entity.parts, List.forall_mem_append, Option.mem_toList]
    refine ⟨⟨fun k hk => (newMarks k hk).later later, fun k hk => ?_⟩, fun k hk => ?_⟩
    · exact ((newComment k hk).later made.grown).earlier hmarks
    · exact (made.new k hk).earlier (hmarks.trans hcomment)
  have hgrows := declare_grows hparts
  refine ⟨declare_extends (hmarks.trans later) hparts,
    List.forall_mem_singleton.mpr (declare_new (hmarks.trans later) hparts), .cons ?_ .nil⟩
  refine .intro (entity?_declare whole _) rfl ?_ ?_ ?_ ?_
  · exact shownMarks.imp fun _ _ hk => hgrows.getElem? ((later.grows hmarks.fresh).getElem? hk)
  · exact shownComment.imp fun _ _ hk =>
      hgrows.getElem? ((made.grown.grows hcomment.fresh).getElem? hk)
  · intro k hk
    simp only [declare, if_pos hk]
  · exact Shows.later_all hgrows _ made.shown

/-- Once the members are made, so is the declaration. -/
theorem made_of_members {st : Store} (fresh : st.Fresh) {d : Declaration}
    (hmembers : ∀ {st : Store}, st.Fresh →
      st.Made (st.buildAll d.members).2 (st.buildAll d.members).1 d.members) :
    st.Made (st.build d).2 [(st.build d).1] [d] := by
  have hmarks := addMarks_extends fresh d.header.annotations
  have hcomment := addComment_extends hmarks.fresh d.header.doc
  rw [build_eq]
  exact made_declare hmarks (addMarks_new fresh _) (st.addMarks_objects _) hcomment
    (addComment_new hmarks.fresh _) (addComment_objects _ _) (hmembers hcomment.fresh)

mutual

theorem made_build : (d : Declaration) → {st : Store} → st.Fresh →
    st.Made (st.build d).2 [(st.build d).1] [d]
  | .type _ _ _ members, _, fresh => made_of_members fresh fun hst => made_buildAll members hst
  | .method _ _, _, fresh => made_of_members fresh fun hst => .refl hst
  | .field _ _, _, fresh => made_of_members fresh fun hst => .refl hst

theorem made_buildAll : (ds : List Declaration) → {st : Store} → st.Fresh →
    st.Made (st.buildAll ds).2 (st.buildAll ds).1 ds
  | [], _, fresh => .refl fresh
  | d :: rest, _, fresh => by
    have hd := made_build d fresh
    exact hd.append (made_buildAll rest hd.grown.fresh)

end

section Shown
variable {st : Store} {id : Nat} {d : Declaration} (h : st.Shows id d)
include h

theorem Shows.nameOf : st.nameOf id = d.name := by
  cases h with
  | intro entity own =>
    rw [Store.nameOf, entity, Option.map_some, Option.getD_some, own]
    cases d <;> rfl

theorem Shows.marksOf : List.Forall₂
    (fun k a => st.link k = some id ∧ st.objects[k]? = some (.mark a)) (st.marksOf id)
    d.header.annotations := by
  cases h with
  | intro entity own marks comment linked =>
    rw [Store.marksOf, entity, Option.map_some, Option.getD_some]
    refine (List.forall₂_and_left _ _).mpr ⟨fun k hk => linked k ?_, marks⟩
    exact List.mem_append_left _ (List.mem_append_left _ hk)

theorem Shows.link_of_mem_marksOf {k : Nat} (hk : k ∈ st.marksOf id) : st.link k = some id :=
  ((List.forall₂_and_left _ _).mp h.marksOf).1 k hk

theorem Shows.commentOf : List.Forall₂
    (fun k c => st.link k = some id ∧ st.objects[k]? = some (.comment c))
    (st.commentOf id).toList d.header.doc.toList := by
  cases h with
  | intro entity own marks comment linked =>
    rw [Store.commentOf, entity, Option.bind_some]
    refine (List.forall₂_and_left _ _).mpr ⟨fun k hk => linked k ?_, comment⟩
    exact List.mem_append_left _ (List.mem_append_right _ hk)

theorem Shows.membersOf : List.Forall₂ (fun k m => st.link k = some id ∧ st.Shows k m)
    (st.membersOf id) d.members := by
  cases h with
  | intro entity own marks comment linked members =>
    rw [Store.membersOf, entity, Option.map_some, Option.getD_some]
    refine (List.forall₂_and_left _ _).mpr ⟨fun k hk => linked k ?_, members⟩
    exact List.mem_append_right _ hk

end Shown

end Store

/-! ## The objects of a unit -/

/-- The declarations that enclose a site, from the outermost, and its own. -/
def Site.lineage (s : Site) : List Declaration :=
  (s.enclosing.map TypeDeclaration.toDeclaration).reverse ++ [s.declaration]

theorem Site.site?_of_mem_nodes (s : Site) : ∀ node ∈ s.nodes, node.site? = some s := by
  intro node h
  rcases List.mem_append.mp h with h | h
  · rcases List.mem_cons.mp h with rfl | h
    · rfl
    · obtain ⟨a, _, rfl⟩ := List.mem_map.mp h
      rfl
  · rw [Option.mem_toList, Option.map_eq_some_iff] at h
    obtain ⟨c, _, rfl⟩ := h
    rfl

theorem Site.namePath_eq (s : Site) : s.namePath = s.lineage.map Declaration.name := by
  rw [namePath, lineage, List.map_append, List.map_reverse, List.map_map]
  rfl

namespace SourceUnit

/-- The objects of the outermost declarations. -/
def roots (u : SourceUnit) : List Nat := (Store.buildAll {} u.declarations).1

/-- The store with all objects of a unit. -/
def store (u : SourceUnit) : Store := (Store.buildAll {} u.declarations).2

theorem made_store (u : SourceUnit) : Store.Made {} u.store u.roots u.declarations :=
  Store.made_buildAll u.declarations fun _ _ => rfl

/-- The same place leads down to an object in the store and to a site in the unit, through objects
of the declarations that enclose it, and the links lead back through them. -/
structure Traces (u : SourceUnit) (place around : List Nat) (above : List Site) (i : Nat)
    (s : Site) : Prop where
  objects : descend u.store.membersOf u.roots place = some (around.reverse ++ [i])
  sites : descend Site.memberSites u.outermost place = some (above ++ [s])
  ancestors : u.store.ancestors i = Part.some around
  enclosing : s.enclosing.map TypeDeclaration.toDeclaration = (above.map Site.declaration).reverse
  shown : List.Forall₂ (fun k t => u.store.Shows k t.declaration) (around.reverse ++ [i])
    (above ++ [s])

namespace Traces
variable {u : SourceUnit} {place around : List Nat} {above : List Site} {i : Nat} {s : Site}

theorem root {j : Nat} {d : Declaration} (hi : u.roots[j]? = some i)
    (hd : u.declarations[j]? = some d) (hshown : u.store.Shows i d)
    (hloose : u.store.link i = none) : u.Traces [j] [] [] i ⟨[], d⟩ where
  objects := by rw [descend_cons, hi]; rfl
  sites := by rw [descend_cons, outermost, List.getElem?_map, hd]; rfl
  ancestors := Store.ancestors_of_loose hloose
  enclosing := rfl
  shown := .cons hshown .nil

theorem self (h : u.Traces place around above i s) : u.store.Shows i s.declaration := by
  have hlast := List.rel_reverse h.shown
  rw [List.reverse_append, List.reverse_append] at hlast
  cases hlast with
  | cons hshown _ => exact hshown

/-- A member is one step further down, and its link leads one step back. -/
theorem member (h : u.Traces place around above i s) {t : TypeDeclaration}
    (ht : s.declaration = t.toDeclaration) {j k : Nat} {m : Declaration}
    (hk : (u.store.membersOf i)[j]? = some k) (hm : t.members[j]? = some m)
    (hshown : u.store.Shows k m) (hlink : u.store.link k = some i) :
    u.Traces (place ++ [j]) (i :: around) (above ++ [s]) k ⟨t :: s.enclosing, m⟩ where
  objects := by
    rw [descend_concat h.objects hk, List.reverse_cons]
  sites := by
    refine descend_concat h.sites ?_
    rw [Site.memberSites, ht, Declaration.asType?_toDeclaration, List.getElem?_map, hm]
    rfl
  ancestors := Store.ancestors_of_linked hlink h.ancestors
  enclosing := by
    rw [List.map_cons, h.enclosing, ← ht, List.map_append, List.reverse_append]
    rfl
  shown := by
    rw [List.reverse_cons]
    exact List.rel_append h.shown (.cons hshown .nil)

theorem lineage (h : u.Traces place around above i s) :
    s.lineage = (above ++ [s]).map Site.declaration := by
  rw [Site.lineage, h.enclosing, List.reverse_reverse, List.map_append]
  rfl

theorem shows_lineage (h : u.Traces place around above i s) :
    List.Forall₂ u.store.Shows (around.reverse ++ [i]) s.lineage := by
  rw [h.lineage, List.forall₂_map_right_iff]
  exact h.shown

theorem at? (h : u.Traces place around above i s) : u.at? place = some s := by
  rw [SourceUnit.at?, Site.among?, h.sites, Option.bind_some, List.getLast?_concat]

theorem qualifiedName (h : u.Traces place around above i s) :
    u.store.qualifiedName i = Part.some s.qualifiedName := by
  have hnames : (around.reverse ++ [i]).map u.store.nameOf = s.namePath := by
    rw [Site.namePath_eq, ← List.forall₂_eq_eq_eq, List.forall₂_map_left_iff,
      List.forall₂_map_right_iff]
    exact h.shows_lineage.imp fun _ _ hshown => hshown.nameOf
  rw [Store.qualifiedName, h.ancestors, Site.qualifiedName, ← hnames, List.map_append,
    List.map_reverse, Part.bind_eq_bind, Part.bind_some]
  rfl

end Traces

/-- The object is reached as the site is. -/
def Reaches (u : SourceUnit) (i : Nat) (s : Site) : Prop :=
  ∃ place around above, u.Traces place around above i s

theorem reaches_roots (u : SourceUnit) : List.Forall₂ u.Reaches u.roots u.outermost := by
  rw [outermost, List.forall₂_map_right_iff]
  have made := u.made_store
  refine forall₂_of_getElem? made.shown ?_
  intro j i d hi hd hshown
  have hloose := (made.new i (List.mem_of_getElem? hi)).loose
  exact ⟨_, _, _, Traces.root hi hd hshown hloose⟩

theorem reaches_members {u : SourceUnit} (i : Nat) (s : Site) (h : u.Reaches i s) :
    List.Forall₂ u.Reaches (u.store.membersOf i) s.memberSites := by
  obtain ⟨place, around, above, h⟩ := h
  have hmembers := h.self.membersOf
  obtain ⟨enclosing, d⟩ := s
  cases d with
  | type header typeKind supertypes members =>
    rw [Site.memberSites, Declaration.asType?, List.forall₂_map_right_iff]
    refine forall₂_of_getElem? hmembers ?_
    rintro j k m hk hm ⟨hlink, hshown⟩
    exact ⟨_, _, _, h.member (t := ⟨header, typeKind, supertypes, members⟩) rfl hk hm hshown hlink⟩
  | method header signature =>
    rw [List.forall₂_nil_right_iff.mp hmembers]
    exact .nil
  | field header typeName =>
    rw [List.forall₂_nil_right_iff.mp hmembers]
    exact .nil

/-- The walk over the objects ends, and visits the objects of the sites of the unit. -/
theorem exists_visits (u : SourceUnit) :
    ∃ visits : List (Nat × Site), u.store.walk u.roots = Part.some (visits.map Prod.fst) ∧
      visits.map Prod.snd = u.walk ∧ ∀ x ∈ visits, u.Reaches x.1 x.2 := by
  obtain ⟨ids, hwalk, hreaches⟩ := Site.depthFirst_related reaches_members u.reaches_roots
  have hlength : ids.length = u.walk.length := hreaches.length_eq
  refine ⟨ids.zip u.walk, ?_, ?_, fun x hx => List.forall₂_zip hreaches hx⟩
  · rw [List.map_fst_zip (Nat.le_of_eq hlength)]
    exact hwalk
  · exact List.map_snd_zip (Nat.le_of_eq hlength.symm)

/-- An annotation belongs to one declaration, so the walk finds no other that has it. -/
theorem annotationTarget_object {u : SourceUnit} {visits : List (Nat × Site)}
    (hwalk : u.store.walk u.roots = Part.some (visits.map Prod.fst))
    (h : ∀ x ∈ visits, u.Reaches x.1 x.2) {x : Nat × Site} (hx : x ∈ visits) {k : Nat}
    (hk : k ∈ u.store.marksOf x.1) :
    u.store.annotationTarget u.roots k = Part.some (some x.1) := by
  -- Two declarations with the annotation are both what its one link leads to.
  have hlink (y : Nat × Site) (hy : y ∈ visits) (hmark : k ∈ u.store.marksOf y.1) :
      u.store.link k = some y.1 := by
    obtain ⟨_, _, _, htraces⟩ := h y hy
    exact htraces.self.link_of_mem_marksOf hmark
  rw [Store.annotationTarget, hwalk, Part.bind_eq_bind, Part.bind_some, List.find?_map]
  refine congrArg Part.some ?_
  cases hfind : visits.find? ((fun id => (u.store.marksOf id).contains k) ∘ Prod.fst) with
  | none => exact absurd (by simpa using hk) (List.find?_eq_none.mp hfind x hx)
  | some y =>
    have hmark : k ∈ u.store.marksOf y.1 := by simpa using List.find?_some hfind
    have hy := hlink y (List.mem_of_find?_eq_some hfind) hmark
    rw [hlink x hx hk] at hy
    exact hy.symm

end SourceUnit

/-- The names of the site are joined to the given one, with or without the package. -/
def Site.IsCalled (s : Site) (package name : String) : Prop :=
  name = ".".intercalate s.namePath ∨
    package ≠ "" ∧ name = package ++ "." ++ ".".intercalate s.namePath

instance (s : Site) (package name : String) : Decidable (s.IsCalled package name) :=
  inferInstanceAs (Decidable (_ ∨ _))

namespace SourceUnit

/-- The `n`-th object of the walk is the declaration of the `n`-th site. The entries on the way down
to its place in the document were read as the declarations of its lineage, the objects on the way
down in the store are those declarations, and its ancestors are these objects backwards; its name
joins the names that are written in the entries. Its annotations and its comment are linked to it,
it is the declaration that is found for each of its annotations, and what a rule looks at here
belongs to the site. -/
structure Linked (u : SourceUnit) (v : Value) (n i : Nat) (s : Site) : Prop where
  nested : ∃ place written around,
    u.at? place = some s ∧
    descend (Value.listed "members") (v.listed "declarations") place = some written ∧
    List.Forall₂ Value.ReadAs written s.lineage ∧
    written.mapM Value.writtenName = .ok s.namePath ∧
    descend u.store.membersOf u.roots place = some (around.reverse ++ [i]) ∧
    List.Forall₂ u.store.Shows (around.reverse ++ [i]) s.lineage ∧
    u.store.ancestors i = Part.some around
  named : u.store.qualifiedName i = Part.some (".".intercalate s.namePath)
  marks : List.Forall₂ (fun k a => u.store.link k = some i ∧
    u.store.objects[k]? = some (.mark a) ∧
    u.store.annotationTarget u.roots k = Part.some (some i)) (u.store.marksOf i)
    s.header.annotations
  marked : ∀ j, j < s.header.annotations.length → u.annotationTarget (.placed n j) = .ok s
  comment : List.Forall₂ (fun k c => u.store.link k = some i ∧
    u.store.objects[k]? = some (.comment c)) (u.store.commentOf i).toList s.header.doc.toList
  seen : ∀ node ∈ s.nodes, node.site? = some s

theorem linked_of_mem {v : Value} {u : SourceUnit} (h : ofDocument v = .ok u)
    {visits : List (Nat × Site)} (hwalk : u.store.walk u.roots = Part.some (visits.map Prod.fst))
    (hsites : visits.map Prod.snd = u.walk) (hreaches : ∀ x ∈ visits, u.Reaches x.1 x.2)
    {n i : Nat} {s : Site} (hx : visits[n]? = some (i, s)) : u.Linked v n i s := by
  have hmem := List.mem_of_getElem? hx
  obtain ⟨place, around, above, ht⟩ := hreaches (i, s) hmem
  obtain ⟨written, hwritten, hread⟩ := descend_document h ht.sites
  rw [← List.forall₂_map_right_iff (f := Site.declaration), ← ht.lineage] at hread
  have hnames : written.mapM Value.writtenName = .ok s.namePath := by
    rw [Site.namePath_eq]
    refine Reading.mapM_written ?_
    rw [List.forall₂_map_left_iff]
    exact hread.flip.imp fun _ _ hw => Value.ReadAs.writtenName hw
  refine ⟨⟨place, written, around, ht.at?, hwritten, hread, hnames, ht.objects, ht.shows_lineage,
    ht.ancestors⟩, ht.qualifiedName, ?_, ?_, ht.self.commentOf, s.site?_of_mem_nodes⟩
  · refine forall₂_of_getElem? ht.self.marksOf ?_
    rintro j k a hk _ ⟨hlink, ha⟩
    exact ⟨hlink, ha, annotationTarget_object hwalk hreaches hmem (List.mem_of_getElem? hk)⟩
  · intro j hj
    have hs : u.walk[n]? = some s := by rw [← hsites, List.getElem?_map, hx, Option.map_some]
    simp only [annotationTarget, hs, if_pos hj]

theorem isCalled_iff (u : SourceUnit) (s : Site) (name : String) :
    (name == s.qualifiedName || name == u.qualifiedName s) =
      decide (s.IsCalled u.package name) := by
  rw [Bool.eq_iff_iff, decide_eq_true_iff, Bool.or_eq_true, beq_iff_eq, beq_iff_eq,
    SourceUnit.qualifiedName, Site.IsCalled, Site.qualifiedName]
  by_cases hpackage : u.package = ""
  · simp [hpackage]
  · simp [hpackage]

theorem mapM_qualifiedName {u : SourceUnit} {visits : List (Nat × Site)}
    (h : ∀ x ∈ visits, u.Reaches x.1 x.2) :
    (visits.map Prod.fst).mapM (fun id => do return (id, ← u.store.qualifiedName id)) =
      Part.some (visits.map fun x => (x.1, x.2.qualifiedName)) := by
  induction visits with
  | nil => rfl
  | cons x rest ih =>
    obtain ⟨⟨_, _, _, htraces⟩, hrest⟩ := List.forall_mem_cons.mp h
    rw [List.map_cons, List.mapM_cons, htraces.qualifiedName, ih hrest]
    simp only [Part.bind_eq_bind, Part.bind_some, Part.pure_eq_some, List.map_cons]

/-- Every declaration of the walk is linked as it is nested in the document, and a look-up finds, in
the order of the walk, exactly the declarations that are called so. -/
theorem links_follow_document {v : Value} {u : SourceUnit} (h : ofDocument v = .ok u) :
    ∃ visits : List (Nat × Site),
      u.store.walk u.roots = Part.some (visits.map Prod.fst) ∧ visits.map Prod.snd = u.walk ∧
      (∀ (n i : Nat) (s : Site), visits[n]? = some (i, s) → u.Linked v n i s) ∧
      ∀ name,
        u.store.lookup u.roots u.package name =
          Part.some ((visits.filter fun x => x.2.IsCalled u.package name).map Prod.fst) ∧
        u.lookup name = (visits.filter fun x => x.2.IsCalled u.package name).map Prod.snd := by
  obtain ⟨visits, hwalk, hsites, hreaches⟩ := u.exists_visits
  refine ⟨visits, hwalk, hsites, fun n i s => linked_of_mem h hwalk hsites hreaches,
    fun name => ⟨?_, ?_⟩⟩
  · rw [Store.lookup, hwalk, Part.bind_eq_bind, Part.bind_some, mapM_qualifiedName hreaches,
      Part.bind_eq_bind, Part.bind_some, List.filter_map]
    simp only [← isCalled_iff, List.map_map, Function.comp_def]
    rfl
  · rw [lookup, ← hsites, List.filter_map]
    simp only [isCalled_iff, Function.comp_def]

/-- A parcel with a label in it: a method with an annotation and a comment three deep, and two
declarations of one name. -/
def parcelUnit : SourceUnit where
  path := "post/Parcel.java"
  package := "post"
  lineLengths := [30, 30, 30]
  imports := []
  suppressions := []
  declarations := [
    .type
      { name := "Parcel", span := .ofInts 1 1 2 30, visibility := .pub, modifiers := []
        annotations := [⟨"Immutable", .ofInts 1 1 1 10, []⟩], doc := none }
      "class" []
      [.type
        { name := "Label", span := .ofInts 1 11 1 30, visibility := .pack, modifiers := []
          annotations := [], doc := none }
        "class" []
        [.method
          { name := "print", span := .ofInts 1 12 1 29, visibility := .pub, modifiers := []
            annotations := [⟨"Cleanup", .ofInts 1 13 1 14, []⟩, ⟨"Cleanup", .ofInts 1 15 1 16, []⟩]
            doc := some ⟨.ofInts 1 17 1 20, "Prints.",
              [⟨"return", "nothing", .ofInts 1 18 1 19⟩], true⟩ }
          ⟨[], .null, [], [], []⟩],
      .field
        { name := "weight", span := .ofInts 2 1 2 9, visibility := .priv, modifiers := []
          annotations := [], doc := none }
        "int",
      .field
        { name := "weight", span := .ofInts 2 10 2 19, visibility := .priv, modifiers := []
          annotations := [], doc := none }
        "long"],
    .type
      { name := "Stamp", span := .ofInts 3 1 3 30, visibility := .pack, modifiers := []
        annotations := [], doc := none }
      "enum" [] []]

theorem links_follow_document_parcelUnit :
    ofDocument (.map parcelUnit.entries) = .ok parcelUnit ∧
      ∃ visits : List (Nat × Site),
        parcelUnit.store.walk parcelUnit.roots = Part.some (visits.map Prod.fst) ∧
        visits.map (fun x => x.2.namePath) =
          [["Parcel"], ["Parcel", "Label"], ["Parcel", "Label", "print"], ["Parcel", "weight"],
            ["Parcel", "weight"], ["Stamp"]] ∧
        (∀ (n i : Nat) (s : Site), visits[n]? = some (i, s) →
          parcelUnit.Linked (.map parcelUnit.entries) n i s) ∧
        parcelUnit.lookup "post.Parcel.weight" =
          (visits.filter fun x => x.2.IsCalled "post" "post.Parcel.weight").map Prod.snd := by
  have hread : ofDocument (.map parcelUnit.entries) = .ok parcelUnit := by
    refine ofDocument_entries (by decide) ?_
    rw [walk_eq_preorder]
    simp [preorder, parcelUnit, Declaration.preorders, Declaration.preorder, Site.header,
      Declaration.header, Header.TagsUnsigned]
  obtain ⟨visits, hwalk, hsites, hlinked, hlookup⟩ := links_follow_document hread
  refine ⟨hread, visits, hwalk, ?_, hlinked, (hlookup _).2⟩
  rw [← Function.comp_def Site.namePath, ← List.map_map, hsites, walk_eq_preorder]
  rfl

end SourceUnit

end Conformance
