import Conformance.Symbol.Site

/-!
# The order of visits

`SourceUnit.walk` goes over the declarations of a unit with a stack. Here its order is said by
recursion: a declaration comes before what is declared inside of it, and that before the next
declaration. What rules are shown follows from it, each declaration with its annotations and its
documentation comment.
-/

namespace Conformance

namespace Declaration

mutual

/-- A declaration inside of the given types, then all that is declared in it. -/
def preorder (enclosing : List TypeDeclaration) : Declaration → List Site
  | type header typeKind supertypes members =>
    ⟨enclosing, type header typeKind supertypes members⟩ ::
      preorders (⟨header, typeKind, supertypes, members⟩ :: enclosing) members
  | method header signature => [⟨enclosing, method header signature⟩]
  | field header typeName => [⟨enclosing, field header typeName⟩]

/-- The declarations of a list inside of the given types, each with all that is declared in it. -/
def preorders (enclosing : List TypeDeclaration) : List Declaration → List Site
  | [] => []
  | d :: rest => preorder enclosing d ++ preorders enclosing rest

end

theorem preorders_eq_flatMap (enclosing : List TypeDeclaration) (ds : List Declaration) :
    preorders enclosing ds = ds.flatMap (preorder enclosing) := by
  induction ds with
  | nil => rfl
  | cons d rest ih => rw [preorders, ih, List.flatMap_cons]

end Declaration

namespace Site

theorem preorder_eq_cons (s : Site) :
    s.declaration.preorder s.enclosing =
      s :: s.memberSites.flatMap fun m => m.declaration.preorder m.enclosing := by
  obtain ⟨enclosing, declaration⟩ := s
  cases declaration with
  | type header typeKind supertypes members =>
    simp only [memberSites, Declaration.asType?, Declaration.preorder, List.flatMap_map,
      Declaration.preorders_eq_flatMap]
  | method header signature => rfl
  | field header typeName => rfl

/-- A stack leads to what each of its sites leads to, from the top down. -/
theorem walkFrom_eq_flatMap (stack : List Site) :
    walkFrom stack = stack.flatMap fun s => s.declaration.preorder s.enclosing := by
  induction stack using walkFrom.induct with
  | case1 => rw [walkFrom, List.flatMap_nil]
  | case2 site rest ih =>
    rw [walkFrom, ih, List.flatMap_append, List.flatMap_cons, preorder_eq_cons, List.cons_append]

end Site

namespace SourceUnit

/-- The sites of a unit, each type before what is declared in it. -/
def preorder (u : SourceUnit) : List Site := Declaration.preorders [] u.declarations

/-- The nodes of a unit in the order in which they are visited: each declaration, then its
annotations, then its documentation comment. -/
def sequence (u : SourceUnit) : List Node :=
  u.preorder.flatMap fun s =>
    .declaration s :: (s.header.annotations.map (Node.mark (some s)) ++
      (s.header.doc.map (Node.doc (some s))).toList)

theorem walk_eq_preorder (u : SourceUnit) : u.walk = u.preorder := by
  rw [walk, Site.walkFrom_eq_flatMap, List.flatMap_map, preorder,
    Declaration.preorders_eq_flatMap]

theorem nodes_eq_sequence (u : SourceUnit) : u.nodes = u.sequence := by
  rw [nodes, walk_eq_preorder]
  rfl

/-- The nodes of a unit: a declaration in it, or an annotation or the comment of one. -/
inductive Holds (u : SourceUnit) : Node → Prop where
  | declaration {site : Site} (hsite : site ∈ u.walk) : Holds u (.declaration site)
  | mark {site : Site} {a : Annotation} (hsite : site ∈ u.walk)
      (ha : a ∈ site.header.annotations) : Holds u (.mark (some site) a)
  | doc {site : Site} {d : DocComment} (hsite : site ∈ u.walk)
      (hd : site.header.doc = some d) : Holds u (.doc (some site) d)

theorem holds_of_mem_nodes {u : SourceUnit} {node : Node} (h : node ∈ u.nodes) :
    u.Holds node := by
  obtain ⟨site, hsite, h⟩ := List.mem_flatMap.mp h
  rcases List.mem_append.mp h with h | h
  · rcases List.mem_cons.mp h with rfl | h
    · exact .declaration hsite
    · obtain ⟨a, ha, rfl⟩ := List.mem_map.mp h
      exact .mark hsite ha
  · obtain ⟨d, hd, rfl⟩ := Option.map_eq_some_iff.mp (Option.mem_toList.mp h)
    exact .doc hsite hd

end SourceUnit

end Conformance
