import Conformance.Proofs.Traversal
import Mathlib.Computability.StateTransition
import Mathlib.Data.List.Forall2

/-!
# The loop of a depth-first walk

A stack with its top at the end is worked off: the top is visited, and what it leads to is put in
its place, the first on top. Nothing is assumed about the end of this loop; for a unit it is shown
to end with the declarations in the order of the recursion. That order is also said without
recursion: each declaration has a place, the numbers of the steps that lead down to it, and the
places are visited in the order of a dictionary, none left out and none twice.
-/

namespace Conformance

/-- A turn of a loop, with what was yielded before. -/
def recorded {σ α : Type} (turn : σ → Option (α × σ)) (now : σ × List α) : Option (σ × List α) :=
  (turn now.1).map fun next => (next.2, now.2 ++ [next.1])

/-- What a loop yields: each turn yields one thing and goes on from another state, until there is no
turn. There is no answer if this never ends. -/
def yields {σ α : Type} (turn : σ → Option (α × σ)) (start : σ) : Part (List α) :=
  (StateTransition.eval (recorded turn) (start, [])).map Prod.snd

section Loop
variable {σ α : Type} {turn : σ → Option (α × σ)}

theorem mem_yields {s : σ} {found : List α} :
    found ∈ yields turn s ↔
      ∃ stop, StateTransition.Reaches (recorded turn) (s, []) (stop, found) ∧ turn stop = none := by
  simp only [yields, Part.mem_map_iff, StateTransition.mem_eval, recorded, Option.map_eq_none_iff]
  constructor
  · rintro ⟨⟨stop, out⟩, ⟨hreaches, hstop⟩, rfl⟩
    exact ⟨stop, hreaches, hstop⟩
  · rintro ⟨stop, hreaches, hstop⟩
    exact ⟨(stop, found), ⟨hreaches, hstop⟩, rfl⟩

/-- The turns are the same, whatever was yielded before. -/
theorem reaches_recorded {s stop : σ} {out found : List α} (before : List α)
    (h : StateTransition.Reaches (recorded turn) (s, out) (stop, found)) :
    StateTransition.Reaches (recorded turn) (s, before ++ out) (stop, before ++ found) := by
  refine Relation.ReflTransGen.lift (fun now : σ × List α => (now.1, before ++ now.2)) ?_ _ _ h
  intro now later hturn
  obtain ⟨next, hnext, rfl⟩ := Option.map_eq_some_iff.mp hturn
  refine Option.map_eq_some_iff.mpr ⟨next, hnext, ?_⟩
  rw [List.append_assoc]

theorem yields_of_none {s : σ} (h : turn s = none) : yields turn s = Part.some [] :=
  Part.eq_some_iff.mpr (mem_yields.mpr ⟨s, .refl, h⟩)

theorem yields_of_some {s next : σ} {a : α} {rest : List α} (h : turn s = some (a, next))
    (hrest : yields turn next = Part.some rest) : yields turn s = Part.some (a :: rest) := by
  obtain ⟨stop, hreaches, hstop⟩ := mem_yields.mp (Part.eq_some_iff.mp hrest)
  have hturn : (next, [a]) ∈ recorded turn (s, []) := by
    rw [recorded, h]
    rfl
  refine Part.eq_some_iff.mpr (mem_yields.mpr ⟨stop, ?_, hstop⟩)
  exact .head hturn (reaches_recorded [a] hreaches)

end Loop

/-- The top of a stack, which is its end, and the stack with what the top leads to in its place, the
first on top. -/
def pop? {α : Type} (children : α → List α) (stack : List α) : Option (α × List α) :=
  stack.getLast?.map fun a => (a, stack.dropLast ++ (children a).reverse)

/-- The loop that works off a stack. -/
def depthFirst {α : Type} (children : α → List α) (stack : List α) : Part (List α) :=
  yields (pop? children) stack

theorem depthFirst_nil {α : Type} (children : α → List α) :
    depthFirst children [] = Part.some [] :=
  yields_of_none rfl

theorem depthFirst_concat {α : Type} {children : α → List α} {stack found : List α} {a : α}
    (h : depthFirst children (stack ++ (children a).reverse) = Part.some found) :
    depthFirst children (stack ++ [a]) = Part.some (a :: found) := by
  refine yields_of_some ?_ h
  rw [pop?, List.getLast?_concat, List.dropLast_concat, Option.map_some]

/-- What is met on the way down to a place: the first number chooses one of the given things, and
each of the others a child of the one before. -/
def descend {α : Type} (children : α → List α) (things : List α) : List Nat → Option (List α)
  | [] => some []
  | i :: place => do
    let a ← things[i]?
    let below ← descend children (children a) place
    return a :: below

section Descent
variable {α β : Type} {children : α → List α} {offspring : β → List β}

theorem descend_cons (things : List α) (i : Nat) (place : List Nat) :
    descend children things (i :: place) =
      things[i]?.bind fun a => (descend children (children a) place).map (a :: ·) := by
  rw [descend]
  refine congrArg _ (funext fun a => ?_)
  cases descend children (children a) place with
  | none => rfl
  | some below => rfl

/-- A descent goes on among the children of what it has met last. -/
theorem descend_append (things : List α) (place more : List Nat) :
    descend children things (place ++ more) =
      (descend children things place).bind fun path =>
        (descend children (path.getLast?.elim things children) more).map (path ++ ·) := by
  induction place generalizing things with
  | nil => simp [descend]
  | cons i place ih =>
    rw [List.cons_append, descend_cons, descend_cons, Option.bind_assoc]
    refine congrArg _ (funext fun a => ?_)
    rw [ih, Option.map_bind, Option.bind_map]
    refine congrArg _ (funext fun below => ?_)
    simp only [Function.comp_def, Option.map_map, List.cons_append]
    cases below with
    | nil => rfl
    | cons b below => rw [List.getLast?_cons_cons, List.getLast?_cons]; rfl

/-- One step further down. -/
theorem descend_concat {things path : List α} {a b : α} {place : List Nat} {i : Nat}
    (h : descend children things place = some (path ++ [a])) (hb : (children a)[i]? = some b) :
    descend children things (place ++ [i]) = some (path ++ [a] ++ [b]) := by
  rw [descend_append, h, Option.bind_some, List.getLast?_concat, Option.elim_some, descend_cons, hb]
  rfl

/-- Two descents by the same numbers meet related things, if there is a related child for each
child of the one that is followed. -/
theorem descend_related {R : α → β → Prop}
    (step : ∀ a b, R a b → ∀ (i : Nat) (y : β), (offspring b)[i]? = some y →
      ∃ x, (children a)[i]? = some x ∧ R x y)
    {things : List α} {others path : List β}
    (h : ∀ (i : Nat) (y : β), others[i]? = some y → ∃ x, things[i]? = some x ∧ R x y)
    {place : List Nat} (hpath : descend offspring others place = some path) :
    ∃ met, descend children things place = some met ∧ List.Forall₂ R met path := by
  -- A child that only the other side has is never chosen, so nothing is asked of it.
  induction place generalizing things others path with
  | nil =>
    cases hpath
    exact ⟨[], rfl, .nil⟩
  | cons i place ih =>
    rw [descend_cons] at hpath
    obtain ⟨b, hb, hpath⟩ := Option.bind_eq_some_iff.mp hpath
    obtain ⟨below, hbelow, rfl⟩ := Option.map_eq_some_iff.mp hpath
    obtain ⟨a, ha, hab⟩ := h i b hb
    obtain ⟨met, hmet, hrelated⟩ := ih (step a b hab) hbelow
    refine ⟨a :: met, ?_, .cons hab hrelated⟩
    rw [descend_cons, ha, Option.bind_some, hmet, Option.map_some]

theorem getElem?_of_forall₂ {R : α → β → Prop} {things : List α} {others : List β}
    (h : List.Forall₂ R things others) (i : Nat) (y : β) (hy : others[i]? = some y) :
    ∃ x, things[i]? = some x ∧ R x y := by
  induction h generalizing i with
  | nil => cases hy
  | @cons a _ _ _ hab _ ih =>
    cases i with
    | zero =>
      cases hy
      exact ⟨a, rfl, hab⟩
    | succ i => exact ih i hy

theorem forall₂_of_getElem? {R S : α → β → Prop} {things : List α} {others : List β}
    (h : List.Forall₂ R things others)
    (hS : ∀ (i : Nat) (x : α) (y : β), things[i]? = some x → others[i]? = some y → R x y → S x y) :
    List.Forall₂ S things others := by
  induction h with
  | nil => exact .nil
  | @cons a b _ _ hab _ ih =>
    exact .cons (hS 0 a b rfl rfl hab) (ih fun i x y hx hy => hS (i + 1) x y hx hy)

end Descent

namespace Site

/-- Any loop that goes on from things as the walk goes on from sites ends, and visits the things of
the sites that the walk visits. -/
theorem depthFirst_related {α : Type} {children : α → List α} {R : α → Site → Prop}
    (step : ∀ a s, R a s → List.Forall₂ R (children a) s.memberSites) {stack : List Site}
    {things : List α} (h : List.Forall₂ R things stack) :
    ∃ found, depthFirst children things.reverse = Part.some found ∧
      List.Forall₂ R found (walkFrom stack) := by
  -- The induction is on what the walk has left to visit. The loop's stack is that list backwards,
  -- and one turn of the loop puts the members of the top in front of it.
  induction stack using walkFrom.induct generalizing things with
  | case1 =>
    cases h
    exact ⟨[], depthFirst_nil children, by rw [walkFrom]; exact .nil⟩
  | case2 site rest ih =>
    cases h with
    | @cons a _ others _ ha hothers =>
      obtain ⟨found, hfound, hrelated⟩ := ih (List.rel_append (step a site ha) hothers)
      refine ⟨a :: found, ?_, ?_⟩
      · rw [List.reverse_cons]
        rw [List.reverse_append] at hfound
        exact depthFirst_concat hfound
      · rw [walkFrom]
        exact .cons ha hrelated

theorem depthFirst_memberSites (stack : List Site) :
    depthFirst memberSites stack.reverse = Part.some (walkFrom stack) := by
  have step (a s : Site) (h : a = s) : List.Forall₂ (· = ·) a.memberSites s.memberSites := by
    rw [h, List.forall₂_eq_eq_eq]
  obtain ⟨found, hfound, hsame⟩ := depthFirst_related step (List.forall₂_refl stack)
  rw [List.forall₂_eq_eq_eq] at hsame
  rw [hfound, hsame]

/-- The site at a place below a site, which is its own if there are no steps to go. -/
def at? (s : Site) (place : List Nat) : Option Site :=
  (descend memberSites s.memberSites place).map fun below => below.getLast?.getD s

/-- The site at a place among several. -/
def among? (sites : List Site) (place : List Nat) : Option Site :=
  (descend memberSites sites place).bind (·.getLast?)

theorem at?_nil (s : Site) : s.at? [] = some s := rfl

theorem at?_cons (s : Site) (i : Nat) (place : List Nat) :
    s.at? (i :: place) = s.memberSites[i]?.bind (at? · place) := by
  simp only [at?, descend_cons, Option.map_bind, Option.map_map, Function.comp_def,
    List.getLast?_cons, Option.getD_some]

theorem among?_cons (sites : List Site) (i : Nat) (place : List Nat) :
    among? sites (i :: place) = sites[i]?.bind (at? · place) := by
  simp only [among?, at?, descend_cons, Option.bind_assoc, Option.map_eq_bind, Function.comp_def,
    Option.bind_some, List.getLast?_cons]

end Site

namespace Declaration

mutual

/-- The places of a declaration and of all that is declared in it, in the order of the recursion. -/
def places : Declaration → List (List Nat)
  | type _ _ _ members => [] :: memberPlaces 0 members
  | method _ _ => [[]]
  | field _ _ => [[]]

/-- The places in the declarations of a list, the first of which has the given number. -/
def memberPlaces (number : Nat) : List Declaration → List (List Nat)
  | [] => []
  | d :: rest => d.places.map (number :: ·) ++ memberPlaces (number + 1) rest

end

/-- A place in the declarations of a list starts with the number of one of them. -/
theorem number_le_of_mem_memberPlaces {ds : List Declaration} {number : Nat} {place : List Nat}
    (h : place ∈ memberPlaces number ds) : ∃ i rest, place = i :: rest ∧ number ≤ i := by
  induction ds generalizing number with
  | nil => cases h
  | cons d rest ih =>
    rw [memberPlaces] at h
    rcases List.mem_append.mp h with h | h
    · obtain ⟨p, _, rfl⟩ := List.mem_map.mp h
      exact ⟨number, p, rfl, Nat.le_refl _⟩
    · obtain ⟨i, p, rfl, hi⟩ := ih h
      exact ⟨i, p, rfl, by omega⟩

mutual

theorem places_pairwise : (d : Declaration) → d.places.Pairwise (· < ·)
  | type _ _ _ members => by
    rw [places, List.pairwise_cons]
    refine ⟨fun place h => ?_, memberPlaces_pairwise 0 members⟩
    obtain ⟨i, rest, rfl, _⟩ := number_le_of_mem_memberPlaces h
    exact List.nil_lt_cons i rest
  | method _ _ => List.pairwise_singleton _ _
  | field _ _ => List.pairwise_singleton _ _

theorem memberPlaces_pairwise (number : Nat) : (ds : List Declaration) →
    (memberPlaces number ds).Pairwise (· < ·)
  | [] => .nil
  | d :: rest => by
    rw [memberPlaces, List.pairwise_append]
    refine ⟨?_, memberPlaces_pairwise (number + 1) rest, ?_⟩
    · refine List.pairwise_map.mpr ((places_pairwise d).imp fun h => ?_)
      exact List.cons_lt_cons_iff.mpr (Or.inr ⟨rfl, h⟩)
    · intro place hplace other hother
      obtain ⟨p, _, rfl⟩ := List.mem_map.mp hplace
      obtain ⟨i, q, rfl, hi⟩ := number_le_of_mem_memberPlaces hother
      exact List.cons_lt_cons_iff.mpr (Or.inl (by omega))

end

mutual

theorem map_at?_places (around : List TypeDeclaration) : (d : Declaration) →
    d.places.map (Site.at? ⟨around, d⟩) = (d.preorder around).map some
  | type header typeKind supertypes members => by
    rw [places, preorder, List.map_cons, List.map_cons,
      ← map_among?_memberPlaces _ [] members, Site.at?_nil]
    congr 1
    refine List.map_congr_left fun place h => ?_
    obtain ⟨i, rest, rfl, _⟩ := number_le_of_mem_memberPlaces h
    rw [Site.at?_cons, Site.among?_cons]
    rfl
  | method _ _ => rfl
  | field _ _ => rfl

-- The recursion is over the declarations that are left; those before only take up numbers.
theorem map_among?_memberPlaces (around : List TypeDeclaration) (before : List Site) :
    (ds : List Declaration) →
    (memberPlaces before.length ds).map (Site.among? (before ++ ds.map fun d => ⟨around, d⟩)) =
      (preorders around ds).map some
  | [] => rfl
  | d :: rest => by
    have hlater := map_among?_memberPlaces around (before ++ [⟨around, d⟩]) rest
    rw [List.append_assoc, List.length_append, List.length_singleton] at hlater
    rw [memberPlaces, preorders, List.map_append, List.map_append, ← map_at?_places around d,
      ← hlater, List.map_map, List.map_cons, List.singleton_append]
    congr 1
    refine List.map_congr_left fun place _ => ?_
    simp [Site.among?_cons]

end

theorem cons_mem_memberPlaces {ds : List Declaration} {d : Declaration} {place : List Nat}
    (h : place ∈ d.places) {i : Nat} (hd : ds[i]? = some d) (number : Nat) :
    (number + i) :: place ∈ memberPlaces number ds := by
  induction ds generalizing i number with
  | nil => cases hd
  | cons first rest ih =>
    rw [memberPlaces]
    cases i with
    | zero =>
      cases hd
      exact List.mem_append_left _ (List.mem_map_of_mem h)
    | succ i =>
      have hrest := ih hd (number + 1)
      rw [show number + 1 + i = number + (i + 1) by omega] at hrest
      exact List.mem_append_right _ hrest

theorem mem_places_of_at? {s found : Site} {place : List Nat} (h : s.at? place = some found) :
    place ∈ s.declaration.places := by
  induction place generalizing s with
  | nil => cases hd : s.declaration <;> exact List.mem_cons_self
  | cons i place ih =>
    rw [Site.at?_cons] at h
    obtain ⟨m, hm, hfound⟩ := Option.bind_eq_some_iff.mp h
    have hplace := ih hfound
    obtain ⟨around, d⟩ := s
    cases d with
    | type header typeKind supertypes members =>
      rw [Site.memberSites, asType?, List.getElem?_map, Option.map_eq_some_iff] at hm
      obtain ⟨d, hd, rfl⟩ := hm
      rw [places, ← Nat.zero_add i]
      exact List.mem_cons_of_mem _ (cons_mem_memberPlaces hplace hd 0)
    | method _ _ => cases hm
    | field _ _ => cases hm

end Declaration

namespace SourceUnit

/-- The declarations that no type encloses. -/
def outermost (u : SourceUnit) : List Site := u.declarations.map fun d => ⟨[], d⟩

/-- The site at a place of a unit: the first number chooses a declaration, each of the others a
member of the one before. -/
def at? (u : SourceUnit) (place : List Nat) : Option Site := Site.among? u.outermost place

/-- The places of a unit in the order of the recursion. -/
def places (u : SourceUnit) : List (List Nat) := Declaration.memberPlaces 0 u.declarations

theorem map_at?_places (u : SourceUnit) : u.places.map u.at? = u.walk.map some := by
  rw [walk_eq_preorder, preorder, ← Declaration.map_among?_memberPlaces [] [] u.declarations]
  rfl

theorem mem_places_iff {u : SourceUnit} {place : List Nat} :
    place ∈ u.places ↔ ∃ s, u.at? place = some s := by
  constructor
  · intro h
    have hsite : u.at? place ∈ u.walk.map some := u.map_at?_places ▸ List.mem_map_of_mem h
    obtain ⟨s, _, hs⟩ := List.mem_map.mp hsite
    exact ⟨s, hs.symm⟩
  · rintro ⟨s, hs⟩
    cases place with
    | nil => cases hs
    | cons i place =>
      rw [at?, Site.among?_cons] at hs
      obtain ⟨top, htop, hs⟩ := Option.bind_eq_some_iff.mp hs
      rw [outermost, List.getElem?_map, Option.map_eq_some_iff] at htop
      obtain ⟨d, hd, rfl⟩ := htop
      rw [places, ← Nat.zero_add i]
      exact Declaration.cons_mem_memberPlaces (Declaration.mem_places_of_at? hs) hd 0

/-- The loop over the declarations of a unit comes to its end, however deep they are nested, and has
then visited what the recursion visits, in its order: the places of the unit as in a dictionary, so
that each declaration is visited once, a type right before the first of its members, and what is
written first before what is written later. -/
theorem loop_visits_in_preorder (u : SourceUnit) :
    depthFirst Site.memberSites u.outermost.reverse = Part.some u.preorder ∧
      u.walk = u.preorder ∧
      ∃ places : List (List Nat), places.Pairwise (· < ·) ∧
        (∀ place, place ∈ places ↔ ∃ s, u.at? place = some s) ∧
        places.map u.at? = u.walk.map some := by
  refine ⟨?_, u.walk_eq_preorder, u.places, Declaration.memberPlaces_pairwise 0 u.declarations,
    fun _ => mem_places_iff, u.map_at?_places⟩
  rw [Site.depthFirst_memberSites, ← walk_eq_preorder]
  rfl

end SourceUnit

end Conformance
