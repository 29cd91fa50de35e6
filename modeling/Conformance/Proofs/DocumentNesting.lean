import Conformance.Proofs.DepthFirst
import Conformance.Proofs.ReadErrors

/-!
# Nesting in a document

Going down in a document, from its declarations to their members, one meets the entries that the
declarations of the unit were read from: the types around a declaration are those that the entries
around its own entry were read as.
-/

namespace Conformance

namespace Value

/-- The items under a key of a mapping. -/
def listed (key : String) (v : Value) : List Value :=
  match v.bare with
  | .map m => (Reading.itemsUnder m key).toOption.getD []
  | _ => []

theorem listed_eq {key : String} {v : Value} {m : Entries} {vs : List Value}
    (hm : v.bare = .map m) (hvs : Reading.itemsUnder m key = .ok vs) : v.listed key = vs := by
  simp only [listed, hm, hvs]
  rfl

/-- The declaration is read from the value, whatever knots are around it. -/
def ReadAs (v : Value) (d : Declaration) : Prop := ∃ met, Reading.declaration met v = .ok d

/-- The name that is written in an entry. -/
def writtenName (v : Value) : Reading String := do
  Reading.textOf (← Reading.mapping "Declaration" v) "name"

end Value

namespace Reading

theorem forall₂_of_declarations {met : List Nat} {vs : List Value} {ds : List Declaration}
    (h : declarations met vs = .ok ds) : List.Forall₂ Value.ReadAs vs ds := by
  induction vs generalizing ds with
  | nil =>
    rw [declarations] at h
    cases h
    exact .nil
  | cons v rest ih =>
    rw [declarations] at h
    obtain ⟨d, hd, h⟩ := bind_ok h
    obtain ⟨others, hothers, h⟩ := bind_ok h
    cases h
    exact .cons ⟨met, hd⟩ (ih hothers)

theorem name_of_header {m : Entries} {found : Header} (h : header m = .ok found) :
    textOf m "name" = .ok found.name := by
  obtain ⟨name, hname, h⟩ := bind_ok h
  obtain ⟨_, _, h⟩ := bind_ok h
  obtain ⟨_, _, h⟩ := bind_ok h
  obtain ⟨_, _, h⟩ := bind_ok h
  obtain ⟨_, _, h⟩ := bind_ok h
  obtain ⟨_, _, h⟩ := bind_ok h
  dsimp only at h
  split at h
  · obtain ⟨_, _, h⟩ := bind_ok h
    cases h
    exact hname
  · cases h
    exact hname

/-- What is read from a mapping has its header, and a type has the members that are listed there. -/
theorem declaration_map {met : List Nat} {m : Entries} {d : Declaration}
    (h : declaration met (.map m) = .ok d) :
    header m = .ok d.header ∧ ∀ t : TypeDeclaration, d = t.toDeclaration →
      ∃ vs, itemsUnder m "members" = .ok vs ∧ List.Forall₂ Value.ReadAs vs t.members := by
  rw [declaration] at h
  obtain ⟨kind, _, h⟩ := bind_ok h
  obtain ⟨header, hheader, h⟩ := bind_ok h
  rw [hheader]
  split at h
  · obtain ⟨typeKind, _, h⟩ := bind_ok h
    obtain ⟨supertypes, _, h⟩ := bind_ok h
    split at h
    · cases h
    · rename_i vs hvs
      obtain ⟨members, hmembers, h⟩ := bind_ok h
      cases h
      refine ⟨rfl, fun t ht => ⟨vs, hvs, ?_⟩⟩
      cases ht
      exact forall₂_of_declarations hmembers
  · split at h
    · obtain ⟨signature, _, h⟩ := bind_ok h
      cases h
      exact ⟨rfl, fun t ht => by cases ht⟩
    · split at h
      · obtain ⟨typeName, _, h⟩ := bind_ok h
        cases h
        exact ⟨rfl, fun t ht => by cases ht⟩
      · obtain ⟨shown, _, h⟩ := bind_ok h
        obtain ⟨name, _, h⟩ := bind_ok h
        cases h

/-- A declaration is read from the mapping in its knots. -/
theorem declaration_bare {met : List Nat} {v : Value} {d : Declaration}
    (h : declaration met v = .ok d) :
    ∃ inner m, v.bare = .map m ∧ declaration inner (.map m) = .ok d := by
  fun_induction Value.bare v generalizing met with
  | case1 name v ih =>
    rw [declaration] at h
    split at h
    · cases h
    · exact ih h
  | case2 v plain =>
    cases v with
    | map m => exact ⟨met, m, rfl, h⟩
    | knot name v => exact absurd rfl (plain name v)
    | _ =>
      rw [declaration] at h
      · cases h
      all_goals
        intros
        contradiction

end Reading

namespace Value.ReadAs
variable {v : Value} {d : Declaration}

theorem writtenName (h : v.ReadAs d) : v.writtenName = .ok d.name := by
  obtain ⟨met, h⟩ := h
  obtain ⟨inner, m, hm, h⟩ := Reading.declaration_bare h
  rw [Value.writtenName, Reading.mapping, hm]
  exact Reading.name_of_header (Reading.declaration_map h).1

theorem members {t : TypeDeclaration} (h : v.ReadAs t.toDeclaration) :
    List.Forall₂ Value.ReadAs (v.listed "members") t.members := by
  obtain ⟨met, h⟩ := h
  obtain ⟨inner, m, hm, h⟩ := Reading.declaration_bare h
  obtain ⟨vs, hvs, hmembers⟩ := (Reading.declaration_map h).2 t rfl
  rw [listed_eq hm hvs]
  exact hmembers

end Value.ReadAs

namespace SourceUnit

theorem forall₂_of_ofDocument {v : Value} {u : SourceUnit} (h : ofDocument v = .ok u) :
    List.Forall₂ Value.ReadAs (v.listed "declarations") u.declarations := by
  unfold ofDocument at h
  split at h
  · rename_i m hm
    split at h
    · obtain ⟨_, _, vs, hvs, hdeclarations⟩ := ofEntries_parts h
      rw [Value.listed_eq hm hvs]
      exact Reading.forall₂_of_declarations hdeclarations
    · cases h
  · cases h

/-- The sites on the way down to a place of a unit were read from what is met on the way down to the
same place of its document. -/
theorem descend_document {v : Value} {u : SourceUnit} (h : ofDocument v = .ok u)
    {place : List Nat} {path : List Site}
    (hpath : descend Site.memberSites u.outermost place = some path) :
    ∃ written, descend (Value.listed "members") (v.listed "declarations") place = some written ∧
      List.Forall₂ (fun w s => w.ReadAs s.declaration) written path := by
  refine descend_related ?_ ?_ hpath
  · intro w s hw i m hm
    obtain ⟨around, d⟩ := s
    cases d with
    | type header typeKind supertypes members =>
      rw [Site.memberSites, Declaration.asType?, List.getElem?_map, Option.map_eq_some_iff] at hm
      obtain ⟨d, hd, rfl⟩ := hm
      have hmembers := Value.ReadAs.members (t := ⟨header, typeKind, supertypes, members⟩) hw
      exact getElem?_of_forall₂ hmembers i d hd
    | method _ _ => cases hm
    | field _ _ => cases hm
  · intro i s hs
    rw [outermost, List.getElem?_map, Option.map_eq_some_iff] at hs
    obtain ⟨d, hd, rfl⟩ := hs
    exact getElem?_of_forall₂ (forall₂_of_ofDocument h) i d hd

end SourceUnit

end Conformance
