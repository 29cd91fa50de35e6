import Conformance.Proofs.StandardChecks
import Conformance.Proofs.UnitDocuments
import Mathlib.Data.Option.Basic

/-!
# The order of markers

The check on fields of shared types goes by the first configured marker that the type carries, and
whether a volatile field will do is settled by this one marker. So the order of the markers matters
for a volatile field of a type that carries `Immutable` together with another marker of the list,
and it matters nowhere else.
-/

namespace Conformance

/-- The markers that a rule on shared types is configured with. -/
def Context.HasMarkers (context : Context) (markers : List String) : Prop :=
  (context.params.valueOr "markers" (.ofTexts Check.threadSafeMarkers)).iterate =
    .ok (markers.map .str)

namespace Site

def IsBare (s : Site) : Prop :=
  s.header.hasModifier "final" = false ∧ s.header.carries Check.guardName = false

def IsVolatile (s : Site) : Prop := s.header.hasModifier "volatile" = true

/-- A volatile field that is neither final nor guarded, in a type that carries `Immutable` and
another one of the markers. -/
def IsTorn (s : Site) (markers : List String) : Prop :=
  s.IsBare ∧ s.IsVolatile ∧ ∃ owner other, s.enclosing.head? = some owner ∧
    "Immutable" ∈ markers ∧ owner.header.carries "Immutable" = true ∧
    other ∈ markers ∧ owner.header.carries other = true ∧ other ≠ "Immutable"

instance (s : Site) : Decidable s.IsBare := inferInstanceAs (Decidable (_ ∧ _))

instance (s : Site) : Decidable s.IsVolatile := inferInstanceAs (Decidable (_ = _))

end Site

namespace Check

/-- The check matches the field under the given configuration. -/
def FlagsField (context : Context) (s : Site) : Prop :=
  ∃ m, immutableMutableField (.declaration s) context = .ok (some m)

section Field
variable {context : Context} {markers : List String} {s : Site}

theorem immutableMutableField_eq (given : context.HasMarkers markers) (s : Site) :
    immutableMutableField (.declaration s) context =
      .ok (s.enclosing.head?.bind fun owner =>
        (markers.find? owner.header.carries).bind fun marker =>
          if s.IsBare ∧ (s.IsVolatile → marker = "Immutable") then
            some { values := [("owner", .str owner.header.name), ("marker", .str marker)] }
          else none) := by
  simp only [immutableMutableField, Node.asSite, bind, Except.bind]
  cases s.enclosing.head? with
  | none => rfl
  | some owner =>
    have hiterate := given
    rw [Context.HasMarkers] at hiterate
    simp only [hiterate, findNamed_texts, Option.bind_some]
    cases markers.find? owner.header.carries with
    | none => rfl
    | some marker =>
      have hbare : s.IsBare ↔
          (s.header.hasModifier "final" || s.header.carries guardName) = false := by
        rw [Site.IsBare, Bool.or_eq_false_iff]
      have hexempt : (s.IsVolatile → marker = "Immutable") ↔
          (s.header.hasModifier "volatile" && marker != "Immutable") = false := by
        simp [Site.IsVolatile]
      simp only [Option.bind_some, hbare, hexempt]
      cases s.header.hasModifier "final" || s.header.carries guardName with
      | true => rfl
      | false => cases s.header.hasModifier "volatile" && marker != "Immutable" <;> rfl

theorem flagsField_iff (given : context.HasMarkers markers) :
    FlagsField context s ↔ s.IsBare ∧ ∃ owner marker, s.enclosing.head? = some owner ∧
      markers.find? owner.header.carries = some marker ∧
        (s.IsVolatile → marker = "Immutable") := by
  rw [FlagsField, immutableMutableField_eq given]
  cases s.enclosing.head? with
  | none => simp
  | some owner =>
    cases hfind : markers.find? owner.header.carries with
    | none => simp [hfind]
    | some marker => by_cases h : s.IsBare ∧ (s.IsVolatile → marker = "Immutable") <;> simp_all

theorem find?_eq_some_of_all {p : String → Bool} {name : String} (hmem : name ∈ markers)
    (hp : p name = true) (only : ∀ other ∈ markers, p other = true → other = name) :
    markers.find? p = some name := by
  cases hfind : markers.find? p with
  | none => exact absurd hp (List.find?_eq_none.mp hfind name hmem)
  | some other => rw [only other (List.mem_of_find?_eq_some hfind) (List.find?_some hfind)]

/-- Where the markers are not torn, the first one of a kind can be told from the set of them. -/
theorem flagsField_of_perm {context' : Context} {others : List String}
    (given : context.HasMarkers markers) (given' : context'.HasMarkers others)
    (same : markers.Perm others) (whole : ¬ s.IsTorn markers) (flags : FlagsField context s) :
    FlagsField context' s := by
  obtain ⟨hbare, owner, marker, howner, hfind, hexempt⟩ := (flagsField_iff given).mp flags
  have hcarries : owner.header.carries marker = true := List.find?_some hfind
  have hmem : marker ∈ markers := List.mem_of_find?_eq_some hfind
  refine (flagsField_iff given').mpr ⟨hbare, owner, ?_⟩
  by_cases hvolatile : s.IsVolatile
  · obtain rfl := hexempt hvolatile
    have honly : ∀ other ∈ others, owner.header.carries other = true → other = "Immutable" := by
      intro other hother hcarried
      by_contra hne
      exact whole ⟨hbare, hvolatile, owner, other, howner, hmem, hcarries,
        same.mem_iff.mpr hother, hcarried, hne⟩
    exact ⟨_, howner, find?_eq_some_of_all (same.mem_iff.mp hmem) hcarries honly, fun _ => rfl⟩
  · cases hother : others.find? owner.header.carries with
    | none => exact absurd hcarries (List.find?_eq_none.mp hother marker (same.mem_iff.mp hmem))
    | some other => exact ⟨other, howner, rfl, fun h => absurd h hvolatile⟩

/-- With a marker that the type carries in front, this marker decides. -/
theorem flagsField_first (given : context.HasMarkers markers) {owner : TypeDeclaration}
    {marker : String} {rest : List String} (hmarkers : markers = marker :: rest)
    (howner : s.enclosing.head? = some owner) (hcarries : owner.header.carries marker = true) :
    FlagsField context s ↔ s.IsBare ∧ (s.IsVolatile → marker = "Immutable") := by
  have hfind : markers.find? owner.header.carries = some marker := by
    rw [hmarkers, List.find?_cons_of_pos hcarries]
  rw [flagsField_iff given]
  simp [howner, hfind]

end Field

/-- What the check sees of a unit under a rule with the markers. -/
def markersOnly (u : SourceUnit) (markers : List String) : Context where
  unit := u
  params := [(.str "markers", .value (.ofTexts markers))]
  permissive := false

theorem hasMarkers_markersOnly (u : SourceUnit) (markers : List String) :
    (markersOnly u markers).HasMarkers markers := rfl

/-- The check never fails, and whether it flags a field is the same for the markers in any other
order, exactly if the field is not torn between `Immutable` and another marker. -/
theorem marker_order_irrelevant_iff (u : SourceUnit) (s : Site) (markers : List String) :
    (∀ context : Context, context.HasMarkers markers →
      ∃ answer, immutableMutableField (.declaration s) context = .ok answer) ∧
    ((∀ others, markers.Perm others → ∀ context context' : Context,
        context.unit = u → context'.unit = u →
        context.HasMarkers markers → context'.HasMarkers others →
        (FlagsField context s ↔ FlagsField context' s)) ↔ ¬ s.IsTorn markers) := by
  refine ⟨fun context given => ⟨_, immutableMutableField_eq given s⟩, ⟨?_, ?_⟩⟩
  · rintro hsame ⟨hbare, hvolatile, owner, other, howner, hmem, himmutable, hother, hcarried, hne⟩
    have hfront (marker : String) (hmarker : marker ∈ markers) :
        FlagsField (markersOnly u markers) s ↔
          FlagsField (markersOnly u (marker :: markers.erase marker)) s :=
      hsame _ (List.perm_cons_erase hmarker) _ _ rfl rfl (hasMarkers_markersOnly _ _)
        (hasMarkers_markersOnly _ _)
    have hflagged := (hfront "Immutable" hmem).mpr
      ((flagsField_first (hasMarkers_markersOnly _ _) rfl howner himmutable).mpr
        ⟨hbare, fun _ => rfl⟩)
    have hexempt := (flagsField_first (hasMarkers_markersOnly _ _) rfl howner hcarried).mp
      ((hfront other hother).mp hflagged)
    exact hne (hexempt.2 hvolatile)
  · intro whole others same context context' _ _ given given'
    have whole' : ¬ s.IsTorn others := by
      rintro ⟨hbare, hvolatile, owner, other, howner, hmem, himmutable, hother, hcarried⟩
      exact whole ⟨hbare, hvolatile, owner, other, howner, same.mem_iff.mpr hmem, himmutable,
        same.mem_iff.mpr hother, hcarried⟩
    exact ⟨flagsField_of_perm given given' same whole,
      flagsField_of_perm given' given same.symm whole'⟩

/-- A type with both markers, and a field of it with the given modifiers. -/
def pool (modifiers : List String) : TypeDeclaration where
  header := ⟨"Pool", .ofInts 1 1 3 2, .pub, [],
    [⟨"Immutable", .ofInts 1 1 1 10, []⟩, ⟨"ThreadSafe", .ofInts 1 12 1 22, []⟩], none⟩
  typeKind := "class"
  supertypes := []
  members := [.field ⟨"state", .ofInts 2 1 2 20, .pub, modifiers, [], none⟩ "int"]

def poolField (modifiers : List String) : Site where
  enclosing := [pool modifiers]
  declaration := .field ⟨"state", .ofInts 2 1 2 20, .pub, modifiers, [], none⟩ "int"

def poolUnit (modifiers : List String) : SourceUnit where
  path := "Pool"
  package := ""
  lineLengths := [40, 40, 40]
  imports := []
  suppressions := []
  declarations := [(pool modifiers).toDeclaration]

theorem walk_poolUnit (modifiers : List String) :
    (poolUnit modifiers).walk = [⟨[], (pool modifiers).toDeclaration⟩, poolField modifiers] := by
  rw [SourceUnit.walk_eq_preorder]
  rfl

theorem ofDocument_poolUnit (modifiers : List String) :
    SourceUnit.ofDocument (.map (poolUnit modifiers).entries) = .ok (poolUnit modifiers) := by
  refine SourceUnit.ofDocument_undocumented (by decide : "Pool" ≠ "") ?_
  rw [walk_poolUnit]
  exact List.forall_mem_cons.mpr ⟨rfl, List.forall_mem_singleton.mpr rfl⟩

theorem marker_order_irrelevant_poolField :
    poolField [] ∈ (poolUnit []).walk ∧ ¬ (poolField []).IsTorn ["Immutable", "ThreadSafe"] ∧
      FlagsField (markersOnly (poolUnit []) ["Immutable", "ThreadSafe"]) (poolField []) ∧
      FlagsField (markersOnly (poolUnit []) ["ThreadSafe", "Immutable"]) (poolField []) := by
  have whole : ¬ (poolField []).IsTorn ["Immutable", "ThreadSafe"] := by
    rintro ⟨-, hvolatile, -⟩
    revert hvolatile
    decide
  have flags : FlagsField (markersOnly (poolUnit []) ["Immutable", "ThreadSafe"]) (poolField []) :=
    ⟨_, rfl⟩
  refine ⟨by simp [walk_poolUnit], whole, flags, ?_⟩
  exact ((marker_order_irrelevant_iff (poolUnit []) _ _).2.mpr whole _ (.swap _ _ _) _ _ rfl rfl
    (hasMarkers_markersOnly _ _) (hasMarkers_markersOnly _ _)).mp flags

theorem volatile_field_torn :
    ∃ u s, SourceUnit.ofDocument (.map (poolUnit ["volatile"]).entries) = .ok u ∧ s ∈ u.walk ∧
      s.declaration.kind = .field ∧ ["Immutable", "ThreadSafe"].Perm ["ThreadSafe", "Immutable"] ∧
      FlagsField (markersOnly u ["Immutable", "ThreadSafe"]) s ∧
      ¬ FlagsField (markersOnly u ["ThreadSafe", "Immutable"]) s := by
  refine ⟨_, poolField ["volatile"], ofDocument_poolUnit _, by simp [walk_poolUnit], rfl,
    .swap _ _ _, ⟨_, rfl⟩, ?_⟩
  rintro ⟨m, hmatch⟩
  cases hmatch

end Check

end Conformance
