import Conformance.Evaluation
import Conformance.Proofs.Writing

/-!
# Well-formed units

Validation walks over the declarations with a stack and reports the first broken rule. What the
rules come to is said here by recursion over the declarations: a unit is well formed if the spans of
its parts are, and a declaration is well formed in the span of the type around it if its own spans
are and its members are well formed in its span. Validation passes exactly the units that are well
formed, however deep their declarations are nested.
-/

namespace Conformance

theorem Position.le_of_lt {a b : Position} (h : a < b) : a ≤ b := by
  rw [lt_def] at h
  rw [le_def]
  omega

theorem Span.contains_self (s : Span) : s.contains s = true :=
  contains_iff.mpr ⟨Position.le_refl _, Position.le_refl _⟩

/-- The span of the innermost type around a site. -/
def Site.around (s : Site) : Option Span := s.enclosing.head?.map (·.header.span)

/-! ### The rules -/

namespace SourceUnit

/-- One of the lines of the unit has the position: on a character of it or right after the last. -/
def HasPosition (u : SourceUnit) (p : Position) : Prop :=
  ∃ (n : Nat) (length : Int), u.lineLengths[n]? = some length ∧ p.line = n + 1 ∧ 1 ≤ p.column ∧
    p.column ≤ length + 1

/-- The span is not inverted, and starts and stops in the unit. -/
structure Fits (u : SourceUnit) (s : Span) : Prop where
  upright : s.start ≤ s.stop
  start : u.HasPosition s.start
  stop : u.HasPosition s.stop

/-- The span fits into the unit and lies inside another. -/
structure FitsIn (u : SourceUnit) (outer s : Span) : Prop extends u.Fits s where
  inside : outer.contains s = true

end SourceUnit

/-- The spans of the handlers and resource scopes of a method; other declarations have none. -/
def Declaration.bodySpans : Declaration → List Span
  | .method _ signature =>
    signature.handlers.map (·.span) ++ signature.resourceScopes.map (·.span)
  | _ => []

/-- The rules for a declaration without its members, in a type with the span `around` or in none. -/
structure Declaration.Sound (u : SourceUnit) (around : Option Span) (d : Declaration) : Prop where
  nonempty : d.span.start < d.span.stop
  start : u.HasPosition d.span.start
  stop : u.HasPosition d.span.stop
  inside : ∀ outer ∈ around, outer.contains d.span = true
  annotations : ∀ a ∈ d.header.annotations, u.FitsIn d.span a.span
  doc : ∀ c ∈ d.header.doc, u.Fits c.span ∧ ∀ tag ∈ c.tags, u.FitsIn c.span tag.span
  body : ∀ s ∈ d.bodySpans, u.FitsIn d.span s

/-- The rules for a declaration and, in its own span, for its members. -/
inductive Declaration.WellFormed (u : SourceUnit) : Option Span → Declaration → Prop where
  | intro {around : Option Span} {d : Declaration} (sound : d.Sound u around)
      (members : ∀ m ∈ d.members, WellFormed u (some d.span) m) : WellFormed u around d

/-- The rules for a unit. -/
structure SourceUnit.WellFormed (u : SourceUnit) : Prop where
  imports : ∀ i ∈ u.imports, u.Fits i.span
  suppressions : ∀ d ∈ u.suppressions, u.Fits d.span
  declarations : ∀ d ∈ u.declarations, d.WellFormed u none

/-! ### One site -/

namespace SourceUnit
variable {u : SourceUnit}

theorem inBounds_iff {p : Position} : u.inBounds p = true ↔ u.HasPosition p := by
  unfold inBounds HasPosition
  constructor
  · intro h
    split at h
    · cases h
    · rename_i hlow
      split at h
      · rename_i length hlength
        simp only [Bool.or_eq_true, decide_eq_true_eq, not_or, Int.not_lt] at hlow h
        exact ⟨_, length, hlength, by omega, hlow.2, h⟩
      · cases h
  · rintro ⟨n, length, hlength, hline, hlow, hhigh⟩
    have hn : (p.line - 1).toNat = n := by omega
    have hpositive : ¬ (p.line < 1 ∨ p.column < 1) := by omega
    simp [hpositive, hn, hlength, hhigh]

theorem boundsFault?_eq_none_iff {label : String} {s : Span} :
    u.boundsFault? label s = none ↔ u.Fits s := by
  unfold boundsFault?
  constructor
  · intro h
    split at h
    · cases h
    · rename_i hupright
      split at h
      · rename_i hbounds
        obtain ⟨hstart, hstop⟩ := Bool.and_eq_true_iff.mp hbounds
        refine ⟨?_, inBounds_iff.mp hstart, inBounds_iff.mp hstop⟩
        exact Position.not_lt.mp fun hlt => hupright (decide_eq_true hlt)
      · cases h
  · rintro ⟨hupright, hstart, hstop⟩
    have hnot : s.isInverted = false := decide_eq_false (Position.not_lt.mpr hupright)
    simp [hnot, inBounds_iff.mpr hstart, inBounds_iff.mpr hstop]

theorem withinFault?_eq_none_iff {label part : String} {outer s : Span} :
    u.withinFault? label part outer s = none ↔ u.FitsIn outer s := by
  simp only [withinFault?, Option.orElse_eq_orElse, Option.orElse_eq_or, Option.or_eq_none_iff,
    boundsFault?_eq_none_iff]
  constructor
  · rintro ⟨hfits, hinside⟩
    split at hinside
    · rename_i h
      exact ⟨hfits, h⟩
    · cases hinside
  · rintro ⟨hfits, hinside⟩
    exact ⟨hfits, if_pos hinside⟩

theorem docFault?_eq_none_iff {label : String} {c : DocComment} :
    u.docFault? label c = none ↔ u.Fits c.span ∧ ∀ tag ∈ c.tags, u.FitsIn c.span tag.span := by
  simp only [docFault?, Option.orElse_eq_orElse, Option.orElse_eq_or, Option.or_eq_none_iff,
    List.findSome?_eq_none_iff, boundsFault?_eq_none_iff, withinFault?_eq_none_iff]

theorem bodyFault?_eq_none_iff {label : String} {d : Declaration} :
    u.bodyFault? label d = none ↔ ∀ s ∈ d.bodySpans, u.FitsIn d.span s := by
  cases d with
  | method header signature =>
    simp only [bodyFault?, Option.orElse_eq_orElse, Option.orElse_eq_or, Option.or_eq_none_iff,
      List.findSome?_eq_none_iff, withinFault?_eq_none_iff, Declaration.bodySpans,
      List.forall_mem_append, List.forall_mem_map]
    rfl
  | _ => simp [bodyFault?, Declaration.bodySpans]

/-- The check of a site is that of its declaration in the innermost type around it. -/
theorem siteFault?_eq_none_iff {site : Site} :
    u.siteFault? site = none ↔ site.declaration.Sound u site.around := by
  have hempty : (if site.declaration.span.isEmpty = true then
      some (ModelFault.spanFault (siteLabel site) site.declaration.span .empty) else none) = none ↔
      site.declaration.span.start < site.declaration.span.stop := by
    rw [ite_eq_right_iff, Span.isEmpty, decide_eq_true_eq, ← Position.not_le]
    simp
  simp only [siteFault?, Option.orElse_eq_orElse, Option.orElse_eq_or, Option.or_eq_none_iff,
    hempty, boundsFault?_eq_none_iff, Option.bind_eq_none_iff, withinFault?_eq_none_iff,
    List.findSome?_eq_none_iff, docFault?_eq_none_iff, bodyFault?_eq_none_iff]
  constructor
  · rintro ⟨hproper, hfits, hinside, hannotations, hdoc, hbody⟩
    refine ⟨hproper, hfits.start, hfits.stop, ?_, hannotations, hdoc, hbody⟩
    intro outer houter
    obtain ⟨parent, hparent, rfl⟩ := Option.map_eq_some_iff.mp houter
    exact (hinside parent hparent).inside
  · intro h
    have hfits : u.Fits site.declaration.span :=
      ⟨Position.le_of_lt h.nonempty, h.start, h.stop⟩
    refine ⟨h.nonempty, hfits, ?_, h.annotations, h.doc, h.body⟩
    intro parent hparent
    exact ⟨hfits, h.inside _ (Option.map_eq_some_iff.mpr ⟨parent, hparent, rfl⟩)⟩

end SourceUnit

/-! ### All sites -/

namespace Site
variable {u : SourceUnit}

theorem mem_memberSites {s m : Site} :
    m ∈ s.memberSites ↔
      ∃ t : TypeDeclaration, s.declaration = t.toDeclaration ∧ ∃ d ∈ t.members,
        m = ⟨t :: s.enclosing, d⟩ := by
  unfold memberSites
  constructor
  · intro h
    split at h
    · rename_i t ht
      obtain ⟨d, hd, rfl⟩ := List.mem_map.mp h
      refine ⟨t, ?_, d, hd, rfl⟩
      cases hdeclaration : s.declaration with
      | type header typeKind supertypes members =>
        rw [hdeclaration] at ht
        cases ht
        rfl
      | _ =>
        rw [hdeclaration] at ht
        cases ht
    · cases h
  · rintro ⟨t, ht, d, hd, rfl⟩
    rw [ht, Declaration.asType?_toDeclaration]
    exact List.mem_map.mpr ⟨d, hd, rfl⟩

/-- What holds of the members of a site if it holds of the site holds of all sites that a walk
reaches. -/
theorem walkFrom_preserves {P : Site → Prop} (step : ∀ s, P s → ∀ m ∈ s.memberSites, P m)
    {stack : List Site} (h : ∀ s ∈ stack, P s) : ∀ s ∈ walkFrom stack, P s := by
  induction stack using walkFrom.induct with
  | case1 =>
    rw [walkFrom]
    exact h
  | case2 site rest ih =>
    obtain ⟨hsite, hrest⟩ := List.forall_mem_cons.mp h
    rw [walkFrom, List.forall_mem_cons]
    exact ⟨hsite, ih (List.forall_mem_append.mpr ⟨step site hsite, hrest⟩)⟩

theorem wellFormed_member {s m : Site} (h : s.declaration.WellFormed u s.around)
    (hm : m ∈ s.memberSites) : m.declaration.WellFormed u m.around := by
  obtain ⟨t, ht, d, hd, rfl⟩ := mem_memberSites.mp hm
  cases h with
  | intro _ members =>
    rw [ht] at members
    exact members d hd

/-- The walk looks at each declaration alone, and yet at all that well-formedness asks for. -/
theorem wellFormed_of_walkFrom {stack : List Site}
    (h : ∀ s ∈ walkFrom stack, s.declaration.Sound u s.around) :
    ∀ s ∈ stack, s.declaration.WellFormed u s.around := by
  induction stack using walkFrom.induct with
  | case1 => exact List.forall_mem_nil _
  | case2 site rest ih =>
    rw [walkFrom, List.forall_mem_cons] at h
    obtain ⟨hmembers, hrest⟩ := List.forall_mem_append.mp (ih h.2)
    refine List.forall_mem_cons.mpr ⟨⟨h.1, ?_⟩, hrest⟩
    intro m hm
    cases hdeclaration : site.declaration with
    | type header typeKind supertypes members =>
      rw [hdeclaration] at hm
      have hmember : (⟨⟨header, typeKind, supertypes, members⟩ :: site.enclosing, m⟩ : Site) ∈
          site.memberSites :=
        mem_memberSites.mpr ⟨⟨header, typeKind, supertypes, members⟩, hdeclaration, m, hm, rfl⟩
      exact hmembers _ hmember
    | _ =>
      rw [hdeclaration] at hm
      cases hm

/-- The site lies inside of all types around it. -/
def Nested (s : Site) : Prop := ∀ t ∈ s.enclosing, t.header.span.contains s.declaration.span = true

theorem nested_member {s m : Site} (h : s.declaration.WellFormed u s.around) (nested : s.Nested)
    (hm : m ∈ s.memberSites) : m.Nested := by
  have hmember := wellFormed_member h hm
  obtain ⟨t, ht, d, hd, rfl⟩ := mem_memberSites.mp hm
  cases hmember with
  | intro sound _ =>
    have hinside : t.header.span.contains d.span = true := sound.inside _ rfl
    have hspan : s.declaration.span = t.header.span := by rw [ht]; rfl
    refine List.forall_mem_cons.mpr ⟨hinside, fun outer houter => ?_⟩
    exact Span.contains_trans (hspan ▸ nested outer houter) hinside

/-- The spans of a declaration, its annotations, and what is in its body. -/
def ownSpans (s : Site) : List Span :=
  s.declaration.span :: (s.header.annotations.map (·.span) ++ s.declaration.bodySpans)

/-- The spans of the documentation comment and of its tags. -/
def docSpans (s : Site) : List Span :=
  s.header.doc.toList.flatMap fun c => c.span :: c.tags.map (·.span)

end Site

theorem Declaration.Sound.fits {u : SourceUnit} {around : Option Span} {d : Declaration}
    (h : d.Sound u around) : u.Fits d.span :=
  ⟨Position.le_of_lt h.nonempty, h.start, h.stop⟩

namespace Site
variable {u : SourceUnit} {site : Site} (sound : site.declaration.Sound u site.around)
include sound

theorem fitsIn_of_mem_ownSpans {s : Span} (hs : s ∈ site.ownSpans) :
    u.FitsIn site.declaration.span s := by
  rcases List.mem_cons.mp hs with rfl | hs
  · exact ⟨sound.fits, Span.contains_self _⟩
  rcases List.mem_append.mp hs with hs | hs
  · obtain ⟨a, ha, rfl⟩ := List.mem_map.mp hs
    exact sound.annotations a ha
  · exact sound.body s hs

theorem fits_of_mem_docSpans {s : Span} (hs : s ∈ site.docSpans) : u.Fits s := by
  obtain ⟨c, hc, hs⟩ := List.mem_flatMap.mp hs
  obtain ⟨hdoc, htags⟩ := sound.doc c (Option.mem_toList.mp hc)
  rcases List.mem_cons.mp hs with rfl | hs
  · exact hdoc
  · obtain ⟨tag, htag, rfl⟩ := List.mem_map.mp hs
    exact (htags tag htag).toFits

end Site

namespace SourceUnit
variable {u : SourceUnit}

/-- Validation passes exactly the units that are well formed. -/
theorem fault?_eq_none_iff : u.fault? = none ↔ u.WellFormed := by
  simp only [fault?, Option.map_eq_none_iff, firstFault?, Option.orElse_eq_orElse,
    Option.orElse_eq_or, Option.or_eq_none_iff, List.findSome?_eq_none_iff,
    boundsFault?_eq_none_iff, siteFault?_eq_none_iff, walk]
  constructor
  · rintro ⟨himports, hsuppressions, hwalk⟩
    refine ⟨himports, hsuppressions, fun d hd => ?_⟩
    exact Site.wellFormed_of_walkFrom hwalk ⟨[], d⟩ (List.mem_map.mpr ⟨d, hd, rfl⟩)
  · rintro ⟨himports, hsuppressions, hdeclarations⟩
    refine ⟨himports, hsuppressions, fun s hs => ?_⟩
    have hwellFormed : s.declaration.WellFormed u s.around := by
      refine Site.walkFrom_preserves (P := fun s => s.declaration.WellFormed u s.around)
        (fun s h m hm => Site.wellFormed_member h hm) ?_ s hs
      exact List.forall_mem_map.mpr hdeclarations
    cases hwellFormed with
    | intro sound _ => exact sound

theorem sound_of_mem_walk (valid : u.fault? = none) {site : Site} (h : site ∈ u.walk) :
    site.declaration.Sound u site.around := by
  simp only [fault?, Option.map_eq_none_iff, firstFault?, Option.orElse_eq_orElse,
    Option.orElse_eq_or, Option.or_eq_none_iff, List.findSome?_eq_none_iff] at valid
  exact siteFault?_eq_none_iff.mp (valid.2.2 site h)

theorem WellFormed.nested (h : u.WellFormed) {site : Site} (hsite : site ∈ u.walk) :
    site.Nested := by
  have htop : ∀ s ∈ u.declarations.map fun d => (⟨[], d⟩ : Site),
      s.declaration.WellFormed u s.around ∧ s.Nested :=
    List.forall_mem_map.mpr fun d hd => ⟨h.declarations d hd, List.forall_mem_nil _⟩
  have hwalk := Site.walkFrom_preserves
    (fun s hs m hm => ⟨Site.wellFormed_member hs.1 hm, Site.nested_member hs.1 hs.2 hm⟩) htop
  exact (hwalk site hsite).2

/-- The spans that validation looks at. -/
def checkedSpans (u : SourceUnit) : List Span :=
  u.imports.map (·.span) ++ u.suppressions.map (·.span) ++
    u.walk.flatMap fun s => s.ownSpans ++ s.docSpans

theorem WellFormed.fits (h : u.WellFormed) {s : Span} (hs : s ∈ u.checkedSpans) : u.Fits s := by
  rcases List.mem_append.mp hs with hs | hs
  · rcases List.mem_append.mp hs with hs | hs
    · obtain ⟨i, hi, rfl⟩ := List.mem_map.mp hs
      exact h.imports i hi
    · obtain ⟨d, hd, rfl⟩ := List.mem_map.mp hs
      exact h.suppressions d hd
  · obtain ⟨site, hsite, hs⟩ := List.mem_flatMap.mp hs
    have sound := sound_of_mem_walk (fault?_eq_none_iff.mpr h) hsite
    rcases List.mem_append.mp hs with hs | hs
    · exact (Site.fitsIn_of_mem_ownSpans sound hs).toFits
    · exact Site.fits_of_mem_docSpans sound hs

theorem HasPosition.start_le {p : Position} (h : u.HasPosition p) : u.span.start ≤ p := by
  obtain ⟨n, length, hlength, hline, hlow, _⟩ := h
  have hstart : u.span.start = ⟨1, 1⟩ := by
    unfold span
    split
    · rfl
    · rfl
  rw [hstart, Position.le_def]
  dsimp only
  omega

theorem HasPosition.le_stop {p : Position} (h : u.HasPosition p) : p ≤ u.span.stop := by
  obtain ⟨n, length, hlength, hline, _, hhigh⟩ := h
  have hn : n < u.lineLengths.length := (List.getElem?_eq_some_iff.mp hlength).1
  unfold span
  split
  · rename_i hnone
    rw [List.getLast?_eq_none_iff.mp hnone] at hn
    cases hn
  · rename_i last hlast
    rw [Position.le_def]
    simp only [Span.ofInts]
    by_cases hend : n + 1 = u.lineLengths.length
    · -- On the last line the column is bounded by the last length.
      have hsame : last = length := by
        rw [List.getLast?_eq_getElem?, ← hend, Nat.add_sub_cancel, hlength] at hlast
        exact (Option.some.inj hlast).symm
      omega
    · omega

theorem Fits.inside_unit {s : Span} (h : u.Fits s) : u.span.contains s = true :=
  Span.contains_iff.mpr ⟨h.start.start_le, h.stop.le_stop⟩

/-- Validation passes exactly the units that are well formed. Any other unit is refused, and its
evaluation gives one finding in front of the first character, provided that the integers in the
wording of the error can be written. In a well-formed unit each span of a declaration, an
annotation, a handler or a resource scope lies inside of all declarations around it, and the span of
the unit holds all that was checked. -/
theorem validation_passes_wellFormed (unit : SourceUnit) :
    (unit.fault? = none ↔ unit.WellFormed) ∧
    (¬ unit.WellFormed → ∃ e, unit.fault? = some e ∧
      ((∀ n ∈ e.integers, IsShort n) → ∀ reg : Registry, ∃ result f,
        (reg.evaluate unit).outcome = .ok result ∧ result.findings = [f] ∧
          f.rule = Rule.modelError.id ∧ f.unit = unit.path ∧ f.span = .ofInts 1 1 1 1 ∧
          result.suppressions = [])) ∧
    (unit.WellFormed →
      (∀ site ∈ unit.walk, ∀ s ∈ site.ownSpans,
        ∀ outer ∈ site.declaration.span :: site.enclosing.map (·.header.span),
          outer.contains s = true) ∧
      ∀ s ∈ unit.checkedSpans, unit.span.contains s = true) := by
  refine ⟨fault?_eq_none_iff, ?_, ?_⟩
  · intro broken
    obtain ⟨e, he⟩ := Option.ne_none_iff_exists'.mp (mt fault?_eq_none_iff.mp broken)
    refine ⟨e, he, fun short reg => ?_⟩
    obtain ⟨detail, hdetail⟩ := ModelError.written_ok_iff.mpr short
    refine ⟨reg.modelErrorResult unit.path detail, _, ?_, rfl, rfl, rfl, rfl, rfl⟩
    simp only [Registry.evaluate, he, hdetail]
  · intro h
    refine ⟨fun site hsite s hs => ?_, fun s hs => (h.fits hs).inside_unit⟩
    have sound := sound_of_mem_walk (fault?_eq_none_iff.mpr h) hsite
    have hown := (Site.fitsIn_of_mem_ownSpans sound hs).inside
    refine List.forall_mem_cons.mpr ⟨hown, List.forall_mem_map.mpr fun t ht => ?_⟩
    exact Span.contains_trans (h.nested hsite t ht) hown

end SourceUnit

/-- A method on the second line, with an annotation and a handler. -/
def handlingMethod : Declaration :=
  .method
    ⟨"run", .ofInts 2 3 2 15, .pub, [], [{ name := "Override", span := .ofInts 2 3 2 6 }], none⟩ {
      parameters := [], returnType := .null, throws := []
      handlers := [⟨["Exception"], .ofInts 2 8 2 12, true, false⟩], resourceScopes := [] }

/-- A type of three lines around the method. -/
def handlingType : TypeDeclaration :=
  ⟨⟨"T", .ofInts 1 1 3 2, .pub, [], [], none⟩, "class", [], [handlingMethod]⟩

/-- The method in the type. -/
def handlingSite : Site where
  enclosing := [handlingType]
  declaration := handlingMethod

/-- A unit with the type; its second line has the given length. -/
def handlingUnit (length : Int) : SourceUnit where
  path := "A"
  package := ""
  lineLengths := [20, length, 20]
  imports := []
  suppressions := []
  declarations := [handlingType.toDeclaration]

/-- A comment with a tag that ends before it starts. -/
def crossedDoc : DocComment where
  span := .ofInts 1 1 1 15
  summary := "S."
  terminalPeriod := true
  tags := [⟨"see", "T", .ofInts 1 10 1 5⟩]

/-- A type with the comment. -/
def crossedType : TypeDeclaration :=
  ⟨⟨"T", .ofInts 1 1 1 20, .pub, [], [], some crossedDoc⟩, "class", [], []⟩

/-- A unit of one line, with the type. -/
def crossedUnit : SourceUnit where
  path := "A"
  package := ""
  lineLengths := [20]
  imports := []
  suppressions := []
  declarations := [crossedType.toDeclaration]

namespace SourceUnit

theorem walk_handlingUnit (length : Int) :
    (handlingUnit length).walk = [⟨[], handlingType.toDeclaration⟩, handlingSite] := by
  simp [walk, Site.walkFrom, handlingUnit, handlingType, handlingSite, handlingMethod,
    Site.memberSites, TypeDeclaration.toDeclaration, Declaration.asType?]

theorem sound_handlingUnit : (handlingUnit 20).fault? = none := by
  rw [fault?, firstFault?, walk_handlingUnit]
  rfl

/-- A unit that is well formed, and one whose second line is too short for the method. -/
theorem validation_passes_wellFormed_handlingUnit :
    (handlingUnit 20).WellFormed ∧
      (∀ outer ∈ [handlingMethod.span, handlingType.header.span],
        outer.contains (.ofInts 2 8 2 12) = true) ∧
      ¬ (handlingUnit 5).WellFormed ∧
      ∀ reg : Registry, ∃ result f, (reg.evaluate (handlingUnit 5)).outcome = .ok result ∧
        result.findings = [f] ∧ f.rule = Rule.modelError.id := by
  obtain ⟨hiff, _, hinside⟩ := validation_passes_wellFormed (handlingUnit 20)
  obtain ⟨hiff', hrefused, _⟩ := validation_passes_wellFormed (handlingUnit 5)
  have hfault : (handlingUnit 5).fault? = some ((handlingUnit 5).modelError
      (.spanFault "method 'T.run'" (.ofInts 2 3 2 15) (.outsideUnit (.ofInts 1 1 3 21)))) := by
    rw [fault?, firstFault?, walk_handlingUnit]
    rfl
  have hbroken : ¬ (handlingUnit 5).WellFormed := by
    intro h
    rw [hiff'.mpr h] at hfault
    cases hfault
  refine ⟨hiff.mp sound_handlingUnit, ?_, hbroken, fun reg => ?_⟩
  · apply (hinside (hiff.mp sound_handlingUnit)).1 handlingSite
    · rw [walk_handlingUnit]
      exact List.mem_cons_of_mem _ List.mem_cons_self
    · simp [Site.ownSpans, Site.header, handlingSite, handlingMethod, Declaration.header,
        Declaration.bodySpans]
  · obtain ⟨e, he, hevaluated⟩ := hrefused hbroken
    cases hfault.symm.trans he
    have hsmall : ∀ n ∈ (ModelFault.spanFault "method 'T.run'" (.ofInts 2 3 2 15)
        (.outsideUnit (.ofInts 1 1 3 21))).integers, n.natAbs < 100 := by
      decide
    obtain ⟨result, f, houtcome, hfindings, hrule, _⟩ :=
      hevaluated (fun n hn => isShort_of_lt (hsmall n hn)) reg
    exact ⟨result, f, houtcome, hfindings, hrule⟩

/-- A tag that ends before it starts is refused, even though it lies inside of its comment and all
else is in order. -/
theorem inverted_tag_refused :
    let header := crossedType.header
    crossedUnit.declarations = [crossedType.toDeclaration] ∧ crossedUnit.imports = [] ∧
      crossedUnit.suppressions = [] ∧ crossedType.members = [] ∧ header.annotations = [] ∧
      header.span.start < header.span.stop ∧ crossedUnit.Fits header.span ∧
      header.doc = some crossedDoc ∧ crossedUnit.Fits crossedDoc.span ∧
      (∀ tag ∈ crossedDoc.tags, crossedDoc.span.contains tag.span = true) ∧
      crossedUnit.fault? ≠ none := by
  have hwalk : crossedUnit.walk = [⟨[], crossedType.toDeclaration⟩] := by
    simp [walk, Site.walkFrom, crossedUnit, crossedType, Site.memberSites,
      TypeDeclaration.toDeclaration, Declaration.asType?]
  have hfault : crossedUnit.fault? = some (crossedUnit.modelError
      (.spanFault "@see tag of type 'T'" (.ofInts 1 10 1 5) .inverted)) := by
    rw [fault?, firstFault?, hwalk]
    rfl
  have hfits {s : Span} (h : crossedUnit.boundsFault? "" s = none) : crossedUnit.Fits s :=
    boundsFault?_eq_none_iff.mp h
  refine ⟨rfl, rfl, rfl, rfl, rfl, by decide, hfits rfl, rfl, hfits rfl, by decide, ?_⟩
  rw [hfault]
  exact Option.some_ne_none _

end SourceUnit

end Conformance
