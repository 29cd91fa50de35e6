import Conformance.Proofs.CheckReports
import Conformance.Proofs.Reconfiguration
import Conformance.Proofs.RuleIndependence
import Conformance.Proofs.Traversal
import Conformance.Proofs.WellFormed

/-!
# Where findings point

A check may report a part of the node in place of the whole: a tag of a comment, a handler of a
method. Validation has seen to it that these parts fit into the unit and lie inside of the node. So
every finding of a sound unit does, and one directive over the whole unit reaches all of them.
-/

namespace Conformance

namespace Check

/-- A match has no span of its own, or one of the given ones. -/
def PointsAt (spans : List Span) (answer : Except Fault (Option Match)) : Prop :=
  ∀ m, answer = .ok (some m) → ∀ s, m.span = some s → s ∈ spans

/-- A check of the catalogue, wherever it is put, points at the node or at a part of it. -/
theorem pointsAt_parts {check : Check} (h : check ∈ catalogue) (node : Node) (context : Context) :
    PointsAt node.partSpans (check.inspection node context) :=
  fun m hm => (reports_listed node context h m hm).2

end Check

/-! ### Nodes of sound units -/

namespace SourceUnit
variable {unit : SourceUnit}

/-- In a sound unit the nodes fit into the unit, and their parts into the nodes. -/
theorem fits_of_mem_nodes (valid : unit.fault? = none) {node : Node} (h : node ∈ unit.nodes) :
    unit.Fits node.span ∧ ∀ s ∈ node.partSpans, unit.FitsIn node.span s := by
  cases holds_of_mem_nodes h with
  | declaration hsite =>
    have sound := sound_of_mem_walk valid hsite
    exact ⟨sound.fits, sound.body⟩
  | mark hsite ha =>
    have sound := sound_of_mem_walk valid hsite
    exact ⟨(sound.annotations _ ha).toFits, List.forall_mem_nil _⟩
  | doc hsite hd =>
    obtain ⟨hdoc, htags⟩ := (sound_of_mem_walk valid hsite).doc _ hd
    exact ⟨hdoc, List.forall_mem_map.mpr htags⟩

/-- The unit with a further directive, which hides all rules in the span of the unit. -/
def muted (u : SourceUnit) : SourceUnit :=
  { u with suppressions := u.suppressions ++ [⟨"disable all", u.span⟩] }

/-- The further directive is checked as all are. The span of a unit does not fit into it if there is
no line, or if the first or the last has a negative length. -/
theorem muted_sound_iff : unit.muted.fault? = none ↔ unit.fault? = none ∧ unit.Fits unit.span := by
  have hbounds (label : String) (s : Span) :
      unit.muted.boundsFault? label s = unit.boundsFault? label s := rfl
  have hsite (site : Site) : unit.muted.siteFault? site = unit.siteFault? site := rfl
  have hwalk : unit.muted.walk = unit.walk := rfl
  simp only [fault?, Option.map_eq_none_iff, firstFault?, Option.orElse_eq_orElse,
    Option.orElse_eq_or, Option.or_eq_none_iff, List.findSome?_eq_none_iff, hbounds, hsite, hwalk,
    boundsFault?_eq_none_iff]
  simp only [muted, List.forall_mem_append, List.forall_mem_singleton]
  tauto

end SourceUnit

/-! ### Findings of sound units -/

namespace Registry

/-- A rule that is shown the node matches it or fails on it, with the finding. -/
def ReportsOn (reg : Registry) (unit : SourceUnit) (node : Node) (f : Finding) : Prop :=
  ∃ v ∈ reg.visits unit, v.node = node ∧
    (reg.inspect unit v = .finding f ∨ reg.inspect unit v = .failure f)

/-- A finding is about the whole node or a part of it. -/
theorem inspect_span {reg : Registry} {unit : SourceUnit} {v : Visit}
    (catalogue : v.rule.UsesCatalogue) {f : Finding}
    (h : reg.inspect unit v = .finding f ∨ reg.inspect unit v = .failure f) :
    f.span = v.node.span ∨ f.span ∈ v.node.partSpans := by
  rcases h with hfound | hfailed
  · obtain ⟨check, hcheck, hpredicate⟩ := catalogue
    have hpoints := Check.pointsAt_parts hcheck v.node (reg.context unit v.rule)
    simp only [inspect, hpredicate, Inspection.toPredicate] at hfound
    cases hanswer : check.inspection v.node (reg.context unit v.rule) with
    | error fault =>
      rw [hanswer] at hfound
      cases hfound
    | ok found =>
      rw [hanswer] at hfound
      cases found with
      | none => cases hfound
      | some m =>
        dsimp only at hfound
        split at hfound
        · cases hfound
        · cases hfound
          cases hspan : m.span with
          | none => exact Or.inl rfl
          | some s => exact Or.inr (hpoints m hanswer s hspan)
  · obtain ⟨fault, rfl⟩ := inspect_failure hfailed
    exact Or.inl rfl

section Catalogue
variable {reg : Registry} (catalogue : reg.UsesCatalogue) {unit : SourceUnit}
include catalogue

theorem ReportsOn.fitsIn (valid : unit.fault? = none) {node : Node} {f : Finding}
    (h : reg.ReportsOn unit node f) : unit.FitsIn node.span f.span := by
  obtain ⟨v, hv, rfl, hreports⟩ := h
  obtain ⟨hnode, hparts⟩ := SourceUnit.fits_of_mem_nodes valid (mem_visits.mp hv).1
  rcases inspect_span (catalogue.visit hv) hreports with hspan | hpart
  · rw [hspan]
    exact ⟨hnode, Span.contains_self _⟩
  · exact hparts f.span hpart

/-- Checks do not break off an evaluation, so a sound unit has a result. -/
theorem evaluate_of_catalogue (valid : unit.fault? = none) :
    (reg.evaluate unit).outcome = .ok {
      unit := unit.path
      findings := (reg.run unit [] (reg.visits unit)).findings
      suppressions := unit.suppressions } := by
  refine (evaluate_sound valid).mpr ⟨run_escape_of_calm ?_, rfl⟩
  intro v hv e hescape
  rcases inspect_of_catalogue (catalogue.visit hv) with (hquiet | ⟨f, hquiet⟩) | ⟨f, hfails⟩
  · cases hescape.symm.trans hquiet
  · cases hescape.symm.trans hquiet
  · cases hescape.symm.trans hfails

/-- Checks do not look at directives. -/
theorem inspect_muted {v : Visit} (hv : v ∈ reg.visits unit) :
    reg.inspect unit.muted v = reg.inspect unit v := by
  obtain ⟨check, hcheck, hpredicate⟩ := catalogue.visit hv
  have hinspection : check.inspection v.node (reg.context unit.muted v.rule) =
      check.inspection v.node (reg.context unit v.rule) := by
    -- Of the unit a check reads the imports at most.
    clear hpredicate
    revert check
    simp only [Check.catalogue, List.forall_mem_cons]
    exact ⟨rfl, rfl, rfl, rfl, rfl, rfl, rfl, rfl, rfl, rfl, rfl, rfl, rfl, rfl, rfl,
      List.forall_mem_nil _⟩
  simp only [inspect, hpredicate, Inspection.toPredicate, hinspection]
  rfl

theorem run_muted :
    reg.run unit.muted [] (reg.visits unit.muted) = reg.run unit [] (reg.visits unit) :=
  run_congr fun _ hv => inspect_muted catalogue hv

end Catalogue

theorem engine_of_modelError {reg : Registry} {path detail : String} {f : Finding}
    (hf : f ∈ reg.applyDirectives (reg.modelErrorResult path detail)) : f.isEngine = true := by
  have hfindings : reg.applyDirectives (reg.modelErrorResult path detail) =
      (reg.modelErrorResult path detail).findings := rfl
  rw [hfindings] at hf
  cases List.mem_singleton.mp hf
  have hengine : Rule.engineIds.contains Rule.modelError.id = true := by decide
  exact hengine

/-- Only a sound unit that was evaluated has findings that are not of the engine. -/
theorem exists_sound_of_own {reg : Registry} {refused : List (String × String)}
    {units : List SourceUnit} {cancelled : Bool} {r : UnitResult}
    (hr : r ∈ reg.refusals refused ++ (reg.collect cancelled units).results) {f : Finding}
    (hf : f ∈ reg.applyDirectives r) (own : f.isEngine = false) :
    ∃ u ∈ units, u.fault? = none ∧ r = {
      unit := u.path
      findings := (reg.run u [] (reg.visits u)).findings
      suppressions := u.suppressions } := by
  have hskipped : ∀ path detail, r ≠ reg.modelErrorResult path detail := by
    rintro path detail rfl
    rw [engine_of_modelError hf] at own
    cases own
  rcases List.mem_append.mp hr with hr | hr
  · obtain ⟨unread, _, heq⟩ := List.mem_map.mp hr
    exact absurd heq.symm (hskipped _ _)
  · obtain ⟨u, hu, hguarded⟩ := exists_of_mem_collect hr
    rcases (guarded_cases hguarded).2 with hevaluated | ⟨detail, heq⟩
    · rcases evaluate_cases hevaluated with ⟨_, detail, _, _, heq⟩ | ⟨valid, heq⟩
      · exact absurd heq (hskipped _ _)
      · exact ⟨u, hu, valid, heq⟩
    · exact absurd heq (hskipped _ _)

theorem exists_reportsOn {reg : Registry} {unit : SourceUnit} {f : Finding}
    (hf : f ∈ (reg.run unit [] (reg.visits unit)).findings) :
    ∃ node ∈ unit.nodes, reg.ReportsOn unit node f := by
  obtain ⟨v, hv, hreports⟩ := mem_run_findings hf
  exact ⟨v.node, (mem_visits.mp hv).1, v, hv, rfl, hreports⟩

theorem ReportsOn.unit_eq {reg : Registry} {unit : SourceUnit} {node : Node} {f : Finding}
    (h : reg.ReportsOn unit node f) : f.unit = unit.path := by
  obtain ⟨v, _, _, hfound | hfailed⟩ := h
  · exact (inspect_finding hfound).2.2.1
  · obtain ⟨fault, rfl⟩ := inspect_failure hfailed
    rfl

section Muting
variable {reg : Registry} (catalogue : reg.UsesCatalogue)
include catalogue

/-- If every unit with a path is muted, so is every finding that names the path, unless it is one of
the engine's. -/
theorem suppressed_of_muted {path : String} {units : List SourceUnit}
    (muted : ∀ u ∈ units, u.path = path → ∃ w : SourceUnit, u = w.muted)
    {refused : List (String × String)} {cancelled : Bool} {f : Finding}
    (hf : f ∈ (reg.reportOf refused units cancelled).findings) (hunit : f.unit = path)
    (own : f.isEngine = false) : f.suppressed = true := by
  obtain ⟨r, hr, hf⟩ := List.mem_flatMap.mp (mem_of_mem_mergeFindings hf)
  obtain ⟨u, hu, valid, rfl⟩ := exists_sound_of_own hr hf own
  rcases List.mem_append.mp hf with hf | hf
  · obtain ⟨g, hg, rfl⟩ := List.mem_map.mp hf
    dsimp only at hg hunit own ⊢
    -- The flag is put on a finding of the evaluation, which has the same place and rule.
    have hgunit : g.unit = path := by
      rw [← hunit]
      split <;> rfl
    have hgown : g.isEngine = false := by
      rw [← own]
      split <;> rfl
    obtain ⟨node, _, hreports⟩ := exists_reportsOn hg
    obtain ⟨w, rfl⟩ := muted u hu (hreports.unit_eq.symm.trans hgunit)
    have hinside := (hreports.fitsIn catalogue valid).toFits.inside_unit
    have hcovered : (reg.scopes w.muted.suppressions).any (·.covers g) = true := by
      refine any_covers_iff.mpr ⟨⟨"disable all", w.span⟩, ?_, reg.hides_all hinside hgown⟩
      exact List.mem_append_right _ (List.mem_singleton_self _)
    rw [if_pos hcovered]
    rfl
  · obtain ⟨d, _, e, _, rfl⟩ := mem_directiveFindings.mp hf
    have hengine : Rule.engineIds.contains Rule.suppressionSyntax.id = true := by decide
    cases hengine.symm.trans own

/-- Every finding of a sound unit, also that a rule failed, has a span that is not inverted, starts
and stops in the unit, and lies inside of the node that it was reported on and of the unit. So a
directive that hides all rules in the span of the unit suppresses every finding that is not of the
engine, and it changes nothing else if the span fits. -/
theorem findings_inside_nodes {unit : SourceUnit} (valid : unit.fault? = none) :
    (∃ result, (reg.evaluate unit).outcome = .ok result ∧
      (∀ f ∈ result.findings, ∃ node ∈ unit.nodes, reg.ReportsOn unit node f) ∧
      (unit.Fits unit.span → (reg.evaluate unit.muted).outcome =
        .ok { result with suppressions := unit.muted.suppressions })) ∧
    (∀ node f, reg.ReportsOn unit node f →
      unit.Fits f.span ∧ node.span.contains f.span = true ∧ unit.span.contains f.span = true) ∧
    ∀ units : List SourceUnit,
      (∀ u ∈ units, u.path = unit.path → ∃ w : SourceUnit, u = w.muted) →
      ∀ refused cancelled, ∀ f ∈ (reg.reportOf refused units cancelled).findings,
        f.unit = unit.path → f.isEngine = false → f.suppressed = true := by
  refine ⟨⟨_, evaluate_of_catalogue catalogue valid, fun f hf => exists_reportsOn hf, ?_⟩, ?_, ?_⟩
  · intro fits
    rw [evaluate_of_catalogue catalogue (SourceUnit.muted_sound_iff.mpr ⟨valid, fits⟩),
      run_muted catalogue]
    rfl
  · intro node f hreports
    have hfits := hreports.fitsIn catalogue valid
    exact ⟨hfits.toFits, hfits.inside, hfits.toFits.inside_unit⟩
  · intro units muted refused cancelled f hf hunit own
    exact suppressed_of_muted catalogue muted hf hunit own

end Muting

/-- A rule of the catalogue on handlers that do nothing. -/
def silentHandler : Rule where
  id := "exceptions/silent"
  category := .exceptionHandling
  target := some .method
  severity := .warning
  message := "silent"
  predicate := some (Inspection.toPredicate Check.emptyHandler)

/-- The finding is about a handler in a method, and the directive suppresses it. -/
theorem findings_inside_nodes_handlingUnit :
    ∃ reg f, ofRules [(silentHandler.toDraft, .null)] {} = .ok reg ∧ reg.UsesCatalogue ∧
      (handlingUnit 20).fault? = none ∧
      reg.ReportsOn (handlingUnit 20) (.declaration handlingSite) f ∧
      f.span = .ofInts 2 8 2 12 ∧ handlingMethod.span.contains f.span = true ∧
      ∃ g ∈ (reg.reportOf [] [(handlingUnit 20).muted] false).findings,
        g.span = f.span ∧ g.suppressed = true := by
  obtain ⟨reg, built⟩ : ∃ reg, ofRules [(silentHandler.toDraft, .null)] {} = .ok reg := ⟨_, rfl⟩
  have catalogue : reg.UsesCatalogue := by
    apply usesCatalogue_of_drafts built
    intro d hd
    cases List.mem_singleton.mp hd
    exact ⟨{ name := "empty_handler", inspection := Check.emptyHandler, values := ["caught"] },
      by simp [Check.catalogue], rfl⟩
  have valid := SourceUnit.sound_handlingUnit
  have hvisits : reg.visits (handlingUnit 20) = [⟨.declaration handlingSite, silentHandler⟩] := by
    simp only [visits, SourceUnit.nodes, SourceUnit.walk_handlingUnit, rulesFor_one built rfl]
    rfl
  have hinspect : reg.inspect (handlingUnit 20) ⟨.declaration handlingSite, silentHandler⟩ =
      .finding {
        rule := "exceptions/silent", severity := .warning, unit := "A"
        span := .ofInts 2 8 2 12, message := "silent" } := by
    rfl
  have hmem : ⟨.declaration handlingSite, silentHandler⟩ ∈ reg.visits (handlingUnit 20) := by
    rw [hvisits]
    exact List.mem_cons_self
  have hreports : reg.ReportsOn (handlingUnit 20) (.declaration handlingSite) _ :=
    ⟨_, hmem, rfl, Or.inl hinspect⟩
  obtain ⟨_, hinside, hmuted⟩ := findings_inside_nodes catalogue valid
  refine ⟨reg, _, built, catalogue, valid, hreports, rfl, (hinside _ _ hreports).2.1, ?_⟩
  have fits : (handlingUnit 20).Fits (handlingUnit 20).span :=
    SourceUnit.boundsFault?_eq_none_iff.mp
      (show (handlingUnit 20).boundsFault? "" (handlingUnit 20).span = none from rfl)
  obtain ⟨g, hg, hrule, hunit, hspan⟩ := reported_of_one_visit
    (SourceUnit.muted_sound_iff.mpr ⟨valid, fits⟩) hvisits
    ((inspect_muted catalogue hmem).trans hinspect)
  have hown : g.isEngine = false := by
    rw [Finding.isEngine, hrule]
    decide
  have hsuppressed := hmuted [(handlingUnit 20).muted]
    (List.forall_mem_singleton.mpr fun _ => ⟨handlingUnit 20, rfl⟩) [] false g hg hunit hown
  exact ⟨g, hg, hspan, hsuppressed⟩

end Registry

end Conformance
