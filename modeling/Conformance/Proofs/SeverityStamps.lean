import Conformance.Proofs.FindingOrder
import Conformance.Proofs.RegistryRules
import Conformance.Run

/-!
# The severities that findings carry

A finding is made in four places: by a rule that matches, by a rule that fails, for a unit that
cannot be analysed, and for a directive that says nothing. In each it carries the severity that the
registry gives its rule. So findings of results that one registry has produced never differ in their
severity alone.
-/

namespace Conformance.Registry

/-- The finding carries the severity that the registry gives its rule. -/
def Stamps (reg : Registry) (f : Finding) : Prop :=
  ∃ r, reg.get? f.rule = some r ∧ f.severity = r.severity

/-- The results that come from a registry: of units that were evaluated under it, and of those that
could not be analysed. -/
inductive Produces (reg : Registry) : UnitResult → Prop where
  | evaluated {unit : SourceUnit} {result : UnitResult}
      (h : (reg.evaluate unit).outcome = .ok result) : Produces reg result
  | refused (path detail : String) : Produces reg (reg.modelErrorResult path detail)

theorem severitiesAgree_of_stamps {reg : Registry} {findings : List Finding}
    (h : ∀ f ∈ findings, reg.Stamps f) : SeveritiesAgree findings := by
  intro f hf g hg hrule _ _ _ _
  obtain ⟨r, hr, hfr⟩ := h f hf
  obtain ⟨s, hs, hgs⟩ := h g hg
  rw [hrule, hs] at hr
  cases hr
  rw [hfr, hgs]

theorem inspect_finding {reg : Registry} {unit : SourceUnit} {visit : Visit} {f : Finding}
    (h : reg.inspect unit visit = .finding f) :
    f.rule = visit.rule.id ∧ f.severity = visit.rule.severity ∧ f.unit = unit.path ∧
      f.suppressed = false := by
  simp only [inspect] at h
  split at h
  · cases h
  split at h
  case h_5 =>
    split at h
    · cases h
    · cases h
      exact ⟨rfl, rfl, rfl, rfl⟩
  all_goals cases h

theorem inspect_failure {reg : Registry} {unit : SourceUnit} {visit : Visit} {f : Finding}
    (h : reg.inspect unit visit = .failure f) :
    ∃ fault, f = reg.failureFinding unit visit fault := by
  simp only [inspect] at h
  split at h
  · cases h
  split at h
  case h_4 fault _ =>
    cases h
    exact ⟨fault, rfl⟩
  case h_5 =>
    split at h
    · cases h
      exact ⟨_, rfl⟩
    · cases h
  all_goals cases h

/-- Every finding of a series of visits is what one of them comes to. -/
theorem mem_run_findings {reg : Registry} {unit : SourceUnit} {failed : List String}
    {visits : List Visit} {f : Finding} (hf : f ∈ (reg.run unit failed visits).findings) :
    ∃ v ∈ visits, reg.inspect unit v = .finding f ∨ reg.inspect unit v = .failure f := by
  induction visits generalizing failed with
  | nil => cases hf
  | cons v rest ih =>
    have later {failed' : List String} (hf : f ∈ (reg.run unit failed' rest).findings) :
        ∃ w ∈ v :: rest, reg.inspect unit w = .finding f ∨ reg.inspect unit w = .failure f := by
      obtain ⟨w, hw, h⟩ := ih hf
      exact ⟨w, List.mem_cons_of_mem v hw, h⟩
    simp only [run] at hf
    split at hf
    · exact later hf
    split at hf
    · exact later hf
    · rename_i g hg
      rcases List.mem_cons.mp hf with rfl | hf
      · exact ⟨v, List.mem_cons_self, Or.inl hg⟩
      · exact later hf
    · rename_i g hg
      rcases List.mem_cons.mp hf with rfl | hf
      · exact ⟨v, List.mem_cons_self, Or.inr hg⟩
      · exact later hf
    · exact later hf
    · cases hf

theorem mem_rulesFor {reg : Registry} {kind : NodeKind} {r : Rule} :
    r ∈ reg.rulesFor kind ↔
      r ∈ reg.rules ∧ r.isEngine = false ∧ reg.config.leavesOut r.id = false ∧
        r.looksAt kind = true := by
  simp [rulesFor, and_assoc]

theorem mem_visits {reg : Registry} {unit : SourceUnit} {v : Visit} :
    v ∈ reg.visits unit ↔ v.node ∈ unit.nodes ∧ v.rule ∈ reg.rulesFor v.node.kind := by
  simp only [visits, List.mem_flatMap, List.mem_map]
  constructor
  · rintro ⟨node, hnode, rule, hrule, rfl⟩
    exact ⟨hnode, hrule⟩
  · rintro ⟨hnode, hrule⟩
    exact ⟨v.node, hnode, v.rule, hrule, rfl⟩

/-- What an evaluation that is not broken off gives: the model error of a unit that is not sound, or
the findings of the visits together with the directives of the unit. -/
theorem evaluate_cases {reg : Registry} {unit : SourceUnit} {result : UnitResult}
    (h : (reg.evaluate unit).outcome = .ok result) :
    (∃ e detail, unit.fault? = some e ∧ e.written = .ok detail ∧
      result = reg.modelErrorResult unit.path detail) ∨
    (unit.fault? = none ∧ result = {
      unit := unit.path
      findings := (reg.run unit [] (reg.visits unit)).findings
      suppressions := unit.suppressions }) := by
  simp only [evaluate] at h
  split at h
  · rename_i e he
    split at h
    · rename_i detail hdetail
      cases h
      exact Or.inl ⟨e, detail, he, hdetail, rfl⟩
    · cases h
  · rename_i hsound
    split at h
    · cases h
    · cases h
      exact Or.inr ⟨hsound, rfl⟩

theorem evaluate_unit {reg : Registry} {unit : SourceUnit} {result : UnitResult}
    (h : (reg.evaluate unit).outcome = .ok result) : result.unit = unit.path := by
  rcases evaluate_cases h with ⟨_, _, _, _, rfl⟩ | ⟨_, rfl⟩
  · rfl
  · rfl

section Built
variable {rules : List (Draft × Value)} {config : Config} {reg : Registry}
variable (built : ofRules rules config = .ok reg)
include built

theorem stamps_engine {r : Rule} (hr : r ∈ Rule.engineRules) {f : Finding} (hrule : f.rule = r.id)
    (hsev : f.severity = reg.engineSeverity r) : reg.Stamps f := by
  refine ⟨r.withOverride config, hrule ▸ get?_engine built hr, ?_⟩
  rw [hsev, engineSeverity_eq built hr]

theorem stamps_modelError (path detail : String) :
    ∀ f ∈ (reg.modelErrorResult path detail).findings, reg.Stamps f := by
  intro f hf
  cases List.mem_singleton.mp hf
  exact stamps_engine built (by simp [Rule.engineRules]) rfl rfl

theorem stamps_evaluated {unit : SourceUnit} {result : UnitResult}
    (h : (reg.evaluate unit).outcome = .ok result) : ∀ f ∈ result.findings, reg.Stamps f := by
  rcases evaluate_cases h with ⟨_, detail, _, _, rfl⟩ | ⟨_, rfl⟩
  · exact stamps_modelError built _ _
  · intro f hf
    obtain ⟨v, hv, hfound | hfailed⟩ := mem_run_findings hf
    · obtain ⟨hrule, hsev, _⟩ := inspect_finding hfound
      exact ⟨v.rule, hrule ▸ get?_id built (mem_rulesFor.mp (mem_visits.mp hv).2).1, hsev⟩
    · obtain ⟨fault, rfl⟩ := inspect_failure hfailed
      exact stamps_engine built (by simp [Rule.engineRules]) rfl rfl

theorem Produces.stamps {result : UnitResult} (h : reg.Produces result) :
    ∀ f ∈ result.findings, reg.Stamps f := by
  cases h with
  | evaluated h => exact stamps_evaluated built h
  | refused path detail => exact stamps_modelError built path detail

/-- Directives change the flag of a finding, never its rule or its severity. -/
theorem stamps_applyDirectives {result : UnitResult} (h : ∀ f ∈ result.findings, reg.Stamps f) :
    ∀ f ∈ reg.applyDirectives result, reg.Stamps f := by
  intro f hf
  rcases List.mem_append.mp hf with hf | hf
  · obtain ⟨g, hg, rfl⟩ := List.mem_map.mp hf
    split
    · exact h g hg
    · exact h g hg
  · obtain ⟨d, _, hd⟩ := List.mem_filterMap.mp hf
    split at hd
    · cases hd
    · cases hd
      exact stamps_engine built (by simp [Rule.engineRules]) rfl rfl

theorem severitiesAgree_of_produces {results : List UnitResult}
    (h : ∀ r ∈ results, reg.Produces r) :
    SeveritiesAgree (results.flatMap reg.applyDirectives) := by
  apply severitiesAgree_of_stamps
  intro f hf
  obtain ⟨r, hr, hf⟩ := List.mem_flatMap.mp hf
  exact stamps_applyDirectives built ((h r hr).stamps built) f hf

end Built

end Conformance.Registry
