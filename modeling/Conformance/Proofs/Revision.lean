import Conformance.Proofs.PoolReport
import Conformance.Proofs.RegistryPacks

/-!
# Revised rules

A change of the configuration leaves out some rules and gives others another severity. Neither the
order of findings nor their identity depends on the severity, and findings of one identity have one
rule. So the whole run can be followed at once: what a visit, a unit and a report come to under the
revised rules is what they came to before, without the findings of the rules left out, and with the
new severities on the others. The only condition is that the rules left out did nothing but pass and
match.
-/

namespace Conformance

/-- Which rules stay, and which severity they get in place of theirs. -/
structure Revision where
  keeps : String → Bool
  level : String → Severity → Severity

namespace Revision
variable (ρ : Revision)

/-- A rule with its new severity. -/
def rule (r : Rule) : Rule := { r with severity := ρ.level r.id r.severity }

/-- A finding with the new severity of its rule. -/
def finding (f : Finding) : Finding := { f with severity := ρ.level f.rule f.severity }

/-- The findings of the rules that stay, with their new severities. -/
def findings (fs : List Finding) : List Finding :=
  (fs.filter fun f => ρ.keeps f.rule).map ρ.finding

/-- A visit by the rule with its new severity. -/
def visit (v : Visit) : Visit := { v with rule := ρ.rule v.rule }

/-- What a visit comes to under the new severities. -/
def verdict : Verdict → Verdict
  | .finding f => .finding (ρ.finding f)
  | .failure f => .failure (ρ.finding f)
  | other => other

/-- What a series of visits comes to under the revised rules. -/
def trace (t : Trace) : Trace := { t with findings := ρ.findings t.findings }

/-- The result of a unit under the revised rules. -/
def result (r : UnitResult) : UnitResult := { r with findings := ρ.findings r.findings }

/-- The report under the revised rules: the counts are taken again. -/
def report (r : Report) : Report := Report.ofFindings (ρ.findings r.findings) r.units r.cancelled

/-- The second registry has the rules of the first, with their new severities, and leaves out those
that do not stay. The rules of the engine stay. -/
structure Turns (reg reg' : Registry) : Prop where
  rules : reg'.rules = reg.rules.map ρ.rule
  permissive : reg'.config.permissive = reg.config.permissive
  leavesOut : ∀ id, reg'.config.leavesOut id = (reg.config.leavesOut id || !ρ.keeps id)
  engine : ∀ e ∈ Rule.engineRules, ρ.keeps e.id = true

@[simp] theorem report_findings (r : Report) : (ρ.report r).findings = ρ.findings r.findings := rfl

@[simp] theorem report_units (r : Report) : (ρ.report r).units = r.units := rfl

@[simp] theorem report_cancelled (r : Report) : (ρ.report r).cancelled = r.cancelled := rfl

variable {ρ}

theorem Turns.keeps_of_isEngine {reg reg' : Registry} (turns : ρ.Turns reg reg') {f : Finding}
    (h : f.isEngine = true) : ρ.keeps f.rule = true := by
  obtain ⟨e, he, hid⟩ := List.mem_map.mp (List.contains_iff_mem.mp h)
  rw [← hid]
  exact turns.engine e he

section Findings
variable {fs : List Finding}

theorem findings_cons_of_keeps {f : Finding} (h : ρ.keeps f.rule = true) :
    ρ.findings (f :: fs) = ρ.finding f :: ρ.findings fs := by
  simp [findings, h]

theorem findings_cons_of_not {f : Finding} (h : ρ.keeps f.rule = false) :
    ρ.findings (f :: fs) = ρ.findings fs := by
  simp [findings, h]

theorem findings_append (fs gs : List Finding) :
    ρ.findings (fs ++ gs) = ρ.findings fs ++ ρ.findings gs := by
  simp [findings]

theorem findings_flatMap {α : Type} (xs : List α) (part : α → List Finding) :
    ρ.findings (xs.flatMap part) = xs.flatMap fun x => ρ.findings (part x) := by
  simp [findings, List.filter_flatMap, List.map_flatMap]

theorem mem_findings {g : Finding} :
    g ∈ ρ.findings fs ↔ ∃ f ∈ fs, ρ.keeps f.rule = true ∧ ρ.finding f = g := by
  simp [findings, and_assoc]

theorem findings_of_all (h : ∀ f ∈ fs, ρ.keeps f.rule = true) :
    ρ.findings fs = fs.map ρ.finding := by
  rw [findings, List.filter_eq_self.mpr h]

/-- A change of findings that neither sees the severity nor alters the rule can be made before the
revision or after it. -/
theorem findings_map {change : Finding → Finding} (hrule : ∀ f, (change f).rule = f.rule)
    (hchange : ∀ f, change (ρ.finding f) = ρ.finding (change f)) :
    (ρ.findings fs).map change = ρ.findings (fs.map change) := by
  have hkeeps : ((fun f => ρ.keeps f.rule) ∘ change) = fun f => ρ.keeps f.rule := by
    funext f
    exact congrArg ρ.keeps (hrule f)
  rw [findings, findings, List.filter_map, hkeeps, List.map_map, List.map_map]
  exact List.map_congr_left fun f _ => hchange f

/-- A tie before the revision is a tie after it. -/
theorem severitiesAgree (agree : SeveritiesAgree fs) : SeveritiesAgree (ρ.findings fs) := by
  intro f' hf' g' hg' hrule hunit hspan hmessage hflag
  obtain ⟨f, hf, _, rfl⟩ := mem_findings.mp hf'
  obtain ⟨g, hg, _, rfl⟩ := mem_findings.mp hg'
  have hsame := agree f hf g hg hrule hunit hspan hmessage hflag
  change ρ.level f.rule f.severity = ρ.level g.rule g.severity
  rw [hsame]
  exact congrArg (ρ.level · g.severity) hrule

/-- Whether a finding stays depends on its rule, so the findings of one identity stay or go
together, and the least of them is the least after the revision. -/
theorem mergeFindings_findings (agree : SeveritiesAgree fs) :
    mergeFindings (ρ.findings fs) = ρ.findings (mergeFindings fs) := by
  have hordered : (ρ.findings (mergeFindings fs)).Pairwise fun a b => a.compareKey b = .lt :=
    List.pairwise_map.mpr ((mergeFindings_ordered fs).sublist List.filter_sublist)
  apply (mergeFindings_ordered _).eq_of_mem_iff hordered
  intro g
  rw [(severitiesAgree agree).mem_mergeFindings_iff]
  constructor
  · rintro ⟨hg, hleast⟩
    obtain ⟨f, hf, hkeeps, rfl⟩ := mem_findings.mp hg
    refine mem_findings.mpr ⟨f, agree.mem_mergeFindings_iff.mpr ⟨hf, ?_⟩, hkeeps, rfl⟩
    intro h hh hid
    have hstays : ρ.keeps h.rule = true := by rwa [(Finding.identity_eq_iff.mp hid).1]
    exact hleast (ρ.finding h) (mem_findings.mpr ⟨h, hh, hstays, rfl⟩) hid
  · intro hg
    obtain ⟨f, hf, hkeeps, rfl⟩ := mem_findings.mp hg
    obtain ⟨hmem, hleast⟩ := agree.mem_mergeFindings_iff.mp hf
    refine ⟨mem_findings.mpr ⟨f, hmem, hkeeps, rfl⟩, ?_⟩
    intro h' hh' hid
    obtain ⟨h, hh, _, rfl⟩ := mem_findings.mp hh'
    exact hleast h hh hid

end Findings

end Revision

namespace Registry
variable {ρ : Revision} {reg reg' : Registry}

/-- The rule lets the node pass, or matches and gives its message. -/
def Quiet (reg : Registry) (unit : SourceUnit) (v : Visit) : Prop :=
  reg.inspect unit v = .nothing ∨ ∃ f, reg.inspect unit v = .finding f

section Visits
variable {unit : SourceUnit} {visits : List Visit} {failed : List String}

/-- A rule that stays keeps its identifier, and one that does not stay has not failed, so both runs
pass over the same visits. -/
theorem run_revised (failure : ρ.keeps Rule.ruleFailure.id = true)
    (answers : ∀ v ∈ visits, ρ.keeps v.rule.id = true →
      reg'.inspect unit (ρ.visit v) = ρ.verdict (reg.inspect unit v))
    (quiet : ∀ v ∈ visits, ρ.keeps v.rule.id = false → reg.Quiet unit v) :
    reg'.run unit failed ((visits.filter fun v => ρ.keeps v.rule.id).map ρ.visit) =
      ρ.trace (reg.run unit failed visits) := by
  induction visits generalizing failed with
  | nil => rfl
  | cons v rest ih =>
    obtain ⟨hanswer, hanswers⟩ := List.forall_mem_cons.mp answers
    obtain ⟨hquiet, hrest⟩ := List.forall_mem_cons.mp quiet
    have ih (failed : List String) := @ih failed hanswers hrest
    cases hkeeps : ρ.keeps v.rule.id with
    | false =>
      rw [List.filter_cons_of_neg (by simp [hkeeps]), ih, run]
      split
      · rfl
      rcases hquiet hkeeps with hnothing | ⟨f, hf⟩
      · rw [hnothing]
      · have hgone : ρ.keeps f.rule = false := by rwa [(inspect_finding hf).1]
        rw [hf]
        simp only [Revision.trace, Revision.findings_cons_of_not hgone]
    | true =>
      have hid : (ρ.visit v).rule.id = v.rule.id := rfl
      rw [List.filter_cons_of_pos (by simp [hkeeps]), List.map_cons, run, run, hid, hanswer hkeeps]
      split
      · exact ih failed
      cases hinspect : reg.inspect unit v with
      | finding f =>
        have hstays : ρ.keeps f.rule = true := by rwa [(inspect_finding hinspect).1]
        simp only [Revision.verdict, ih, Revision.trace, Revision.findings_cons_of_keeps hstays]
      | failure f =>
        obtain ⟨fault, rfl⟩ := inspect_failure hinspect
        have hstays : ρ.keeps (reg.failureFinding unit v fault).rule = true := failure
        simp only [Revision.verdict, ih, Revision.trace, Revision.findings_cons_of_keeps hstays]
      | nothing => simp only [Revision.verdict, ih]
      | stop => simp only [Revision.verdict, ih, Revision.trace]
      | escape e => rfl

end Visits

section Turned
variable (turns : ρ.Turns reg reg')
include turns

theorem get?_revised (id : String) : reg'.get? id = (reg.get? id).map ρ.rule := by
  rw [get?, get?, turns.rules, List.find?_map]
  rfl

theorem contains_revised (id : String) : reg'.contains id = reg.contains id := by
  rw [contains, contains, get?_revised turns, Option.isSome_map]

theorem parseDirective_revised (text : String) :
    reg'.parseDirective text = reg.parseDirective text := by
  rw [parseDirective, parseDirective, funext (contains_revised turns)]

theorem rulesFor_revised (kind : NodeKind) :
    reg'.rulesFor kind = ((reg.rulesFor kind).filter fun r => ρ.keeps r.id).map ρ.rule := by
  have hchosen (r : Rule) : ((fun r : Rule => !r.isEngine && !reg'.config.leavesOut r.id &&
      r.looksAt kind) ∘ ρ.rule) r = (ρ.keeps r.id && (!r.isEngine && !reg.config.leavesOut r.id &&
      r.looksAt kind)) := by
    change (!r.isEngine && !reg'.config.leavesOut r.id && r.looksAt kind) = _
    rw [turns.leavesOut]
    cases ρ.keeps r.id <;> simp
  rw [rulesFor, turns.rules, List.filter_map, funext hchosen, rulesFor, List.filter_filter]

theorem visits_revised (unit : SourceUnit) :
    reg'.visits unit = ((reg.visits unit).filter fun v => ρ.keeps v.rule.id).map ρ.visit := by
  simp only [visits, rulesFor_revised turns, List.filter_flatMap, List.map_flatMap, List.filter_map,
    List.map_map]
  rfl

section Built
variable {rules : List (Draft × Value)} {config : Config}
variable (built : ofRules rules config = .ok reg)
include built

theorem engineSeverity_revised {e : Rule} (he : e ∈ Rule.engineRules) :
    reg'.engineSeverity e = ρ.level e.id (reg.engineSeverity e) := by
  rw [engineSeverity, engineSeverity, get?_revised turns, get?_engine built he]
  rfl

theorem modelErrorResult_revised (path detail : String) :
    reg'.modelErrorResult path detail = ρ.result (reg.modelErrorResult path detail) := by
  have hmem : Rule.modelError ∈ Rule.engineRules := by simp [Rule.engineRules]
  rw [Revision.result, modelErrorResult, modelErrorResult,
    Revision.findings_cons_of_keeps (turns.engine _ hmem), engineSeverity_revised turns built hmem]
  rfl

theorem inspect_revised (unit : SourceUnit) (v : Visit) :
    reg'.inspect unit (ρ.visit v) = ρ.verdict (reg.inspect unit v) := by
  have hcontext : reg'.context unit (ρ.visit v).rule = reg.context unit v.rule := by
    rw [context, context, turns.permissive]
    rfl
  have hfailure (fault : Fault) : reg'.failureFinding unit (ρ.visit v) fault =
      ρ.finding (reg.failureFinding unit v fault) := by
    have hmem : Rule.ruleFailure ∈ Rule.engineRules := by simp [Rule.engineRules]
    rw [failureFinding, engineSeverity_revised turns built hmem]
    rfl
  have hpredicate : (ρ.visit v).rule.predicate = v.rule.predicate := rfl
  have hnode : (ρ.visit v).node = v.node := rfl
  have hrender (values : Template.Fields) :
      (ρ.visit v).rule.render v.node unit values = v.rule.render v.node unit values := rfl
  simp only [inspect, hpredicate, hnode, hcontext, hrender, hfailure]
  cases v.rule.predicate with
  | none => rfl
  | some predicate =>
    dsimp only
    cases predicate v.node (reg.context unit v.rule) with
    | hit m =>
      dsimp only
      cases v.rule.render v.node unit m.values with
      | ok message => rfl
      | error f => rfl
    | _ => rfl

/-- What a unit comes to under the revised rules, its evaluation being broken off or stopped as it
was before. -/
theorem evaluate_revised {unit : SourceUnit}
    (quiet : unit.fault? = none → ∀ v ∈ reg.visits unit, ρ.keeps v.rule.id = false →
      reg.Quiet unit v) :
    reg'.evaluate unit = {
      outcome := (reg.evaluate unit).outcome.map ρ.result
      stopped := (reg.evaluate unit).stopped } := by
  simp only [evaluate]
  cases hfault : unit.fault? with
  | some e =>
    dsimp only
    cases e.written with
    | ok detail => simp only [modelErrorResult_revised turns built, Except.map]
    | error cause => rfl
  | none =>
    have hrun : reg'.run unit [] (reg'.visits unit) =
        ρ.trace (reg.run unit [] (reg.visits unit)) := by
      rw [visits_revised turns]
      exact run_revised (turns.engine _ (by simp [Rule.engineRules]))
        (fun v _ _ => inspect_revised turns built unit v) (quiet hfault)
    simp only [hrun, Revision.trace]
    cases (reg.run unit [] (reg.visits unit)).escape with
    | some e => rfl
    | none => rfl

theorem guarded_revised {unit : SourceUnit}
    (quiet : unit.fault? = none → ∀ v ∈ reg.visits unit, ρ.keeps v.rule.id = false →
      reg.Quiet unit v) :
    reg'.guarded unit = ((reg.guarded unit).1.map ρ.result, (reg.guarded unit).2) := by
  rw [guarded, guarded, evaluate_revised turns built quiet]
  cases (reg.evaluate unit).outcome with
  | ok r => rfl
  | error e =>
    cases e with
    | crash cause => simp only [Except.map, modelErrorResult_revised turns built, Option.map_some]
    | interrupt => rfl

theorem collect_revised {units : List SourceUnit} (cancelled : Bool)
    (quiet : ∀ u ∈ units, u.fault? = none → ∀ v ∈ reg.visits u, ρ.keeps v.rule.id = false →
      reg.Quiet u v) :
    reg'.collect cancelled units = {
      results := (reg.collect cancelled units).results.map ρ.result
      cancelled := (reg.collect cancelled units).cancelled } := by
  induction units generalizing cancelled with
  | nil => rfl
  | cons u rest ih =>
    obtain ⟨hu, hrest⟩ := List.forall_mem_cons.mp quiet
    simp only [collect, guarded_revised turns built hu]
    cases cancelled with
    | true => rfl
    | false =>
      rcases reg.guarded u with ⟨_ | r, stopped⟩
      · rfl
      · cases stopped with
        | true => rfl
        | false => simp [ih false hrest]

theorem directiveFindings_revised (path : String) (directives : List Directive) :
    reg'.directiveFindings path directives =
      ρ.findings (reg.directiveFindings path directives) := by
  have hmem : Rule.suppressionSyntax ∈ Rule.engineRules := by simp [Rule.engineRules]
  have hfinding (d : Directive) (e : DirectiveError) :
      reg'.directiveFinding path d e = ρ.finding (reg.directiveFinding path d e) := by
    rw [directiveFinding, engineSeverity_revised turns built hmem]
    rfl
  have hall : ∀ f ∈ reg.directiveFindings path directives, ρ.keeps f.rule = true := by
    intro f hf
    obtain ⟨d, _, hd⟩ := List.mem_filterMap.mp hf
    split at hd
    · cases hd
    · cases hd
      exact turns.engine _ hmem
  rw [Revision.findings_of_all hall, directiveFindings, directiveFindings, List.map_filterMap]
  refine List.filterMap_congr fun d _ => ?_
  rw [parseDirective_revised turns]
  cases reg.parseDirective d.text with
  | ok targets => rfl
  | error e => simp only [hfinding, Option.map_some]

/-- Directives look at the rule and the place of a finding, which stay as they were. -/
theorem applyDirectives_revised (r : UnitResult) :
    reg'.applyDirectives (ρ.result r) = ρ.findings (reg.applyDirectives r) := by
  have hscopes : reg'.scopes r.suppressions = reg.scopes r.suppressions := by
    simp only [scopes, parseDirective_revised turns]
  rw [applyDirectives, applyDirectives, Revision.findings_append,
    ← directiveFindings_revised turns built]
  simp only [Revision.result, hscopes]
  congr 1
  apply Revision.findings_map
  · intro f
    split
    · rfl
    · rfl
  · intro f
    have hcovers (scope : Scope) : scope.covers (ρ.finding f) = scope.covers f := rfl
    simp only [hcovers]
    split
    · rfl
    · rfl

theorem aggregate_revised {results : List UnitResult}
    (produced : ∀ r ∈ results, reg.Produces r) (cancelled : Bool) :
    reg'.aggregate (results.map ρ.result) cancelled =
      ρ.report (reg.aggregate results cancelled) := by
  have hfindings : (results.map ρ.result).flatMap reg'.applyDirectives =
      ρ.findings (results.flatMap reg.applyDirectives) := by
    rw [Revision.findings_flatMap, List.flatMap_map]
    exact List.flatMap_congr fun r _ => applyDirectives_revised turns built r
  have hunits : mergeUnits (results.map ρ.result) = mergeUnits results := by
    rw [mergeUnits, List.map_map]
    rfl
  rw [aggregate, hfindings, hunits,
    Revision.mergeFindings_findings (severitiesAgree_of_produces built produced)]
  rfl

/-- The report of a run under the revised rules is the report of the run before, revised. -/
theorem reportOf_revised {units : List SourceUnit} (refused : List (String × String))
    (cancelled : Bool)
    (quiet : ∀ u ∈ units, u.fault? = none → ∀ v ∈ reg.visits u, ρ.keeps v.rule.id = false →
      reg.Quiet u v) :
    reg'.reportOf refused units cancelled = ρ.report (reg.reportOf refused units cancelled) := by
  have hrefused : reg'.refusals refused = (reg.refusals refused).map ρ.result := by
    rw [refusals, refusals, List.map_map]
    exact List.map_congr_left fun r _ => modelErrorResult_revised turns built r.1 r.2
  rw [reportOf, analyze, collect_revised turns built cancelled quiet, hrefused, ← List.map_append]
  exact aggregate_revised turns built (reg.run_produces refused units cancelled) _

end Built

end Turned

end Registry

end Conformance
