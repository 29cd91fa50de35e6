import Conformance.Proofs.Reporting
import Mathlib.Data.List.Nodup

/-!
# Which findings of a report are suppressed

Directives are applied to the findings of their own unit before those of all units are merged. If no
two units share a path, the flag of a reported finding can be read off the directives of the unit it
names. The findings on the directives themselves are added after that, so no directive
reaches them.
-/

namespace Conformance

theorem Scope.covers_iff {scope : Scope} {f : Finding} :
    scope.covers f = true ↔ (scope.span.start ≤ f.span.start ∧ f.span.stop ≤ scope.span.stop) ∧
      (f.rule ∈ scope.targets ∨
        (Directive.allRules ∈ scope.targets ∧ f.rule ∉ Rule.engineIds)) := by
  simp [covers, Span.contains_iff, Finding.isEngine]

namespace Registry

/-- The results of units, apart from those whose evaluation was broken off. -/
def results (reg : Registry) (units : List SourceUnit) : List UnitResult :=
  units.filterMap fun u => (reg.evaluate u).outcome.toOption

/-- The directive can be applied, its span holds the finding, and it names the rule of the finding,
or all rules where that is none of the engine's. -/
def Hides (reg : Registry) (d : Directive) (f : Finding) : Prop :=
  ∃ targets, reg.parseDirective d.text = .ok targets ∧
    (d.span.start ≤ f.span.start ∧ f.span.stop ≤ d.span.stop) ∧
    (f.rule ∈ targets ∨ (Directive.allRules ∈ targets ∧ f.rule ∉ Rule.engineIds))

/-- A directive against all rules hides what lies in its span and is not of the engine. -/
theorem hides_all (reg : Registry) {span : Span} {f : Finding}
    (inside : span.contains f.span = true) (own : f.isEngine = false) :
    reg.Hides ⟨"disable all", span⟩ f := by
  have htargets : reg.parseDirective "disable all" = .ok [Directive.allRules] := rfl
  refine ⟨[Directive.allRules], htargets, Span.contains_iff.mp inside, ?_⟩
  exact Or.inr ⟨List.mem_singleton_self _, by simpa [Finding.isEngine] using own⟩

theorem mem_results {reg : Registry} {units : List SourceUnit} {r : UnitResult} :
    r ∈ reg.results units ↔ ∃ u ∈ units, (reg.evaluate u).outcome = .ok r := by
  have hok (outcome : Except Escape UnitResult) : outcome.toOption = some r ↔ outcome = .ok r := by
    cases outcome <;> simp [Except.toOption]
  simp only [results, List.mem_filterMap, hok]

theorem any_covers_iff {reg : Registry} {directives : List Directive} {f : Finding} :
    (reg.scopes directives).any (·.covers f) = true ↔ ∃ d ∈ directives, reg.Hides d f := by
  simp only [List.any_eq_true, scopes, List.mem_filterMap]
  constructor
  · rintro ⟨scope, ⟨d, hd, hscope⟩, hcovers⟩
    split at hscope
    · rename_i targets htargets
      cases hscope
      exact ⟨d, hd, targets, htargets, Scope.covers_iff.mp hcovers⟩
    · cases hscope
  · rintro ⟨d, hd, targets, htargets, hcovers⟩
    exact ⟨⟨d.span, targets⟩, ⟨d, hd, by rw [htargets]⟩, Scope.covers_iff.mpr hcovers⟩

theorem mem_directiveFindings {reg : Registry} {path : String} {directives : List Directive}
    {f : Finding} :
    f ∈ reg.directiveFindings path directives ↔
      ∃ d ∈ directives, ∃ e, reg.parseDirective d.text = .error e ∧
        f = reg.directiveFinding path d e := by
  simp only [directiveFindings, List.mem_filterMap]
  constructor
  · rintro ⟨d, hd, hf⟩
    split at hf
    · cases hf
    · rename_i e he
      cases hf
      exact ⟨d, hd, e, he, rfl⟩
  · rintro ⟨d, hd, e, he, rfl⟩
    exact ⟨d, hd, by rw [he]⟩

/-- Of findings that were active before, directives suppress those that one of them hides. -/
theorem mem_applyDirectives_cases {reg : Registry} {result : UnitResult}
    (active : ∀ g ∈ result.findings, g.suppressed = false) {f : Finding}
    (hf : f ∈ reg.applyDirectives result) :
    (∃ g ∈ result.findings, f.rule = g.rule ∧ f.unit = g.unit ∧
      (f.suppressed = true ↔ ∃ d ∈ result.suppressions, reg.Hides d f)) ∨
    f ∈ reg.directiveFindings result.unit result.suppressions := by
  rcases List.mem_append.mp hf with hf | hf
  · obtain ⟨g, hg, rfl⟩ := List.mem_map.mp hf
    refine Or.inl ⟨g, hg, ?_⟩
    split
    · rename_i hcovered
      exact ⟨rfl, rfl, iff_of_true rfl (any_covers_iff.mp hcovered)⟩
    · rename_i hbare
      rw [any_covers_iff] at hbare
      exact ⟨rfl, rfl, iff_of_false (by rw [active g hg]; nofun) hbare⟩
  · exact Or.inr hf

/-- Every finding of a result is reported, at most with another flag. -/
theorem exists_reported {reg : Registry} {results : List UnitResult} {r : UnitResult}
    (hr : r ∈ results) {g : Finding} (hg : g ∈ r.findings) (cancelled : Bool) :
    ∃ f ∈ (reg.aggregate results cancelled).findings, f.identity = g.identity := by
  have hmem : (if (reg.scopes r.suppressions).any (·.covers g) then g.suppress else g) ∈
      results.flatMap reg.applyDirectives :=
    List.mem_flatMap.mpr ⟨r, hr, List.mem_append_left _ (List.mem_map.mpr ⟨g, hg, rfl⟩)⟩
  obtain ⟨f, hf, hid, _⟩ := exists_mergeFindings_precedes hmem
  refine ⟨f, hf, hid.trans ?_⟩
  split
  · rfl
  · rfl

section Built
variable {rules : List (Draft × Value)} {config : Config} {reg : Registry}
variable (built : ofRules rules config = .ok reg)
include built

/-- An evaluation leaves the directives to others: what it finds names the unit, is active, and is
never about a directive. -/
theorem evaluated_finding {unit : SourceUnit} {result : UnitResult}
    (h : (reg.evaluate unit).outcome = .ok result) {f : Finding} (hf : f ∈ result.findings) :
    f.unit = unit.path ∧ f.suppressed = false ∧ f.rule ≠ Rule.suppressionSyntax.id := by
  have herror : Rule.modelError.id ≠ Rule.suppressionSyntax.id := by decide
  have hfailure : Rule.ruleFailure.id ≠ Rule.suppressionSyntax.id := by decide
  rcases evaluate_cases h with ⟨_, detail, _, _, rfl⟩ | ⟨_, rfl⟩
  · cases List.mem_singleton.mp hf
    exact ⟨rfl, rfl, herror⟩
  · obtain ⟨v, hv, hfound | hfailed⟩ := mem_run_findings hf
    · obtain ⟨hrule, _, hunit, hactive⟩ := inspect_finding hfound
      obtain ⟨hmem, hown, _⟩ := mem_rulesFor.mp (mem_visits.mp hv).2
      refine ⟨hunit, hactive, ?_⟩
      rw [hrule]
      exact id_ne_engine built hmem hown (by simp [Rule.engineRules])
    · obtain ⟨fault, rfl⟩ := inspect_failure hfailed
      exact ⟨rfl, rfl, hfailure⟩

/-- Where a reported finding comes from, and what its flag says. -/
theorem reported_cases {units : List SourceUnit} {cancelled : Bool} {f : Finding}
    (hf : f ∈ (reg.aggregate (reg.results units) cancelled).findings) :
    ∃ u ∈ units, f.unit = u.path ∧
      ((f.rule ≠ Rule.suppressionSyntax.id ∧
        (f.suppressed = true ↔ u.fault? = none ∧ ∃ d ∈ u.suppressions, reg.Hides d f)) ∨
      (f.rule = Rule.suppressionSyntax.id ∧ f.suppressed = false)) := by
  obtain ⟨r, hr, hf⟩ := List.mem_flatMap.mp (mem_of_mem_mergeFindings hf)
  obtain ⟨u, hu, hresult⟩ := mem_results.mp hr
  have hactive : ∀ g ∈ r.findings, g.suppressed = false := fun g hg =>
    (evaluated_finding built hresult hg).2.1
  refine ⟨u, hu, ?_⟩
  rcases mem_applyDirectives_cases hactive hf with ⟨g, hg, hrule, hunit, hflag⟩ | hdirective
  · obtain ⟨hgunit, _, hgrule⟩ := evaluated_finding built hresult hg
    refine ⟨hunit.trans hgunit, Or.inl ⟨hrule ▸ hgrule, hflag.trans ?_⟩⟩
    rcases evaluate_cases hresult with ⟨e, detail, he, _, rfl⟩ | ⟨hsound, rfl⟩
    · exact iff_of_false nofun fun hsound => by rw [hsound.1] at he; cases he
    · exact (and_iff_right hsound).symm
  · obtain ⟨d, _, e, _, rfl⟩ := mem_directiveFindings.mp hdirective
    exact ⟨evaluate_unit hresult, Or.inr ⟨rfl, rfl⟩⟩

omit built in
theorem malformed_reported {units : List SourceUnit} {u : SourceUnit} (hu : u ∈ units)
    (hsound : u.fault? = none) {r : UnitResult} (hr : (reg.evaluate u).outcome = .ok r)
    {d : Directive} (hd : d ∈ u.suppressions) {e : DirectiveError}
    (he : reg.parseDirective d.text = .error e) (cancelled : Bool) :
    ∃ f ∈ (reg.aggregate (reg.results units) cancelled).findings,
      f.rule = Rule.suppressionSyntax.id ∧ f.unit = u.path ∧ f.span = d.span ∧
        f.message = Rule.suppressionText d.text e.message := by
  have hmem :
      reg.directiveFinding u.path d e ∈ (reg.results units).flatMap reg.applyDirectives := by
    refine List.mem_flatMap.mpr ⟨r, mem_results.mpr ⟨u, hu, hr⟩, List.mem_append_right _ ?_⟩
    rcases evaluate_cases hr with ⟨_, _, hfault, _⟩ | ⟨_, rfl⟩
    · rw [hsound] at hfault
      cases hfault
    · exact mem_directiveFindings.mpr ⟨d, hd, e, he, rfl⟩
  obtain ⟨f, hf, hid, _⟩ := exists_mergeFindings_precedes hmem
  obtain ⟨hrule, hunit, hspan, hmessage⟩ := Finding.identity_eq_iff.mp hid
  have hengine : Rule.engineIds.contains Rule.suppressionSyntax.id = true := by decide
  exact ⟨f, hf, hrule, hunit, hspan, hmessage hengine⟩

/-- If no two units share a path, a reported finding that is not about a directive is suppressed
exactly if its unit is sound and has a directive that hides it. Every directive of a sound unit that
cannot be applied is reported at its span, and such a finding is never suppressed. -/
theorem suppressed_iff_hidden {units : List SourceUnit} (distinct : (units.map (·.path)).Nodup)
    (cancelled : Bool) :
    let report := reg.aggregate (reg.results units) cancelled
    (∀ f ∈ report.findings, f.rule ≠ Rule.suppressionSyntax.id →
      (f.suppressed = true ↔
        ∃ u ∈ units, u.path = f.unit ∧ u.fault? = none ∧ ∃ d ∈ u.suppressions, reg.Hides d f)) ∧
    (∀ u ∈ units, u.fault? = none → ∀ r, (reg.evaluate u).outcome = .ok r →
      ∀ d ∈ u.suppressions, ∀ e, reg.parseDirective d.text = .error e →
        ∃ f ∈ report.findings, f.rule = Rule.suppressionSyntax.id ∧ f.unit = u.path ∧
          f.span = d.span ∧ f.message = Rule.suppressionText d.text e.message) ∧
    (∀ f ∈ report.findings, f.rule = Rule.suppressionSyntax.id → f.suppressed = false) := by
  intro report
  refine ⟨?_, fun u hu hsound r hr d hd e he => malformed_reported hu hsound hr hd he cancelled, ?_⟩
  · intro f hf hrule
    obtain ⟨u, hu, hunit, ⟨_, hflag⟩ | ⟨habout, _⟩⟩ := reported_cases built hf
    · rw [hflag]
      constructor
      · rintro ⟨hsound, hhides⟩
        exact ⟨u, hu, hunit.symm, hsound, hhides⟩
      · rintro ⟨v, hv, hpath, hsound, hhides⟩
        have hsame : v = u := List.inj_on_of_nodup_map distinct hv hu (hpath.trans hunit)
        subst hsame
        exact ⟨hsound, hhides⟩
    · exact absurd habout hrule
  · intro f hf hrule
    obtain ⟨_, _, _, ⟨hother, _⟩ | ⟨_, hactive⟩⟩ := reported_cases built hf
    · exact absurd hrule hother
    · exact hactive

end Built

/-- A rule that matches every type. -/
def everyType : Rule where
  id := "naming/every-type"
  category := .naming
  target := some .type
  severity := .warning
  message := "a type"
  predicate := some fun _ _ => .hit {}

/-- The only declaration of the unit below. -/
def lonelyType : Site where
  enclosing := []
  declaration := .type ⟨"T", .ofInts 1 1 1 9, .pub, [], [], none⟩ "class" [] []

/-- A unit of one line, with one type in it. -/
def oneType (path : String) (suppressions : List Directive) : SourceUnit where
  path := path
  package := ""
  lineLengths := [20]
  imports := []
  suppressions := suppressions
  declarations := [lonelyType.declaration]

theorem walk_oneType (path : String) (suppressions : List Directive) :
    (oneType path suppressions).walk = [lonelyType] := by
  simp [SourceUnit.walk, Site.walkFrom, oneType, lonelyType, Site.memberSites, Declaration.asType?]

/-- The rules of a registry with one rule. -/
theorem rulesFor_one {reg : Registry} {rule : Rule} {pack : Value}
    (built : ofRules [(rule.toDraft, pack)] {} = .ok reg) (own : rule.isEngine = false)
    (kind : NodeKind) : reg.rulesFor kind = if rule.looksAt kind then [rule] else [] := by
  obtain ⟨entries, henrol, hperm⟩ := rules_perm built
  obtain ⟨_, _, rfl⟩ := (enrol_eq_ok_iff (by decide)).mp henrol
  have hengine : (engineEntries.map fun e => e.1.withOverride {}).filter
      (fun r => !r.isEngine && !Config.leavesOut {} r.id && r.looksAt kind) = [] := rfl
  have hrule : ([(rule.toDraft, pack)].map entryOf).map (fun e => e.1.withOverride {}) = [rule] :=
    rfl
  have hrules : (reg.rulesFor kind).Perm (if rule.looksAt kind then [rule] else []) := by
    rw [rulesFor, config_eq built]
    refine (hperm.filter _).trans (List.Perm.of_eq ?_)
    rw [List.map_append, List.filter_append, hengine, hrule, List.filter_singleton, own]
    cases rule.looksAt kind with
    | true => rfl
    | false => rfl
  revert hrules
  split
  · exact List.perm_singleton.mp
  · exact List.perm_nil.mp

theorem visits_oneType {reg : Registry} {rule : Rule} {pack : Value}
    (built : ofRules [(rule.toDraft, pack)] {} = .ok reg) (own : rule.isEngine = false)
    (looks : rule.looksAt .type = true) {unit : SourceUnit} (hwalk : unit.walk = [lonelyType]) :
    reg.visits unit = [⟨.declaration lonelyType, rule⟩] := by
  have hrules : reg.rulesFor .type = [rule] := by rw [rulesFor_one built own, if_pos looks]
  have hnodes : unit.nodes = [.declaration lonelyType] := by
    rw [SourceUnit.nodes, hwalk]
    rfl
  rw [visits, hnodes, List.flatMap_singleton]
  exact congrArg (List.map _) hrules

theorem evaluate_oneType {reg : Registry} {pack : Value}
    (built : ofRules [(everyType.toDraft, pack)] {} = .ok reg) {path : String}
    {suppressions : List Directive} (sound : (oneType path suppressions).fault? = none) :
    (reg.evaluate (oneType path suppressions)).outcome = .ok {
      unit := path
      findings := [{
        rule := "naming/every-type", severity := .warning, unit := path, span := .ofInts 1 1 1 9
        message := "a type" }]
      suppressions } := by
  have hvisits := visits_oneType built rfl rfl (walk_oneType path suppressions)
  simp only [evaluate, sound, hvisits]
  rfl

/-- One unit hides its finding. The other has a malformed directive inside of one that names the
rule on directives. -/
theorem suppressed_iff_hidden_oneType :
    let line := Span.ofInts 1 1 1 21
    let first := oneType "A" [⟨"disable all", line⟩]
    let second := oneType "B"
      [⟨"disable engine/suppression-syntax", line⟩, ⟨"enable all", .ofInts 1 3 1 4⟩]
    ∃ reg, ofRules [(everyType.toDraft, .null)] {} = .ok reg ∧
      ([first, second].map (·.path)).Nodup ∧
      let report := reg.aggregate (reg.results [first, second]) false
      (∃ f ∈ report.findings, f.rule = "naming/every-type" ∧ f.unit = "A" ∧ f.suppressed = true) ∧
      ∃ f ∈ report.findings, f.rule = Rule.suppressionSyntax.id ∧ f.unit = "B" ∧
        f.span = .ofInts 1 3 1 4 ∧ f.suppressed = false := by
  intro line first second
  obtain ⟨reg, built⟩ : ∃ reg, ofRules [(everyType.toDraft, .null)] {} = .ok reg := ⟨_, rfl⟩
  have distinct : ([first, second].map (·.path)).Nodup := by decide
  have hfirst : first.fault? = none := by
    rw [SourceUnit.fault?, SourceUnit.firstFault?, walk_oneType]
    rfl
  have hsecond : second.fault? = none := by
    rw [SourceUnit.fault?, SourceUnit.firstFault?, walk_oneType]
    rfl
  have hmem : first ∈ [first, second] := List.mem_cons_self
  obtain ⟨hflag, hmalformed, hactive⟩ := suppressed_iff_hidden built distinct false
  refine ⟨reg, built, distinct, ?_, ?_⟩
  · have hr := mem_results.mpr ⟨first, hmem, evaluate_oneType built hfirst⟩
    obtain ⟨f, hf, hid⟩ := exists_reported hr List.mem_cons_self false
    obtain ⟨hrule, hunit, hspan, _⟩ := Finding.identity_eq_iff.mp hid
    have hother : f.rule ≠ Rule.suppressionSyntax.id := by
      rw [hrule]
      decide
    refine ⟨f, hf, hrule, hunit, (hflag f hf hother).mpr ⟨first, hmem, hunit.symm, hfirst, _,
      List.mem_cons_self, reg.hides_all ?_ ?_⟩⟩
    · rw [hspan]
      decide
    · rw [Finding.isEngine, hrule]
      decide
  · obtain ⟨f, hf, hrule, hunit, hspan, _⟩ :=
      hmalformed second (List.mem_cons_of_mem _ List.mem_cons_self) hsecond _
        (evaluate_oneType built hsecond) _ (List.mem_cons_of_mem _ List.mem_cons_self)
        .notDirective rfl
    exact ⟨f, hf, hrule, hunit, hspan, hactive f hf hrule⟩

end Registry

end Conformance
