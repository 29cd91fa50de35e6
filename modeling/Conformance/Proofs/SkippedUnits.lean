import Conformance.CommandLine.Program
import Conformance.Proofs.PoolReport

/-!
# Documents that are skipped

A document can fail to give a unit, its unit can be unsound, and the evaluation of its unit can
crash. In each case the results hold a model error for it. Directives do not reach the results of
skipped units, and of findings with one identity the active one is kept, so a model error stands in
the report as it was made, and the run does not end as passed.
-/

namespace Conformance

/-- A document that the run does not evaluate, and the name it is reported under. -/
inductive Skipped (t : FileTree) (reg : Registry) (p : Path) : String → Prop where
  | rejected {name : String} {e : ModelError} (h : t.loadUnit p = .error (.rejected name e)) :
      Skipped t reg p name
  | unsound {unit : SourceUnit} {e : ModelError} (h : t.loadUnit p = .ok unit)
      (fault : unit.fault? = some e) : Skipped t reg p unit.path
  | crashed {unit : SourceUnit} {cause : Fault} (h : t.loadUnit p = .ok unit)
      (crash : (reg.evaluate unit).outcome = .error (.crash cause)) : Skipped t reg p unit.path

/-- The reports that a run over units may end with: that of the plain loop, and those of pools. -/
inductive Reports (reg : Registry) (units : List SourceUnit) (earlier : List UnitResult) :
    Report → Prop where
  | loop : Reports reg units earlier (reg.analyze units earlier false)
  | pool {k : Nat} {log : Pool.Log units.length k} {s : Pool.State units.length k}
      (run : Pool.Run reg units (Pool.State.start earlier false) log s) (complete : s.Complete) :
      Reports reg units earlier (s.report reg)

namespace Registry

section Results
variable {reg : Registry} {unit : SourceUnit}

theorem guarded_unsound (reg : Registry) {e : ModelError} (fault : unit.fault? = some e) :
    ∃ detail, reg.guarded unit = (some (reg.modelErrorResult unit.path detail), false) := by
  simp only [guarded, evaluate, fault]
  cases e.written with
  | ok detail => exact ⟨detail, rfl⟩
  | error cause => exact ⟨_, rfl⟩

theorem guarded_crashed {cause : Fault}
    (crash : (reg.evaluate unit).outcome = .error (.crash cause)) :
    (reg.guarded unit).1 = some (reg.modelErrorResult unit.path cause.text) := by
  simp only [guarded, crash]

/-- A run that no unit ends has looked at every unit. -/
theorem guarded_of_collect {units : List SourceUnit}
    (h : (reg.collect false units).cancelled = false) :
    ∀ u ∈ units, ∃ r, reg.guarded u = (some r, false) := by
  induction units with
  | nil => nofun
  | cons u rest ih =>
    simp only [collect, Bool.false_eq_true, if_false] at h
    split at h
    · rename_i r hr
      intro v hv
      rcases List.mem_cons.mp hv with rfl | hv
      · exact ⟨r, hr⟩
      · exact ih h v hv
    · cases h

end Results

/-- A report that is not flagged as cancelled is made from the results of all units. -/
theorem reports_whole {reg : Registry} {units : List SourceUnit} {earlier : List UnitResult}
    {report : Report} (h : Reports reg units earlier report) (whole : report.cancelled = false) :
    (∀ u ∈ units, ∃ r, reg.guarded u = (some r, false)) ∧
      ∃ results, report = reg.aggregate results false ∧
        ∀ r, r ∈ results ↔ r ∈ earlier ++ units.filterMap fun u => (reg.guarded u).1 := by
  cases h with
  | loop =>
    have hguarded := guarded_of_collect whole
    refine ⟨hguarded, _, ?_, fun r => Iff.rfl⟩
    rw [analyze, collect_all hguarded]
  | @pool k log s run complete =>
    refine ⟨run.guarded_of_uncancelled complete whole, s.results, ?_,
      run.mem_results_of_uncancelled complete whole⟩
    have hcancel : s.cancel = false := whole
    rw [Pool.State.report, hcancel]

section Built
variable {rules : List (Draft × Value)} {config : Config} {reg : Registry}
variable (built : ofRules rules config = .ok reg)
include built

/-- Among findings with the identity of a model error an active one comes first, and it has the
severity of the engine's rule. -/
theorem modelError_reported (plain : ∀ o ∈ config.overrides, o.1 ≠ Rule.modelError.id)
    {results : List UnitResult} (produced : ∀ r ∈ results, reg.Produces r) {path detail : String}
    (hmem : reg.modelErrorResult path detail ∈ results) (cancelled : Bool) :
    ∃ f ∈ (reg.aggregate results cancelled).findings, f.rule = Rule.modelError.id ∧
      f.unit = path ∧ f.severity = .error ∧ f.suppressed = false := by
  have hflat : (⟨Rule.modelError.id, reg.engineSeverity Rule.modelError, path, Span.origin,
      Rule.modelErrorText detail, false⟩ : Finding) ∈ results.flatMap reg.applyDirectives :=
    List.mem_flatMap.mpr ⟨_, hmem, List.mem_cons_self⟩
  obtain ⟨f, hf, hid, hle⟩ := exists_mergeFindings_precedes hflat
  obtain ⟨hrule, hunit, _⟩ := Finding.identity_eq_iff.mp hid
  have hengine : Rule.engineIds.contains Rule.modelError.id = true := by decide
  obtain ⟨r, hr, hseverity⟩ : reg.Stamps f := by
    obtain ⟨result, hresult, hfrom⟩ := List.mem_flatMap.mp (mem_of_mem_mergeFindings hf)
    exact stamps_applyDirectives built ((produced result hresult).stamps built) f hfrom
  rw [hrule, get?_engine built List.mem_cons_self] at hr
  cases hr
  refine ⟨f, hf, hrule, hunit, ?_, Finding.active_of_precedes hle hid hengine rfl⟩
  have hlookup : config.overrides.lookup Rule.modelError.id = none := by
    rw [List.lookup_eq_none_iff]
    simpa [bne_iff_ne, ne_comm] using plain
  rw [hseverity, Rule.withOverride, hlookup]
  rfl

end Built

end Registry

namespace FileTree

/-- The result for a document that gives no unit. -/
def rejection? (t : FileTree) (reg : Registry) (p : Path) : Option UnitResult :=
  match t.loadUnit p with
  | .error (.rejected name e) => some (reg.modelErrorResult name e.message)
  | _ => none

/-- If no document ends the run, each gives its unit or the result for it. -/
theorem loadUnits_eq (t : FileTree) (reg : Registry) {paths : List Path}
    (loads : ∀ p ∈ paths, ∀ a, t.loadUnit p ≠ .error (.abort a)) :
    t.loadUnits reg paths = .ok
      (paths.filterMap fun p => (t.loadUnit p).toOption, paths.filterMap (t.rejection? reg)) := by
  induction paths with
  | nil => rfl
  | cons p rest ih =>
    have hrest := ih fun q hq => loads q (List.mem_cons_of_mem p hq)
    rw [loadUnits, hrest, List.filterMap_cons, List.filterMap_cons, rejection?]
    cases hp : t.loadUnit p with
    | ok unit => rfl
    | error e =>
      cases e with
      | rejected name e => rfl
      | abort a => exact absurd hp (loads p List.mem_cons_self a)

theorem produces_of_rejection? {t : FileTree} {reg : Registry} {p : Path} {r : UnitResult}
    (h : t.rejection? reg p = some r) : reg.Produces r := by
  simp only [rejection?] at h
  split at h
  · cases h
    exact .refused _ _
  · cases h

end FileTree

section Documents
variable {t : FileTree} {reg : Registry} {p : Path}

/-- Whatever the reason, there is a model error for a document that is skipped. -/
theorem Skipped.modelError {name : String} (h : Skipped t reg p name) :
    ∃ detail, t.rejection? reg p = some (reg.modelErrorResult name detail) ∨
      ∃ u, t.loadUnit p = .ok u ∧
        (reg.guarded u).1 = some (reg.modelErrorResult name detail) := by
  cases h with
  | @rejected name e h => exact ⟨e.message, Or.inl (by rw [FileTree.rejection?, h])⟩
  | @unsound unit e h fault =>
    obtain ⟨detail, hguarded⟩ := reg.guarded_unsound fault
    exact ⟨detail, Or.inr ⟨unit, h, congrArg Prod.fst hguarded⟩⟩
  | @crashed unit cause h crash =>
    exact ⟨cause.text, Or.inr ⟨unit, h, Registry.guarded_crashed crash⟩⟩

/-- A document that neither ends the run nor is skipped has a sound unit that was evaluated. -/
theorem evaluated_of_not_skipped (loads : ∀ a, t.loadUnit p ≠ .error (.abort a))
    (going : ∀ u, t.loadUnit p = .ok u → ∃ r, reg.guarded u = (some r, false))
    (h : ∀ name, ¬ Skipped t reg p name) :
    ∃ u, t.loadUnit p = .ok u ∧ u.fault? = none ∧ ∃ r, (reg.evaluate u).outcome = .ok r := by
  cases hload : t.loadUnit p with
  | error e =>
    cases e with
    | rejected name e => exact absurd (.rejected hload) (h name)
    | abort a => exact absurd hload (loads a)
  | ok u =>
    refine ⟨u, rfl, ?_, ?_⟩
    · cases hfault : u.fault? with
      | none => rfl
      | some e => exact absurd (.unsound hload hfault) (h u.path)
    · cases houtcome : (reg.evaluate u).outcome with
      | ok r => exact ⟨r, rfl⟩
      | error e =>
        cases e with
        | crash cause => exact absurd (.crashed hload houtcome) (h u.path)
        | interrupt =>
          obtain ⟨r, hr⟩ := going u hload
          simp only [Registry.guarded, houtcome] at hr
          cases hr

end Documents

/-- In every report that is not flagged as cancelled, a document that was skipped has an active
model error under its name, with the severity of an error; so a run ends as passed only if every
document was loaded, is sound, and was evaluated. -/
theorem skipped_reported {rules : List (Draft × Value)} {config : Config} {reg : Registry}
    (built : Registry.ofRules rules config = .ok reg)
    (plain : ∀ o ∈ config.overrides, o.1 ≠ Rule.modelError.id) (t : FileTree) {paths : List Path}
    (loads : ∀ p ∈ paths, ∀ a, t.loadUnit p ≠ .error (.abort a)) :
    ∃ units rejected, t.loadUnits reg paths = .ok (units, rejected) ∧
      ∀ report, Reports reg units rejected report → report.cancelled = false →
        (∀ p ∈ paths, ∀ name, Skipped t reg p name →
          ∃ f ∈ report.findings, f.rule = Rule.modelError.id ∧ f.unit = name ∧
            f.severity = .error ∧ f.suppressed = false) ∧
        (report.exitCode = 0 → ∀ p ∈ paths, ∃ u, t.loadUnit p = .ok u ∧ u.fault? = none ∧
          ∃ r, (reg.evaluate u).outcome = .ok r) := by
  refine ⟨_, _, t.loadUnits_eq reg loads, fun report hreport whole => ?_⟩
  obtain ⟨hguarded, results, rfl, hresults⟩ := Registry.reports_whole hreport whole
  have hproduced : ∀ r ∈ results, reg.Produces r := by
    intro r hr
    rcases List.mem_append.mp ((hresults r).mp hr) with hr | hr
    · obtain ⟨p, _, hp⟩ := List.mem_filterMap.mp hr
      exact FileTree.produces_of_rejection? hp
    · obtain ⟨u, _, hu⟩ := List.mem_filterMap.mp hr
      exact Registry.guarded_produces hu
  have hunit {p : Path} (hp : p ∈ paths) {u : SourceUnit} (hu : t.loadUnit p = .ok u) :
      u ∈ paths.filterMap fun p => (t.loadUnit p).toOption :=
    List.mem_filterMap.mpr ⟨p, hp, by rw [hu]; rfl⟩
  have hskipped : ∀ p ∈ paths, ∀ name, Skipped t reg p name →
      ∃ f ∈ (reg.aggregate results false).findings, f.rule = Rule.modelError.id ∧
        f.unit = name ∧ f.severity = .error ∧ f.suppressed = false := by
    intro p hp name hskip
    obtain ⟨detail, hdetail⟩ := hskip.modelError
    have hmem : reg.modelErrorResult name detail ∈ results := by
      rw [hresults, List.mem_append, List.mem_filterMap, List.mem_filterMap]
      rcases hdetail with hrejected | ⟨u, hu, hresult⟩
      · exact Or.inl ⟨p, hp, hrejected⟩
      · exact Or.inr ⟨u, hunit hp hu, hresult⟩
    exact Registry.modelError_reported built plain hproduced hmem false
  refine ⟨hskipped, fun hexit p hp => ?_⟩
  apply evaluated_of_not_skipped (loads p hp) fun u hu => hguarded u (hunit hp hu)
  intro name hskip
  obtain ⟨f, hf, _, _, hseverity, hactive⟩ := hskipped p hp name hskip
  exact (Report.exitCode_ofFindings _ _ _).mp hexit ⟨f, hf, hactive, hseverity⟩

/-- A unit that suppresses model errors outside of its only line, and a missing document under the
same name. -/
theorem skipped_reported_under_one_name :
    let text := "\x7b\"path\":\"b.json\",\"line_lengths\":[3],\"suppressions\":[\x7b\"text\":" ++
      "\"disable engine/model-error\",\"span\":[9,1,9,2]\x7d]\x7d"
    let t : FileTree := ⟨[(["a.json"], .file (text.toList.map fun c => UInt8.ofNat c.toNat))]⟩
    let paths : List Path := [⟨["a.json"]⟩, ⟨["b.json"]⟩]
    ∃ reg, Registry.ofRules [] {} = .ok reg ∧
      ∃ units rejected, t.loadUnits reg paths = .ok (units, rejected) ∧
        let report := reg.analyze units rejected false
        report.cancelled = false ∧ report.exitCode ≠ 0 ∧
        ∃ f ∈ report.findings, f.rule = Rule.modelError.id ∧ f.unit = "b.json" ∧
          f.severity = .error ∧ f.suppressed = false := by
  intro text t paths
  obtain ⟨reg, built⟩ : ∃ reg, Registry.ofRules [] {} = .ok reg := ⟨_, rfl⟩
  have hchars : text.toList = _ :=
    (congrArg String.toList String.ofList_append.symm).trans String.toList_ofList
  have hfound : (t.loadUnit ⟨["a.json"]⟩).toOption.any
      (fun u => u.path == "b.json" && u.suppressions.length == 1 && u.fault?.isSome) = true := by
    simp only [t, hchars]
    decide +kernel
  have hmissing : t.loadUnit ⟨["b.json"]⟩ =
      .error (.rejected "b.json" ⟨.notFound "b.json", some "b.json"⟩) := rfl
  clear_value t
  obtain ⟨u, hu, hpath, e, hfault⟩ :
      ∃ u, t.loadUnit ⟨["a.json"]⟩ = .ok u ∧ u.path = "b.json" ∧ ∃ e, u.fault? = some e := by
    cases hu : t.loadUnit ⟨["a.json"]⟩ with
    | error e =>
      rw [hu] at hfound
      cases hfound
    | ok u =>
      rw [hu] at hfound
      obtain ⟨hfound, hfault⟩ := Bool.and_eq_true_iff.mp hfound
      obtain ⟨hpath, _⟩ := Bool.and_eq_true_iff.mp hfound
      exact ⟨u, rfl, beq_iff_eq.mp hpath, Option.isSome_iff_exists.mp hfault⟩
  have loads : ∀ p ∈ paths, ∀ a, t.loadUnit p ≠ .error (.abort a) := by
    intro p hp a
    rcases List.mem_pair.mp hp with rfl | rfl
    · rw [hu]
      nofun
    · rw [hmissing]
      nofun
  obtain ⟨units, rejected, hload, hreports⟩ := skipped_reported built nofun t loads
  have hunits : units = [u] := by
    rw [t.loadUnits_eq reg loads] at hload
    cases hload
    simp [paths, hu, hmissing, Except.toOption]
  obtain ⟨detail, hguarded⟩ := reg.guarded_unsound hfault
  have whole : (reg.analyze units rejected false).cancelled = false := by
    rw [hunits, Registry.analyze]
    simp only [Registry.collect, hguarded]
    rfl
  obtain ⟨hskipped, hexit⟩ := hreports _ .loop whole
  refine ⟨reg, built, units, rejected, hload, whole, ?_, ?_⟩
  · intro hzero
    obtain ⟨_, hb, _⟩ := hexit hzero ⟨["b.json"]⟩ (List.mem_cons_of_mem _ List.mem_cons_self)
    rw [hmissing] at hb
    cases hb
  · rw [← hpath]
    exact hskipped _ List.mem_cons_self _ (.unsound hu hfault)

end Conformance
