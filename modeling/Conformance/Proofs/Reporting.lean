import Conformance.Proofs.SeverityStamps
import Mathlib.Data.List.Count
import Mathlib.Data.String.Basic

/-!
# What a report says of the results it is made from

The report of any results lists, strictly ordered and once each, the least findings of the
identities that occur, names the units, and counts what it lists. Since each part depends only on
which results there are, neither the order in which results arrive nor their repetition is seen in
the report.
-/

namespace Conformance

/-- In a sorted list what is left of the later occurrences is greater, not only different. -/
theorem eraseDups_ordered :
    ∀ {names : List String}, (names.Pairwise fun a b => Text.atMost a b = true) →
      names.eraseDups.Pairwise fun a b => Text.codes a < Text.codes b
  | [], _ => .nil
  | name :: rest, h => by
    obtain ⟨hle, hrest⟩ := List.pairwise_cons.mp h
    rw [List.eraseDups_cons]
    refine List.pairwise_cons.mpr ⟨?_, eraseDups_ordered (hrest.sublist List.filter_sublist)⟩
    intro other hother
    obtain ⟨hmem, hne⟩ := List.mem_filter.mp (List.mem_eraseDups.mp hother)
    have hne' : name ≠ other := fun heq => by simp [heq] at hne
    exact Text.codes_lt_of_atMost (hle other hmem) hne'
termination_by names => names.length
decreasing_by exact Nat.lt_succ_of_le (List.length_filter_le _ _)

instance : Std.Irrefl fun a b : String => Text.codes a < Text.codes b where
  irrefl a := lt_irrefl (Text.codes a)

instance : Std.Antisymm fun a b : String => Text.codes a < Text.codes b where
  antisymm _ _ hab hba := absurd (hab.trans hba) (lt_irrefl _)

theorem mergeUnits_ordered (results : List UnitResult) :
    (mergeUnits results).Pairwise fun a b => Text.codes a < Text.codes b :=
  eraseDups_ordered (Text.pairwise_mergeSort_atMost (fun name : String => name) _)

theorem mem_mergeUnits {results : List UnitResult} {name : String} :
    name ∈ mergeUnits results ↔ ∃ r ∈ results, r.unit = name := by
  simp [mergeUnits, List.mem_eraseDups]

theorem mergeUnits_eq {xs ys : List UnitResult} (same : ∀ r, r ∈ xs ↔ r ∈ ys) :
    mergeUnits xs = mergeUnits ys := by
  apply (mergeUnits_ordered xs).eq_of_mem_iff (mergeUnits_ordered ys)
  intro name
  simp only [mem_mergeUnits, same]

namespace Summary

/-- A number that each finding raises by one or leaves alone comes to the number of findings that
raise it. -/
theorem measure_ofFindings (measure : Summary → Nat) (raises : Finding → Bool)
    (step : ∀ s f, measure (s.add f) = measure s + if raises f then 1 else 0)
    (findings : List Finding) :
    measure (ofFindings findings) = measure {} + findings.countP raises := by
  have go : ∀ s, measure (findings.foldl add s) = measure s + findings.countP raises := by
    induction findings with
    | nil => intro s; rfl
    | cons f rest ih =>
      intro s
      rw [List.foldl_cons, ih, step, List.countP_cons]
      omega
  exact go {}

theorem count_ofFindings (findings : List Finding) (level : Severity) :
    (ofFindings findings).count level =
      findings.countP fun f => !f.suppressed && f.severity == level := by
  rw [measure_ofFindings (·.count level) (fun f => !f.suppressed && f.severity == level)]
  · cases level <;> exact Nat.zero_add _
  · intro s f
    unfold add
    cases f.suppressed <;> cases f.severity <;> cases level <;> rfl

theorem suppressed_ofFindings (findings : List Finding) :
    (ofFindings findings).suppressed = findings.countP (·.suppressed) := by
  rw [measure_ofFindings (·.suppressed) (·.suppressed)]
  · exact Nat.zero_add _
  · intro s f
    unfold add
    cases f.suppressed <;> cases f.severity <;> rfl

theorem total_ofFindings (findings : List Finding) :
    (ofFindings findings).total + (ofFindings findings).suppressed = findings.length := by
  rw [measure_ofFindings (fun s => s.total + s.suppressed) (fun _ => true)]
  · rw [List.countP_true]
    exact Nat.zero_add _
  · intro s f
    unfold add total
    cases f.suppressed <;> cases f.severity <;>
      simp only [Bool.false_eq_true, if_true, if_false] <;> omega

end Summary

theorem Report.exitCode_ofFindings (findings : List Finding) (units : List String)
    (cancelled : Bool) :
    (Report.ofFindings findings units cancelled).exitCode = 0 ↔
      ¬ ∃ f ∈ findings, f.suppressed = false ∧ f.severity = .error := by
  have hcount : (Summary.ofFindings findings).error =
      findings.countP fun f => !f.suppressed && f.severity == .error :=
    Summary.count_ofFindings findings .error
  have hexit : (Report.ofFindings findings units cancelled).exitCode = 0 ↔
      (Summary.ofFindings findings).error = 0 := by
    simp [Report.exitCode, Report.passed, Report.ofFindings]
  rw [hexit, hcount, List.countP_eq_zero]
  simp

/-- What a report has to be, given the findings and the units that it is made from. -/
structure Report.Faithful (findings : List Finding) (units : List String) (r : Report) : Prop where
  ordered : r.findings.Pairwise fun a b => a.compareKey b = .lt
  distinct : r.findings.Pairwise fun a b => a.identity ≠ b.identity
  complete : ∀ f ∈ findings, ∃ g ∈ r.findings, g.identity = f.identity
  genuine : ∀ g ∈ r.findings, g ∈ findings
  least : ∀ g ∈ r.findings, ∀ f ∈ findings, f.identity = g.identity → g.precedes f = true
  units_ordered : r.units.Pairwise fun a b => Text.codes a < Text.codes b
  mem_units : ∀ name, name ∈ r.units ↔ name ∈ units
  counts : ∀ level, r.summary.count level =
    r.findings.countP fun f => !f.suppressed && f.severity == level
  suppressed : r.summary.suppressed = r.findings.countP (·.suppressed)
  total : r.summary.error + r.summary.warning + r.summary.info + r.summary.suppressed =
    r.findings.length
  passes : r.exitCode = 0 ↔ ¬ ∃ f ∈ r.findings, f.suppressed = false ∧ f.severity = .error

namespace Registry

/-- Sorting, thinning out and counting neither lose nor invent anything. -/
theorem aggregate_faithful (reg : Registry) (results : List UnitResult) (cancelled : Bool) :
    (reg.aggregate results cancelled).Faithful (results.flatMap reg.applyDirectives)
      (results.map (·.unit)) where
  ordered := mergeFindings_ordered _
  distinct := mergeFindings_distinct _
  complete f hf := by
    obtain ⟨g, hg, hid, _⟩ := exists_mergeFindings_precedes hf
    exact ⟨g, hg, hid⟩
  genuine g hg := mem_of_mem_mergeFindings hg
  least g hg f hf h := mergeFindings_least hg hf h
  units_ordered := mergeUnits_ordered results
  mem_units name := by rw [List.mem_map]; exact mem_mergeUnits
  counts := Summary.count_ofFindings _
  suppressed := Summary.suppressed_ofFindings _
  total := Summary.total_ofFindings _
  passes := Report.exitCode_ofFindings _ _ _

theorem mem_flatMap_applyDirectives_congr {reg : Registry} {xs ys : List UnitResult}
    (same : ∀ r, r ∈ xs ↔ r ∈ ys) (f : Finding) :
    f ∈ xs.flatMap reg.applyDirectives ↔ f ∈ ys.flatMap reg.applyDirectives := by
  simp only [List.mem_flatMap, same]

theorem aggregate_eq {reg : Registry} {xs ys : List UnitResult} (same : ∀ r, r ∈ xs ↔ r ∈ ys)
    (agree : SeveritiesAgree (xs.flatMap reg.applyDirectives)) (cancelled : Bool) :
    reg.aggregate xs cancelled = reg.aggregate ys cancelled := by
  unfold aggregate
  rw [agree.mergeFindings_eq (mem_flatMap_applyDirectives_congr same), mergeUnits_eq same]

end Registry

end Conformance
