import Conformance.Proofs.Suppressions
import Mathlib.Algebra.GroupWithZero.Nat

/-!
# Units that do not share a path

The path of the unit comes first in the order of findings and is part of their identity. So where
every part of a list of findings is about a unit of its own, sorting and thinning out the whole
comes to the same as doing so with each part and putting the outcomes one after another, by path.
-/

namespace Conformance

theorem Finding.compareKey_lt_of_unit_lt {a b : Finding}
    (h : Text.codes a.unit < Text.codes b.unit) : compareKey a b = .lt := by
  unfold compareKey
  rw [Text.compare_codes_eq_lt.mpr h]
  rfl

theorem SeveritiesAgree.subset {findings others : List Finding} (agree : SeveritiesAgree findings)
    (h : others ⊆ findings) : SeveritiesAgree others :=
  fun f hf g hg => agree f (h hf) g (h hg)

section Parts
variable {α : Type} {xs : List α} {name : α → String} {part : α → List Finding}
variable (ordered : xs.Pairwise fun x y => Text.codes (name x) < Text.codes (name y))
variable (own : ∀ x ∈ xs, ∀ f ∈ part x, f.unit = name x)
include ordered own

theorem flatMap_mergeFindings_ordered :
    (xs.flatMap fun x => mergeFindings (part x)).Pairwise fun a b => a.compareKey b = .lt := by
  apply List.pairwise_flatMap.mpr
  refine ⟨fun x _ => mergeFindings_ordered (part x), ?_⟩
  apply ordered.imp_of_mem
  intro x y hx hy hlt a ha b hb
  apply Finding.compareKey_lt_of_unit_lt
  rw [own x hx a (mem_of_mem_mergeFindings ha), own y hy b (mem_of_mem_mergeFindings hb)]
  exact hlt

/-- Findings of one identity are in one part. -/
theorem mem_part_of_identity_eq {x : α} (hx : x ∈ xs) {f g : Finding} (hf : f ∈ part x)
    (hg : g ∈ xs.flatMap part) (hid : g.identity = f.identity) : g ∈ part x := by
  obtain ⟨y, hy, hg⟩ := List.mem_flatMap.mp hg
  have hunit : name y = name x := by
    rw [← own x hx f hf, ← own y hy g hg]
    exact (Finding.identity_eq_iff.mp hid).2.1
  have hnodup : (xs.map name).Nodup :=
    List.pairwise_map.mpr (ordered.imp fun hlt heq => ne_of_lt hlt (congrArg Text.codes heq))
  rwa [List.inj_on_of_nodup_map hnodup hx hy hunit.symm]

theorem mergeFindings_flatMap (agree : SeveritiesAgree (xs.flatMap part)) :
    mergeFindings (xs.flatMap part) = xs.flatMap fun x => mergeFindings (part x) := by
  have hagree {x : α} (hx : x ∈ xs) : SeveritiesAgree (part x) :=
    agree.subset fun f hf => List.mem_flatMap.mpr ⟨x, hx, hf⟩
  apply (mergeFindings_ordered _).eq_of_mem_iff (flatMap_mergeFindings_ordered ordered own)
  intro f
  rw [agree.mem_mergeFindings_iff]
  constructor
  · rintro ⟨hf, hleast⟩
    obtain ⟨x, hx, hfx⟩ := List.mem_flatMap.mp hf
    refine List.mem_flatMap.mpr ⟨x, hx, (hagree hx).mem_mergeFindings_iff.mpr ⟨hfx, ?_⟩⟩
    intro g hg
    exact hleast g (List.mem_flatMap.mpr ⟨x, hx, hg⟩)
  · intro hf
    obtain ⟨x, hx, hf⟩ := List.mem_flatMap.mp hf
    have hfx := mem_of_mem_mergeFindings hf
    refine ⟨List.mem_flatMap.mpr ⟨x, hx, hfx⟩, ?_⟩
    intro g hg hid
    exact mergeFindings_least hf (mem_part_of_identity_eq ordered own hx hfx hg hid) hid

end Parts

namespace Registry

/-- The findings of one unit, with its directives applied. -/
def findingsOf (reg : Registry) (unit : SourceUnit) : List Finding :=
  (reg.results [unit]).flatMap reg.applyDirectives

variable {reg : Registry}

theorem results_singleton {unit : SourceUnit} {r : UnitResult}
    (h : (reg.evaluate unit).outcome = .ok r) : reg.results [unit] = [r] := by
  simp [results, h, Except.toOption]

theorem flatMap_results (units : List SourceUnit) :
    (reg.results units).flatMap reg.applyDirectives = units.flatMap reg.findingsOf := by
  induction units with
  | nil => rfl
  | cons u rest ih =>
    have hsplit : reg.results (u :: rest) = reg.results [u] ++ reg.results rest := by
      unfold results
      rw [← List.filterMap_append]
      rfl
    rw [hsplit, List.flatMap_append, ih, List.flatMap_cons]
    rfl

theorem sorted_by_path {units : List SourceUnit} (distinct : (units.map (·.path)).Nodup) :
    (units.mergeSort fun u v => Text.atMost u.path v.path).Pairwise fun u v =>
      Text.codes u.path < Text.codes v.path := by
  have hsorted := Text.pairwise_mergeSort_atMost (fun u : SourceUnit => u.path) units
  have hperm := (List.mergeSort_perm units fun u v => Text.atMost u.path v.path).map (·.path)
  have hne := List.pairwise_map.mp (hperm.nodup_iff.mpr distinct)
  exact (hsorted.and hne).imp fun h => Text.codes_lt_of_atMost h.1 h.2

section Built
variable {rules : List (Draft × Value)} {config : Config}
variable (built : ofRules rules config = .ok reg)
include built

theorem unit_of_mem_findingsOf {u : SourceUnit} {f : Finding} (hf : f ∈ reg.findingsOf u) :
    f.unit = u.path := by
  obtain ⟨r, hr, hf⟩ := List.mem_flatMap.mp hf
  obtain ⟨v, hv, hresult⟩ := mem_results.mp hr
  cases List.mem_singleton.mp hv
  rcases List.mem_append.mp hf with hf | hf
  · obtain ⟨g, hg, rfl⟩ := List.mem_map.mp hf
    have hunit := (evaluated_finding built hresult hg).1
    split
    · exact hunit
    · exact hunit
  · obtain ⟨d, _, e, _, rfl⟩ := mem_directiveFindings.mp hf
    exact evaluate_unit hresult

theorem findings_of_distinct {units : List SourceUnit} (distinct : (units.map (·.path)).Nodup)
    (cancelled : Bool) :
    (reg.aggregate (reg.results units) cancelled).findings =
      (units.mergeSort fun u v => Text.atMost u.path v.path).flatMap fun u =>
        (reg.aggregate (reg.results [u]) cancelled).findings := by
  have hperm := List.mergeSort_perm units fun u v => Text.atMost u.path v.path
  have hproduced : ∀ r ∈ reg.results units, reg.Produces r := by
    intro r hr
    obtain ⟨u, _, hu⟩ := mem_results.mp hr
    exact .evaluated hu
  have agree := severitiesAgree_of_produces built hproduced
  rw [flatMap_results] at agree
  have hmem : ∀ f, f ∈ units.flatMap reg.findingsOf ↔
      f ∈ (units.mergeSort fun u v => Text.atMost u.path v.path).flatMap reg.findingsOf := by
    intro f
    simp only [List.mem_flatMap, hperm.mem_iff]
  calc (reg.aggregate (reg.results units) cancelled).findings
      = mergeFindings (units.flatMap reg.findingsOf) :=
        congrArg mergeFindings (flatMap_results units)
    _ = mergeFindings
          ((units.mergeSort fun u v => Text.atMost u.path v.path).flatMap reg.findingsOf) :=
        agree.mergeFindings_eq hmem
    _ = (units.mergeSort fun u v => Text.atMost u.path v.path).flatMap fun u =>
          mergeFindings (reg.findingsOf u) :=
        mergeFindings_flatMap (sorted_by_path distinct)
          (fun u _ f hf => unit_of_mem_findingsOf built hf) (agree.congr hmem)

/-- The number of reported findings of some sort is the sum over the units alone. -/
theorem countP_of_distinct {units : List SourceUnit} (distinct : (units.map (·.path)).Nodup)
    (cancelled : Bool) (p : Finding → Bool) :
    (reg.aggregate (reg.results units) cancelled).findings.countP p =
      (units.map fun u => (reg.aggregate (reg.results [u]) cancelled).findings.countP p).sum := by
  have hperm := List.mergeSort_perm units fun u v => Text.atMost u.path v.path
  rw [findings_of_distinct built distinct, List.countP_flatMap]
  exact (hperm.map _).sum_nat

/-- If no two units share a path, the findings of the report are those of the reports on each unit
alone, one report after another by path, and each count is the sum of theirs. -/
theorem aggregate_units_apart {units : List SourceUnit} (distinct : (units.map (·.path)).Nodup)
    (cancelled : Bool) :
    let report := reg.aggregate (reg.results units) cancelled
    let alone (u : SourceUnit) := reg.aggregate (reg.results [u]) cancelled
    (report.findings =
      (units.mergeSort fun u v => Text.atMost u.path v.path).flatMap fun u => (alone u).findings) ∧
    (∀ level, report.summary.count level =
      (units.map fun u => (alone u).summary.count level).sum) ∧
    report.summary.suppressed = (units.map fun u => (alone u).summary.suppressed).sum := by
  intro report alone
  have hcount (results : List UnitResult) (level : Severity) :
      (reg.aggregate results cancelled).summary.count level =
        (reg.aggregate results cancelled).findings.countP fun f =>
          !f.suppressed && f.severity == level := Summary.count_ofFindings _ level
  have hsuppressed (results : List UnitResult) :
      (reg.aggregate results cancelled).summary.suppressed =
        (reg.aggregate results cancelled).findings.countP (·.suppressed) :=
    Summary.suppressed_ofFindings _
  refine ⟨findings_of_distinct built distinct cancelled, ?_, ?_⟩
  · intro level
    simp only [report, alone, hcount]
    exact countP_of_distinct built distinct cancelled _
  · simp only [report, alone, hsuppressed]
    exact countP_of_distinct built distinct cancelled _

end Built

/-- Two units, not in the order of their paths; only the first suppresses its finding. -/
theorem aggregate_units_apart_oneType :
    let first := oneType "B" [⟨"disable all", .ofInts 1 1 1 21⟩]
    let second := oneType "A" []
    let found (path : String) (suppressed : Bool) : Finding := {
      rule := "naming/every-type", severity := .warning, unit := path, span := .ofInts 1 1 1 9
      message := "a type", suppressed }
    ∃ reg, ofRules [(everyType.toDraft, .null)] {} = .ok reg ∧
      ([first, second].map (·.path)).Nodup ∧
      let report := reg.aggregate (reg.results [first, second]) false
      report.findings = [found "A" false, found "B" true] ∧
        report.summary.warning = 1 ∧ report.summary.suppressed = 1 := by
  intro first second found
  obtain ⟨reg, built⟩ : ∃ reg, ofRules [(everyType.toDraft, .null)] {} = .ok reg := ⟨_, rfl⟩
  have distinct : ([first, second].map (·.path)).Nodup := by decide
  have hfirst : first.fault? = none := by
    rw [SourceUnit.fault?, SourceUnit.firstFault?, walk_oneType]
    rfl
  have hsecond : second.fault? = none := by
    rw [SourceUnit.fault?, SourceUnit.firstFault?, walk_oneType]
    rfl
  have hmerge (f : Finding) : mergeFindings [f] = [f] := by simp [mergeFindings, firstsFrom]
  have hmuted : (reg.aggregate (reg.results [first]) false).findings = [found "B" true] := by
    have happly : reg.applyDirectives ⟨"B", [found "B" false], first.suppressions, false⟩ =
        [found "B" true] := rfl
    rw [aggregate, results_singleton (evaluate_oneType built hfirst), List.flatMap_singleton]
    exact (congrArg mergeFindings happly).trans (hmerge _)
  have hactive : (reg.aggregate (reg.results [second]) false).findings = [found "A" false] := by
    rw [aggregate, results_singleton (evaluate_oneType built hsecond), List.flatMap_singleton]
    exact hmerge _
  have hsummary (results : List UnitResult) : (reg.aggregate results false).summary =
      Summary.ofFindings (reg.aggregate results false).findings := rfl
  obtain ⟨hfindings, hcounts, hsuppressed⟩ := aggregate_units_apart built distinct false
  have hafter : Text.atMost "B" "A" = false := by decide
  have hsorted : [first, second].mergeSort (fun u v => Text.atMost u.path v.path) =
      [second, first] := by
    simp [List.mergeSort, List.MergeSort.Internal.splitInTwo, first, second, oneType, hafter]
  refine ⟨reg, built, distinct, ?_, ?_, ?_⟩
  · rw [hfindings, hsorted]
    simp [hmuted, hactive]
  · refine (hcounts .warning).trans ?_
    simp only [hsummary, List.map_cons, List.map_nil, hmuted, hactive]
    rfl
  · rw [hsuppressed]
    simp only [hsummary, List.map_cons, List.map_nil, hmuted, hactive]
    rfl

end Registry

end Conformance
