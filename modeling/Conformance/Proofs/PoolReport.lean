import Conformance.Proofs.Pool
import Conformance.Proofs.Reporting

/-!
# The reports of runs on a pool

Whatever the order of steps, the report of a run is made from whole results of units, each at most
once, and is flagged as cancelled unless it is made from all of them. A run that is never cancelled
has the report of the plain loop, since the report does not depend on the order of its results.
-/

namespace Conformance

namespace Registry
variable {reg : Registry} {unit : SourceUnit} {r : UnitResult}

theorem guarded_cases (h : (reg.guarded unit).1 = some r) :
    (reg.guarded unit).2 = (reg.evaluate unit).stopped ∧
      ((reg.evaluate unit).outcome = .ok r ∨
        ∃ detail, r = reg.modelErrorResult unit.path detail) := by
  simp only [guarded] at h ⊢
  split at h
  · rename_i hr
    cases h
    exact ⟨rfl, Or.inl hr⟩
  · cases h
    exact ⟨rfl, Or.inr ⟨_, rfl⟩⟩
  · cases h

theorem guarded_stopped (h : (reg.guarded unit).1 = some r) :
    (reg.guarded unit).2 = (reg.evaluate unit).stopped :=
  (guarded_cases h).1

theorem guarded_produces (h : (reg.guarded unit).1 = some r) : reg.Produces r := by
  rcases (guarded_cases h).2 with hr | ⟨detail, rfl⟩
  · exact .evaluated hr
  · exact .refused _ _

theorem guarded_unit (h : (reg.guarded unit).1 = some r) : r.unit = unit.path := by
  rcases (guarded_cases h).2 with hr | ⟨detail, rfl⟩
  · exact evaluate_unit hr
  · rfl

/-- A unit without parts has no findings. -/
theorem guarded_empty (reg : Registry) (path : String) :
    reg.guarded ⟨path, "", [], [], [], []⟩ = (some { unit := path, findings := [] }, false) := by
  simp [guarded, evaluate, SourceUnit.fault?, SourceUnit.firstFault?, SourceUnit.walk,
    Site.walkFrom, visits, SourceUnit.nodes, run]

/-- The plain loop collects every result, if no unit ends the run. -/
theorem collect_all {units : List SourceUnit}
    (h : ∀ u ∈ units, ∃ r, reg.guarded u = (some r, false)) :
    reg.collect false units =
      { results := units.filterMap fun u => (reg.guarded u).1, cancelled := false } := by
  induction units with
  | nil => rfl
  | cons u rest ih =>
    obtain ⟨r, hr⟩ := h u List.mem_cons_self
    have hrest := ih fun v hv => h v (List.mem_cons_of_mem u hv)
    simp only [collect, hr, hrest, List.filterMap_cons, Bool.false_eq_true, if_false]

/-- The results for units that could not be read, each given by its path and the reason. -/
def refusals (reg : Registry) (refused : List (String × String)) : List UnitResult :=
  refused.map fun r => reg.modelErrorResult r.1 r.2

/-- The report of a run over units, beside which some could not be read. -/
def reportOf (reg : Registry) (refused : List (String × String)) (units : List SourceUnit)
    (cancelled : Bool) : Report :=
  reg.analyze units (reg.refusals refused) cancelled

/-- Every result that the plain loop collects is that of one of its units. -/
theorem exists_of_mem_collect {units : List SourceUnit} {cancelled : Bool} {r : UnitResult}
    (hr : r ∈ (reg.collect cancelled units).results) :
    ∃ u ∈ units, (reg.guarded u).1 = some r := by
  induction units generalizing cancelled with
  | nil => cases hr
  | cons u rest ih =>
    cases cancelled with
    | true => cases hr
    | false =>
      simp only [collect, Bool.false_eq_true, if_false] at hr
      split at hr
      · rename_i result hresult
        rcases List.mem_cons.mp hr with rfl | hr
        · exact ⟨u, List.mem_cons_self, congrArg Prod.fst hresult⟩
        · obtain ⟨w, hw, hguarded⟩ := ih hr
          exact ⟨w, List.mem_cons_of_mem u hw, hguarded⟩
      · cases hr

theorem run_produces (reg : Registry) (refused : List (String × String)) (units : List SourceUnit)
    (cancelled : Bool) :
    ∀ r ∈ reg.refusals refused ++ (reg.collect cancelled units).results, reg.Produces r := by
  intro r hr
  rcases List.mem_append.mp hr with hr | hr
  · obtain ⟨unread, _, rfl⟩ := List.mem_map.mp hr
    exact .refused _ _
  · obtain ⟨u, _, hu⟩ := exists_of_mem_collect hr
    exact guarded_produces hu

end Registry

namespace Pool

theorem Closed.not_evaluated {k : Nat} {reg : Registry} {unit : SourceUnit} {ending : Ending}
    {acts : List (Act k × Bool)} (h : Closed reg unit ending acts) {w : Fin k}
    (hcheck : (.check w, true) ∈ acts) (set : Bool) : (.evaluate, set) ∉ acts := by
  cases ending with
  | kept result =>
    obtain ⟨_, v, seen, rfl⟩ := h
    simp at hcheck
  | dropped =>
    rcases h with ⟨v, rfl⟩ | ⟨v, seen, rfl⟩
    · simp
    · simp at hcheck
  | interrupted =>
    obtain ⟨_, v, seen, rfl⟩ := h
    simp at hcheck

theorem Lawful.not_evaluated {k : Nat} {reg : Registry} {unit : SourceUnit} {stage : Stage k}
    {acts : List (Act k × Bool)} (h : Lawful reg unit stage acts) {w : Fin k}
    (hcheck : (.check w, true) ∈ acts) (set : Bool) : (.evaluate, set) ∉ acts := by
  cases stage with
  | waiting =>
    cases h
    cases hcheck
  | admitted v =>
    cases h
    simp at hcheck
  | evaluated v result =>
    obtain ⟨_, seen, rfl⟩ := h
    simp at hcheck
  | finished ending => exact Closed.not_evaluated h hcheck set
  | collected ending =>
    obtain ⟨seen, before, rfl, h⟩ := h
    simp only [List.mem_cons, Prod.mk.injEq, reduceCtorEq, false_and, false_or] at hcheck ⊢
    exact Closed.not_evaluated h hcheck set

section Runs
variable {k : Nat} {reg : Registry} {units : List SourceUnit} {earlier : List UnitResult}
variable {cancelled : Bool} {log : Log units.length k} {t : State units.length k}
variable (run : Run reg units (State.start earlier cancelled) log t)
include run

/-- A unit that adds its result passed both checks while the cancel event was unset. -/
theorem Run.trail_of_harvested {i : Fin units.length} (h : (t.stage i).Harvested) :
    ∃ r w seen taken, result? reg units i = some r ∧
      trail i log =
        [(.collect, taken), (.recheck, false), (.evaluate, seen), (.check w, false)] := by
  obtain ⟨r, hstage⟩ := h
  have hlaw := run.lawful i
  rw [hstage] at hlaw
  obtain ⟨taken, before, htrail, hr, w, seen, rfl⟩ := hlaw
  exact ⟨r, w, seen, taken, hr, htrail⟩

theorem Run.not_harvested_of_recheck {i : Fin units.length}
    (h : (.act i .recheck, true) ∈ log) : ¬ (t.stage i).Harvested := by
  intro hharvest
  obtain ⟨_, _, _, _, _, htrail⟩ := run.trail_of_harvested hharvest
  have hmem := mem_trail_iff.mpr h
  rw [htrail] at hmem
  simp at hmem

theorem Run.not_evaluated_of_check {i : Fin units.length} {w : Fin k}
    (h : (.act i (.check w), true) ∈ log) (set : Bool) : (.act i .evaluate, set) ∉ log := by
  intro heval
  exact (run.lawful i).not_evaluated (mem_trail_iff.mpr h) set (mem_trail_iff.mpr heval)

/-- If the cancel event is unset at the end, nothing was dropped and nothing interrupted. -/
theorem Run.harvested_of_uncancelled (complete : t.Complete) (h : t.cancel = false)
    (i : Fin units.length) : (t.stage i).Harvested := by
  rcases complete with ⟨hmain, hall⟩ | habort
  · obtain ⟨ending, hstage⟩ := hall i
    cases ending with
    | kept r => exact ⟨r, hstage⟩
    | interrupted => exact absurd hmain (run.main_of_interrupted hstage)
    | dropped =>
      have hlaw := run.lawful i
      rw [hstage] at hlaw
      obtain ⟨taken, before, htrail, hclosed⟩ := hlaw
      have hseen : ∃ a, (a, true) ∈ trail i log := by
        rw [htrail]
        rcases hclosed with ⟨w, rfl⟩ | ⟨w, seen, rfl⟩
        · exact ⟨.check w, by simp⟩
        · exact ⟨.recheck, by simp⟩
      obtain ⟨a, ha⟩ := hseen
      rw [run.cancel_of_seen (mem_trail_iff.mp ha)] at h
      cases h
  · rw [run.cancel_of_aborted habort] at h
    cases h

/-- Without cancellation no unit asks for the end of the run. -/
theorem Run.guarded_of_uncancelled (complete : t.Complete) (h : t.cancel = false) :
    ∀ u ∈ units, ∃ r, reg.guarded u = (some r, false) := by
  intro u hu
  obtain ⟨i, hi, rfl⟩ := List.mem_iff_getElem.mp hu
  obtain ⟨r, w, seen, taken, hr, htrail⟩ :=
    run.trail_of_harvested (run.harvested_of_uncancelled complete h ⟨i, hi⟩)
  have heval : (.act ⟨i, hi⟩ .evaluate, seen) ∈ log := by
    rw [← mem_trail_iff, htrail]
    simp
  refine ⟨r, Prod.ext hr ((Registry.guarded_stopped hr).trans ?_)⟩
  cases hstop : (reg.evaluate units[i]).stopped with
  | false => rfl
  | true =>
    rw [run.cancel_of_stopped heval hstop] at h
    cases h

theorem Run.mem_results_of_uncancelled (complete : t.Complete) (h : t.cancel = false)
    (r : UnitResult) :
    r ∈ t.results ↔ r ∈ earlier ++ units.filterMap fun u => (reg.guarded u).1 := by
  obtain ⟨S, _, hmem, hresults⟩ := run.harvest
  rw [hresults, List.mem_append, List.mem_append, List.mem_filterMap, List.mem_filterMap]
  apply or_congr Iff.rfl
  constructor
  · rintro ⟨i, _, hi⟩
    exact ⟨units[i], List.getElem_mem _, hi⟩
  · rintro ⟨u, hu, hr⟩
    obtain ⟨i, hi, rfl⟩ := List.mem_iff_getElem.mp hu
    exact ⟨⟨i, hi⟩, (hmem _).mpr (run.harvested_of_uncancelled complete h _), hr⟩

/-- The report of a run is made from the earlier results and the whole results of some of the units,
each of which passed its second check. It leaves out a unit whose second check found the cancel
event set, and a unit whose first check found it set is never evaluated. A report that is not
flagged as cancelled leaves out no unit. -/
theorem report_of_whole_results (complete : t.Complete) :
    ∃ S : List (Fin units.length), S.Nodup ∧
      (∀ i ∈ S, (result? reg units i).isSome = true ∧ (.act i .recheck, false) ∈ log) ∧
      t.report reg = reg.aggregate (earlier ++ S.filterMap (result? reg units)) t.cancel ∧
      (∀ i, (.act i .recheck, true) ∈ log → i ∉ S) ∧
      (∀ i w, (.act i (.check w), true) ∈ log → ∀ set, (.act i .evaluate, set) ∉ log) ∧
      ((t.report reg).cancelled = false → ∀ i, i ∈ S) := by
  obtain ⟨S, hnodup, hmem, hresults⟩ := run.harvest
  refine ⟨S, hnodup, ?_, ?_, ?_, fun i w h => run.not_evaluated_of_check h, ?_⟩
  · intro i hi
    obtain ⟨r, _, _, _, hr, htrail⟩ := run.trail_of_harvested ((hmem i).mp hi)
    refine ⟨Option.isSome_iff_exists.mpr ⟨r, hr⟩, ?_⟩
    rw [← mem_trail_iff, htrail]
    simp
  · rw [State.report, hresults]
  · exact fun i h hi => run.not_harvested_of_recheck h ((hmem i).mp hi)
  · exact fun h i => (hmem i).mpr (run.harvested_of_uncancelled complete h i)

end Runs

/-- The cancel event is set when the first unit has passed both checks, the second is evaluated and
the third not yet taken up. -/
theorem report_of_late_cancel :
    let unit (path : String) : SourceUnit := ⟨path, "", [], [], [], []⟩
    let units := [unit "A", unit "B", unit "C"]
    let reg : Registry := { config := {}, entries := Registry.engineEntries }
    ∃ (log : Log units.length 2) (t : State units.length 2),
      Run reg units (State.start [] false) log t ∧ t.Complete ∧
      (.act ⟨1, by decide⟩ .recheck, true) ∈ log ∧ (.act ⟨2, by decide⟩ (.check 0), true) ∈ log ∧
      (∃ S : List (Fin units.length), ⟨1, by decide⟩ ∉ S ∧
        t.report reg = reg.aggregate (S.filterMap (result? reg units)) true) ∧
      ∀ set, (.act ⟨2, by decide⟩ .evaluate, set) ∉ log := by
  intro unit units reg
  let a : Fin units.length := ⟨0, by decide⟩
  let b : Fin units.length := ⟨1, by decide⟩
  let c : Fin units.length := ⟨2, by decide⟩
  have result (path : String) :
      (reg.guarded (unit path)).1 = some { unit := path, findings := [] } := by
    rw [reg.guarded_empty]
  have going (path : String) : (reg.evaluate (unit path)).stopped = false := by
    rw [← Registry.guarded_stopped (result path), reg.guarded_empty]
  have unset : (false || (reg.evaluate (unit "A")).stopped ||
      (reg.evaluate (unit "B")).stopped) = false := by
    rw [going, going]
    rfl
  have before : Run reg units (State.start [] false : State units.length 2) _ _ :=
    Run.start.step (.check (i := a) (w := 0) (by decide) (.enter rfl))
      |>.step (.check (i := b) (w := 1) (by decide) (.enter rfl))
      |>.step (.evaluate (i := a) (.evaluate (result "A")))
      |>.step (.evaluate (i := b) (.evaluate (result "B")))
      |>.step (.recheck (i := a) (.keep unset))
  have after := before.step .cancel
    |>.step (.recheck (i := b) (.drop rfl))
    |>.step (.check (i := c) (w := 0) (by decide) (.skip rfl))
    |>.step (.collect (i := b) rfl rfl)
    |>.step (.collect (i := a) rfl rfl)
    |>.step (.collect (i := c) rfl rfl)
  obtain ⟨log, t, run, complete, hcancel, hrecheck, hcheck⟩ :
      ∃ (log : Log units.length 2) (t : State units.length 2),
        Run reg units (State.start [] false) log t ∧ t.Complete ∧ t.cancel = true ∧
        (.act b .recheck, true) ∈ log ∧ (.act c (.check 0), true) ∈ log := by
    refine ⟨_, _, after, Or.inl ⟨rfl, ?_⟩, rfl, ?_, ?_⟩
    · intro j
      match j with
      | ⟨0, _⟩ => exact ⟨_, rfl⟩
      | ⟨1, _⟩ => exact ⟨_, rfl⟩
      | ⟨2, _⟩ => exact ⟨_, rfl⟩
    · exact .tail _ (.tail _ (.tail _ (.tail _ (.head _))))
    · exact .tail _ (.tail _ (.tail _ (.head _)))
  obtain ⟨S, _, _, hreport, hdropped, hskipped, _⟩ := report_of_whole_results run complete
  rw [hcancel] at hreport
  exact ⟨log, t, run, complete, hrecheck, hcheck, ⟨S, hdropped b hrecheck, hreport⟩,
    hskipped c 0 hcheck⟩

theorem idle_put {n k : Nat} {s : State n k} {w : Fin k} {stage : Stage k} (i : Fin n)
    (h : ∀ j, (s.stage j).worker? ≠ some w) (hstage : stage.worker? ≠ some w) (j : Fin n) :
    ((s.put i stage).stage j).worker? ≠ some w := by
  by_cases hj : j = i
  · rwa [hj, State.stage_put]
  · have hstay : (s.put i stage).stage j = s.stage j := Function.update_of_ne hj _ _
    rw [hstay]
    exact h j

/-- The results need not come in the order of the units. -/
theorem exists_crossing_run {reg : Registry} {u v : SourceUnit} {p q : UnitResult}
    (hu : reg.guarded u = (some p, false)) (hv : reg.guarded v = (some q, false))
    (earlier : List UnitResult) :
    ∃ (log : Log [u, v].length 2) (t : State [u, v].length 2),
      Run reg [u, v] (State.start earlier false) log t ∧ t.Complete ∧ t.cancel = false ∧
        t.results = earlier ++ [q, p] := by
  have hp : (reg.guarded u).1 = some p := by rw [hu]
  have hq : (reg.guarded v).1 = some q := by rw [hv]
  have hustop : (reg.evaluate u).stopped = false := by rw [← Registry.guarded_stopped hp, hu]
  have hvstop : (reg.evaluate v).stopped = false := by rw [← Registry.guarded_stopped hq, hv]
  let first : Fin [u, v].length := ⟨0, Nat.zero_lt_two⟩
  let second : Fin [u, v].length := ⟨1, Nat.one_lt_two⟩
  have idle (w : Fin 2) (j : Fin [u, v].length) :
      ((State.start earlier false : State _ 2).stage j).worker? ≠ some w := nofun
  have taken : Run reg [u, v] (State.start earlier false : State [u, v].length 2) _ _ :=
    Run.start.step (.check (i := first) (idle 0) (.enter rfl))
      |>.step (.check (i := second) (idle_put first (idle 1) nofun) (.enter rfl))
  have unset : (false || (reg.evaluate v).stopped || (reg.evaluate u).stopped) = false := by
    rw [hustop, hvstop]
    rfl
  have evaluated :=
    taken.step (.evaluate (i := second) (.evaluate hq))
      |>.step (.evaluate (i := first) (.evaluate hp))
  have checked :=
    evaluated.step (.recheck (i := second) (.keep unset))
      |>.step (.recheck (i := first) (.keep unset))
  have collected :=
    checked.step (.collect (i := second) rfl rfl) |>.step (.collect (i := first) rfl rfl)
  refine ⟨_, _, collected, Or.inl ⟨rfl, ?_⟩, unset, ?_⟩
  · intro j
    match j with
    | ⟨0, _⟩ => exact ⟨_, rfl⟩
    | ⟨1, _⟩ => exact ⟨_, rfl⟩
  · exact List.append_assoc _ _ _

/-- A run that is never cancelled has the report of the plain loop over the same units, and the
report names exactly their paths and those of the earlier results. -/
theorem report_eq_analyze {rules : List (Draft × Value)} {config : Config} {reg : Registry}
    (built : Registry.ofRules rules config = .ok reg) {units : List SourceUnit}
    {earlier : List UnitResult} (produced : ∀ r ∈ earlier, reg.Produces r) {k : Nat}
    {log : Log units.length k} {t : State units.length k}
    (run : Run reg units (State.start earlier false) log t) (complete : t.Complete)
    (uncancelled : t.cancel = false) :
    t.report reg = reg.analyze units earlier false ∧ (t.report reg).cancelled = false ∧
      (t.report reg).units.Nodup ∧
      ∀ path, path ∈ (t.report reg).units ↔
        (∃ u ∈ units, u.path = path) ∨ ∃ r ∈ earlier, r.unit = path := by
  have hguarded := run.guarded_of_uncancelled complete uncancelled
  have hsame := run.mem_results_of_uncancelled complete uncancelled
  have hproduced : ∀ r ∈ t.results, reg.Produces r := by
    intro r hr
    rcases List.mem_append.mp ((hsame r).mp hr) with hr | hr
    · exact produced r hr
    · obtain ⟨u, _, hu⟩ := List.mem_filterMap.mp hr
      exact Registry.guarded_produces hu
  have hagree := Registry.severitiesAgree_of_produces built hproduced
  refine ⟨?_, uncancelled, (mergeUnits_ordered t.results).nodup, ?_⟩
  · rw [State.report, uncancelled, Registry.aggregate_eq hsame hagree, Registry.analyze,
      Registry.collect_all hguarded]
  · intro path
    change path ∈ mergeUnits t.results ↔ _
    simp only [mem_mergeUnits, hsame, List.mem_append, List.mem_filterMap]
    constructor
    · rintro ⟨r, hr | ⟨u, hu, hr⟩, rfl⟩
      · exact Or.inr ⟨r, hr, rfl⟩
      · exact Or.inl ⟨u, hu, (Registry.guarded_unit hr).symm⟩
    · rintro (⟨u, hu, rfl⟩ | ⟨r, hr, rfl⟩)
      · obtain ⟨r, hr⟩ := hguarded u hu
        have hfst : (reg.guarded u).1 = some r := congrArg Prod.fst hr
        exact ⟨r, Or.inr ⟨u, hu, hfst⟩, Registry.guarded_unit hfst⟩
      · exact ⟨r, Or.inl hr, rfl⟩

/-- Two units that are collected in the other order, after one that could not be read. -/
theorem report_of_crossing_run :
    let unit (path : String) : SourceUnit := ⟨path, "", [], [], [], []⟩
    let units := [unit "A", unit "B"]
    ∃ reg, Registry.ofRules [] {} = .ok reg ∧
      let earlier := [reg.modelErrorResult "C" "no text"]
      ∃ (log : Log units.length 2) (t : State units.length 2),
        Run reg units (State.start earlier false) log t ∧ t.Complete ∧ t.cancel = false ∧
        t.results ≠ earlier ++ (reg.collect false units).results ∧
        t.report reg = reg.analyze units earlier false ∧
        ∀ path, path ∈ (t.report reg).units ↔ path = "A" ∨ path = "B" ∨ path = "C" := by
  intro unit units
  obtain ⟨reg, built⟩ : ∃ reg, Registry.ofRules [] {} = .ok reg := ⟨_, rfl⟩
  have hA := reg.guarded_empty "A"
  have hB := reg.guarded_empty "B"
  obtain ⟨log, t, run, complete, unset, hresults⟩ :=
    exists_crossing_run hA hB [reg.modelErrorResult "C" "no text"]
  have produced : ∀ r ∈ [reg.modelErrorResult "C" "no text"], reg.Produces r := by
    intro r hr
    rw [List.mem_singleton.mp hr]
    exact .refused _ _
  obtain ⟨hreport, _, _, hunits⟩ := report_eq_analyze built produced run complete unset
  refine ⟨reg, built, log, t, run, complete, unset, ?_, hreport, ?_⟩
  · rw [hresults]
    simp [units, unit, Registry.collect, hA, hB]
  · intro path
    rw [hunits]
    simp [Registry.modelErrorResult, eq_comm, or_assoc]

end Pool

end Conformance
