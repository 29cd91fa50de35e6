import Conformance.Proofs.PoolReport
import Mathlib.Algebra.BigOperators.Group.Finset.Basic
import Mathlib.Algebra.Order.BigOperators.Group.Finset
import Mathlib.Data.Fintype.Basic

/-!
# Schedules of a pool

Runs on a pool exist and end. The plain loop over the units is one of them, whatever cancels it, so
what holds of all runs holds of the loop. No run goes on forever: apart from the setting of the
cancel event, each step brings the end nearer. And no run is stuck before its end.
-/

namespace Conformance.Pool

theorem Move.from {k : Nat} {reg : Registry} {unit : SourceUnit} {set : Bool}
    {stage before after : Stage k} {a : Act k} (move : Move reg unit set before a after)
    (h : stage = before) : Move reg unit set stage a after :=
  h ▸ move

section Loop
variable {k : Nat} {reg : Registry} {units : List SourceUnit}
variable {s₀ s t : State units.length (k + 1)} {log : Log units.length (k + 1)}

/-- A plain loop before unit `m`: the units before it are done, the others untouched. -/
structure LoopAt (m : Nat) (s : State units.length (k + 1)) : Prop where
  done : ∀ i, i.val < m → ∃ e, s.stage i = .collected e
  ahead : ∀ i, m ≤ i.val → s.stage i = .waiting
  collecting : s.main = .collecting

theorem LoopAt.idle {m : Nat} (h : LoopAt m s) (w : Fin (k + 1)) (j : Fin units.length) :
    (s.stage j).worker? ≠ some w := by
  rcases Nat.lt_or_ge j.val m with hj | hj
  · obtain ⟨e, he⟩ := h.done j hj
    rw [he]
    exact nofun
  · rw [h.ahead j hj]
    exact nofun

theorem LoopAt.next {i : Fin units.length} (h : LoopAt i.val s) {e : Ending}
    (hstage : t.stage = Function.update s.stage i (.collected e)) (hmain : t.main = .collecting) :
    LoopAt (i.val + 1) t where
  done j hj := by
    rw [hstage]
    by_cases hji : j = i
    · exact ⟨e, by rw [hji, Function.update_self]⟩
    · rw [Function.update_of_ne hji]
      exact h.done j (by omega)
  ahead j hj := by
    rw [hstage, Function.update_of_ne (by omega)]
    exact h.ahead j (by omega)
  collecting := hmain

/-- Once the cancel event is set, the loop passes over a unit. -/
theorem Run.pass_over (run : Run reg units s₀ log s) {i : Fin units.length}
    (h : LoopAt i.val s) (set : s.cancel = true) :
    ∃ log' t, Run reg units s₀ log' t ∧ LoopAt (i.val + 1) t ∧ t.cancel = true ∧
      t.results = s.results := by
  have hwait := h.ahead i (Nat.le_refl _)
  have checked := run.step (.check (h.idle 0) ((Move.skip set).from hwait))
  have collected := checked.step (.collect h.collecting (State.stage_put _ _ _))
  exact ⟨_, _, collected, h.next (Function.update_idem _ _ _) h.collecting, set, rfl⟩

/-- The loop evaluates a unit, and leaves it out if the unit asks for the end of the run. -/
theorem Run.take (run : Run reg units s₀ log s) {i : Fin units.length} (h : LoopAt i.val s)
    (unset : s.cancel = false) {r : UnitResult} {stopped : Bool}
    (hr : reg.guarded (units.get i) = (some r, stopped)) :
    ∃ log' t, Run reg units s₀ log' t ∧ LoopAt (i.val + 1) t ∧ t.cancel = stopped ∧
      t.results = if stopped then s.results else s.results ++ [r] := by
  have hwait := h.ahead i (Nat.le_refl _)
  have hsome : (reg.guarded (units.get i)).1 = some r := by rw [hr]
  have hstop : (reg.evaluate (units.get i)).stopped = stopped := by
    rw [← Registry.guarded_stopped hsome, hr]
  have checked := run.step (.check (h.idle 0) ((Move.enter unset).from hwait))
  have evaluated := checked.step (.evaluate ((Move.evaluate hsome).from (State.stage_put _ _ _)))
  have hcancel :
      ((s.put i (.admitted 0)).cancel || (reg.evaluate (units.get i)).stopped) = stopped := by
    rw [hstop]
    exact congrArg (· || stopped) unset
  cases stopped with
  | false =>
    have rechecked := evaluated.step (.recheck ((Move.keep hcancel).from (State.stage_put _ _ _)))
    have collected := rechecked.step (.collect h.collecting (State.stage_put _ _ _))
    refine ⟨_, _, collected, h.next (e := .kept r) ?_ h.collecting, hcancel, rfl⟩
    simp only [State.receive, State.put, Function.update_idem]
  | true =>
    have rechecked := evaluated.step (.recheck ((Move.drop hcancel).from (State.stage_put _ _ _)))
    have collected := rechecked.step (.collect h.collecting (State.stage_put _ _ _))
    refine ⟨_, _, collected, h.next (e := .dropped) ?_ h.collecting, hcancel, rfl⟩
    simp only [State.receive, State.put, Function.update_idem]

/-- An interruption while the loop evaluates a unit ends the run. -/
theorem Run.break_off (run : Run reg units s₀ log s) {i : Fin units.length} (h : LoopAt i.val s)
    (unset : s.cancel = false) (hr : (reg.guarded (units.get i)).1 = none) :
    ∃ log' t, Run reg units s₀ log' t ∧ t.Complete ∧ t.cancel = true ∧ t.results = s.results := by
  have hwait := h.ahead i (Nat.le_refl _)
  have checked := run.step (.check (h.idle 0) ((Move.enter unset).from hwait))
  have evaluated := checked.step (.evaluate ((Move.interrupt hr).from (State.stage_put _ _ _)))
  have collected := evaluated.step (.collect h.collecting (State.stage_put _ _ _))
  have aborted := collected.step (.abort rfl)
  exact ⟨_, _, aborted, Or.inr rfl, rfl, rfl⟩

theorem collect_cancelled (rest : List SourceUnit) :
    reg.collect true rest = { cancelled := true } := by
  cases rest <;> rfl

-- Induction on the units that are left; `LoopAt` ties them to their places in the whole list.
theorem Run.loop (run : Run reg units s₀ log s) (rest : List SourceUnit) {m : Nat}
    (hrest : units.drop m = rest) (h : LoopAt m s) :
    ∃ log' t, Run reg units s₀ log' t ∧ t.Complete ∧
      t.results = s.results ++ (reg.collect s.cancel rest).results ∧
      t.cancel = (reg.collect s.cancel rest).cancelled := by
  induction rest generalizing m log s with
  | nil =>
    have hm : units.length ≤ m := List.drop_eq_nil_iff.mp hrest
    have hall : ∀ i, ∃ e, s.stage i = .collected e := fun i => h.done i (i.isLt.trans_le hm)
    exact ⟨log, s, run, Or.inl ⟨h.collecting, hall⟩, (List.append_nil _).symm, rfl⟩
  | cons unit rest ih =>
    have hm : m < units.length := by
      apply Nat.lt_of_not_le
      intro hle
      rw [List.drop_eq_nil_of_le hle] at hrest
      cases hrest
    rw [List.drop_eq_getElem_cons hm] at hrest
    obtain ⟨rfl, hdrop⟩ := List.cons.inj hrest
    cases hcancel : s.cancel with
    | true =>
      obtain ⟨log', t, run', h', hset, hresults⟩ := run.pass_over (i := ⟨m, hm⟩) h hcancel
      rw [collect_cancelled, ← hresults, ← collect_cancelled rest, ← hset]
      exact ih run' hdrop h'
    | false =>
      rcases hguarded : reg.guarded units[m] with ⟨_ | r, stopped⟩
      · have hnone : (reg.guarded units[m]).1 = none := by rw [hguarded]
        obtain ⟨log', t, run', complete, hset, hresults⟩ :=
          run.break_off (i := ⟨m, hm⟩) h hcancel hnone
        refine ⟨log', t, run', complete, ?_, ?_⟩
        · simpa [Registry.collect, hguarded] using hresults
        · simpa [Registry.collect, hguarded] using hset
      · obtain ⟨log', t, run', h', hset, hresults⟩ := run.take (i := ⟨m, hm⟩) h hcancel hguarded
        obtain ⟨log', t, run', complete, hmore, hend⟩ := ih run' hdrop h'
        rw [hset] at hmore hend
        refine ⟨log', t, run', complete, ?_, ?_⟩
        · rw [hmore, hresults]
          cases stopped <;> simp [Registry.collect, hguarded, collect_cancelled]
        · rw [hend]
          cases stopped <;> simp [Registry.collect, hguarded, collect_cancelled]

/-- The plain loop over the units is a run on any pool. -/
theorem exists_run_of_analyze (k : Nat) (reg : Registry) (units : List SourceUnit)
    (earlier : List UnitResult) (cancelled : Bool) :
    ∃ (log : Log units.length (k + 1)) (t : State units.length (k + 1)),
      Run reg units (State.start earlier cancelled) log t ∧ t.Complete ∧
        t.report reg = reg.analyze units earlier cancelled := by
  have h : LoopAt 0 (State.start earlier cancelled : State units.length (k + 1)) :=
    ⟨fun _ hi => absurd hi (Nat.not_lt_zero _), fun _ _ => rfl, rfl⟩
  have begun : Run reg units (State.start earlier cancelled) []
      (State.start earlier cancelled : State units.length (k + 1)) := .start
  obtain ⟨log, t, run, complete, hresults, hcancel⟩ := begun.loop units rfl h
  refine ⟨log, t, run, complete, ?_⟩
  rw [State.report, hresults, hcancel]
  rfl

end Loop

/-- The number of acts that a unit may still need. -/
def Stage.toDo {k : Nat} : Stage k → Nat
  | waiting => 4
  | admitted _ => 3
  | evaluated _ _ => 2
  | finished _ => 1
  | collected _ => 0

def Main.toDo : Main → Nat
  | collecting => 2
  | aborting => 1
  | aborted => 0

def State.toDo {n k : Nat} (s : State n k) : Nat := (∑ i, (s.stage i).toDo) + s.main.toDo

def Event.isWork {n k : Nat} : Event n k → Bool
  | .cancel => false
  | _ => true

section Endings
variable {k : Nat} {reg : Registry} {units : List SourceUnit}

theorem Move.toDo_lt {unit : SourceUnit} {set : Bool} {before after : Stage k} {a : Act k}
    (move : Move reg unit set before a after) : after.toDo < before.toDo := by
  cases move <;> simp [Stage.toDo]

variable {s s' : State units.length k} {e : Event units.length k}

theorem Step.main_toDo_le (h : Step reg units s e s') : s'.main.toDo ≤ s.main.toDo := by
  cases h with
  | @collect _ ending listening =>
    cases ending with
    | interrupted => simp [State.receive, Main.toDo, listening]
    | _ => exact Nat.le_refl _
  | interrupt listening => simp [Main.toDo, listening]
  | abort broken => simp [Main.toDo]
  | _ => exact Nat.le_refl _

/-- Every step but the setting of the cancel event leaves less to do. -/
theorem Step.toDo_lt (h : Step reg units s e s') (work : e.isWork = true) : s'.toDo < s.toDo := by
  cases e with
  | act j a =>
    obtain ⟨stage, move, hstage⟩ := h.act_cases
    refine Nat.add_lt_add_of_lt_of_le (Finset.sum_lt_sum ?_ ?_) h.main_toDo_le
    · intro i _
      rw [hstage]
      by_cases hi : i = j
      · rw [hi, Function.update_self]
        exact move.toDo_lt.le
      · rw [Function.update_of_ne hi]
    · refine ⟨j, Finset.mem_univ j, ?_⟩
      rw [hstage, Function.update_self]
      exact move.toDo_lt
  | cancel => cases work
  | interrupt =>
    cases h with
    | interrupt listening => simp [State.toDo, Main.toDo, listening]
  | abort =>
    cases h with
    | abort broken => simp [State.toDo, Main.toDo, broken]

/-- A run has a bounded number of steps, if we do not count how often the cancel event is set. -/
theorem Run.work_le {earlier : List UnitResult} {cancelled : Bool} {log : Log units.length k}
    (run : Run reg units (State.start earlier cancelled) log s) :
    log.countP (·.1.isWork) + s.toDo ≤ 4 * units.length + 2 := by
  induction run with
  | start => simp [State.start, State.toDo, Stage.toDo, Main.toDo, Nat.mul_comm]
  | @step log s e s' _ hstep ih =>
    rw [List.countP_cons]
    by_cases work : e.isWork = true
    · have hlt := hstep.toDo_lt work
      simp only [work, if_true]
      omega
    · have heq : s'.toDo = s.toDo := by
        cases hstep with
        | cancel => rfl
        | _ => exact absurd rfl work
      simp only [work, Bool.false_eq_true, if_false]
      omega

end Endings

section Progress
variable {k : Nat} {reg : Registry} {units : List SourceUnit}
variable {s : State units.length (k + 1)}

/-- A worker that is busy with a unit can go on. -/
theorem exists_step_of_busy {j : Fin units.length} {w : Fin (k + 1)}
    (busy : (s.stage j).worker? = some w) : ∃ a s', Step reg units s (.act j a) s' := by
  cases hstage : s.stage j with
  | admitted v =>
    cases hr : (reg.guarded units[j]).1 with
    | none => exact ⟨_, _, .evaluate ((Move.interrupt hr).from hstage)⟩
    | some r => exact ⟨_, _, .evaluate ((Move.evaluate hr).from hstage)⟩
  | evaluated v r =>
    cases hset : s.cancel with
    | true => exact ⟨_, _, .recheck ((Move.drop hset).from hstage)⟩
    | false => exact ⟨_, _, .recheck ((Move.keep hset).from hstage)⟩
  | _ =>
    rw [hstage] at busy
    cases busy

variable (reg) in
/-- Before its end a run can go on, without help from outside. -/
theorem exists_step (going : ¬ s.Complete) :
    ∃ e s', Step reg units s e s' ∧ (e = .abort ∨ ∃ i a, e = .act i a) := by
  cases hmain : s.main with
  | aborting => exact ⟨_, _, .abort hmain, Or.inl rfl⟩
  | aborted => exact absurd (Or.inr hmain) going
  | collecting =>
    have hleft : ∃ i, ¬ ∃ e, s.stage i = .collected e := by
      rw [← not_forall]
      exact fun hall => going (Or.inl ⟨hmain, hall⟩)
    obtain ⟨i, hi⟩ := hleft
    suffices h : ∃ j a s', Step reg units s (.act j a) s' by
      obtain ⟨j, a, s', hstep⟩ := h
      exact ⟨_, s', hstep, Or.inr ⟨j, a, rfl⟩⟩
    cases hstage : s.stage i with
    | waiting =>
      by_cases idle : ∀ j, (s.stage j).worker? ≠ some 0
      · cases hset : s.cancel with
        | true => exact ⟨i, _, _, .check idle ((Move.skip hset).from hstage)⟩
        | false => exact ⟨i, _, _, .check idle ((Move.enter hset).from hstage)⟩
      · rw [not_forall] at idle
        obtain ⟨j, hj⟩ := idle
        exact ⟨j, exists_step_of_busy (not_not.mp hj)⟩
    | admitted w => exact ⟨i, exists_step_of_busy (congrArg Stage.worker? hstage)⟩
    | evaluated w r => exact ⟨i, exists_step_of_busy (congrArg Stage.worker? hstage)⟩
    | finished e => exact ⟨i, _, _, .collect hmain hstage⟩
    | collected e => exact absurd ⟨e, hstage⟩ hi

/-- Every run can be brought to its end by the workers and the main thread. -/
theorem Run.completes {s₀ : State units.length (k + 1)} {log : Log units.length (k + 1)}
    (run : Run reg units s₀ log s) :
    ∃ log' t, Run reg units s₀ (log' ++ log) t ∧ t.Complete ∧
      ∀ entry ∈ log', entry.1 = .abort ∨ ∃ i a, entry.1 = .act i a := by
  induction htodo : s.toDo using Nat.strong_induction_on generalizing s log with
  | h todo ih =>
    by_cases complete : s.Complete
    · exact ⟨[], s, run, complete, nofun⟩
    · obtain ⟨e, s', hstep, he⟩ := exists_step reg complete
      have work : e.isWork = true := by
        rcases he with rfl | ⟨i, a, rfl⟩ <;> rfl
      obtain ⟨log', t, run', hcomplete, hlog⟩ :=
        ih s'.toDo (htodo ▸ hstep.toDo_lt work) (run.step hstep) rfl
      refine ⟨log' ++ [(e, s.cancel)], t, ?_, hcomplete, ?_⟩
      · rw [List.append_assoc]
        exact run'
      · intro entry hentry
        rcases List.mem_append.mp hentry with h | h
        · exact hlog entry h
        · rw [List.mem_singleton.mp h]
          exact he

end Progress

end Conformance.Pool
