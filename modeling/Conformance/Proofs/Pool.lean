import Conformance.Run
import Mathlib.Data.List.FinRange
import Mathlib.Logic.Function.Basic

/-!
# Runs on a pool of workers

The units of a run are shared out among workers. A worker looks at the cancel event before it
evaluates a unit and again afterwards; what it leaves behind is collected by the main thread, in any
order. The event can be set at any moment. An interruption, of the main thread or of a worker whose
unit is then collected, ends the collection; the event is set a moment later, and then the report
is made from what has been collected.

`Step` is one step of such a run and `Run` any number of them. A run keeps a log of what happened,
with the state of the cancel event at that moment. With one worker, the runs that collect each unit
before the next is checked are those of a plain loop over the units.
-/

namespace Conformance.Pool

/-- What a worker leaves behind for a unit. -/
inductive Ending where
  | kept (result : UnitResult)
  | dropped
  | interrupted

/-- How far a run has come with a unit. -/
inductive Stage (k : Nat) where
  | waiting
  | admitted (worker : Fin k)
  | evaluated (worker : Fin k) (result : UnitResult)
  | finished (ending : Ending)
  | collected (ending : Ending)

/-- The worker that is busy with a unit. -/
def Stage.worker? {k : Nat} : Stage k → Option (Fin k)
  | admitted w => some w
  | evaluated w _ => some w
  | _ => none

/-- What is done with one unit: the two checks, the evaluation between them, the collection. -/
inductive Act (k : Nat) where
  | check (worker : Fin k)
  | evaluate
  | recheck
  | collect

inductive Event (n k : Nat) where
  | act (i : Fin n) (a : Act k)
  /-- The cancel event is set, by whomever. -/
  | cancel
  /-- The main thread is interrupted. -/
  | interrupt
  /-- The main thread sets the cancel event after an interruption. -/
  | abort

/-- What the main thread is at. -/
inductive Main where
  | collecting
  | aborting
  | aborted

structure State (n k : Nat) where
  stage : Fin n → Stage k
  results : List UnitResult
  cancel : Bool
  main : Main

namespace State
variable {n k : Nat}

/-- The start of a run; `earlier` holds the results of units that could not be read. -/
def start (earlier : List UnitResult) (cancelled : Bool) : State n k where
  stage := fun _ => .waiting
  results := earlier
  cancel := cancelled
  main := .collecting

def put (s : State n k) (i : Fin n) (stage : Stage k) : State n k :=
  { s with stage := Function.update s.stage i stage }

/-- The main thread takes what a worker has left behind. -/
def receive (s : State n k) : Ending → State n k
  | .kept result => { s with results := s.results ++ [result] }
  | .dropped => s
  | .interrupted => { s with main := .aborting }

/-- The report can be made: everything is collected, or an interruption was dealt with. -/
def Complete (s : State n k) : Prop :=
  (s.main = .collecting ∧ ∀ i, ∃ e, s.stage i = .collected e) ∨ s.main = .aborted

def report (reg : Registry) (s : State n k) : Report := reg.aggregate s.results s.cancel

@[simp] theorem stage_put (s : State n k) (i : Fin n) (stage : Stage k) :
    (s.put i stage).stage i = stage :=
  Function.update_self _ _ _

@[simp] theorem stage_receive (s : State n k) (ending : Ending) :
    (s.receive ending).stage = s.stage := by
  cases ending <;> rfl

@[simp] theorem cancel_receive (s : State n k) (ending : Ending) :
    (s.receive ending).cancel = s.cancel := by
  cases ending <;> rfl

end State

/-- One act on a unit, while the cancel event is set or not. -/
inductive Move {k : Nat} (reg : Registry) (unit : SourceUnit) (set : Bool) :
    Stage k → Act k → Stage k → Prop where
  | enter {w} (h : set = false) : Move reg unit set .waiting (.check w) (.admitted w)
  | skip {w} (h : set = true) : Move reg unit set .waiting (.check w) (.finished .dropped)
  | evaluate {w r} (h : (reg.guarded unit).1 = some r) :
      Move reg unit set (.admitted w) .evaluate (.evaluated w r)
  | interrupt {w} (h : (reg.guarded unit).1 = none) :
      Move reg unit set (.admitted w) .evaluate (.finished .interrupted)
  | keep {w r} (h : set = false) :
      Move reg unit set (.evaluated w r) .recheck (.finished (.kept r))
  | drop {w r} (h : set = true) :
      Move reg unit set (.evaluated w r) .recheck (.finished .dropped)
  | collect {e} : Move reg unit set (.finished e) .collect (.collected e)

/-- One step of a run. A worker takes up a unit only if it is not busy with another, and what an
evaluated unit asks for, the end of the run, is done by the time its evaluation is over. -/
inductive Step {k : Nat} (reg : Registry) (units : List SourceUnit) :
    State units.length k → Event units.length k → State units.length k → Prop where
  | check {s i w stage} (idle : ∀ j, (s.stage j).worker? ≠ some w)
      (move : Move reg units[i] s.cancel (s.stage i) (.check w) stage) :
      Step reg units s (.act i (.check w)) (s.put i stage)
  | evaluate {s i stage} (move : Move reg units[i] s.cancel (s.stage i) .evaluate stage) :
      Step reg units s (.act i .evaluate)
        { s.put i stage with cancel := s.cancel || (reg.evaluate units[i]).stopped }
  | recheck {s i stage} (move : Move reg units[i] s.cancel (s.stage i) .recheck stage) :
      Step reg units s (.act i .recheck) (s.put i stage)
  | collect {s i e} (listening : s.main = .collecting) (done : s.stage i = .finished e) :
      Step reg units s (.act i .collect) ((s.put i (.collected e)).receive e)
  | cancel {s} : Step reg units s .cancel { s with cancel := true }
  | interrupt {s} (listening : s.main = .collecting) :
      Step reg units s .interrupt { s with main := .aborting }
  | abort {s} (broken : s.main = .aborting) :
      Step reg units s .abort { s with main := .aborted, cancel := true }

/-- What happened in a run, the latest first, each with the cancel event at that moment. -/
abbrev Log (n k : Nat) := List (Event n k × Bool)

inductive Run {k : Nat} (reg : Registry) (units : List SourceUnit) (s₀ : State units.length k) :
    Log units.length k → State units.length k → Prop where
  | start : Run reg units s₀ [] s₀
  | step {log s e s'} : Run reg units s₀ log s → Step reg units s e s' →
      Run reg units s₀ ((e, s.cancel) :: log) s'

/-- The whole result of a unit, none if its evaluation is interrupted. -/
def result? (reg : Registry) (units : List SourceUnit) (i : Fin units.length) :
    Option UnitResult :=
  (reg.guarded units[i]).1

/-- What a log says of one unit. -/
def trail {n k : Nat} (i : Fin n) : Log n k → List (Act k × Bool)
  | [] => []
  | (.act j a, set) :: log => if j = i then (a, set) :: trail i log else trail i log
  | _ :: log => trail i log

section Trails
variable {n k : Nat} {i : Fin n}

theorem trail_act (a : Act k) (set : Bool) (log : Log n k) :
    trail i ((.act i a, set) :: log) = (a, set) :: trail i log := by
  simp only [trail, if_true]

theorem trail_other {e : Event n k} (h : ∀ a, e ≠ .act i a) (set : Bool) (log : Log n k) :
    trail i ((e, set) :: log) = trail i log := by
  cases e with
  | act j a =>
    have hne : j ≠ i := fun heq => h a (heq ▸ rfl)
    simp only [trail, hne, if_false]
  | cancel => rfl
  | interrupt => rfl
  | abort => rfl

theorem mem_trail_iff {log : Log n k} {a : Act k} {set : Bool} :
    (a, set) ∈ trail i log ↔ (.act i a, set) ∈ log := by
  induction log with
  | nil => exact iff_of_false List.not_mem_nil List.not_mem_nil
  | cons entry log ih =>
    obtain ⟨e, seen⟩ := entry
    by_cases he : ∃ b, e = .act i b
    · obtain ⟨b, rfl⟩ := he
      simp only [trail_act, List.mem_cons, ih, Prod.mk.injEq, Event.act.injEq, true_and]
    · have hne : ∀ b, e ≠ .act i b := fun b hb => he ⟨b, hb⟩
      simp only [trail_other hne, List.mem_cons, ih, Prod.mk.injEq, (hne a).symm, false_and,
        false_or]

end Trails

section Steps
variable {k : Nat} {reg : Registry} {units : List SourceUnit}
variable {s s' : State units.length k} {e : Event units.length k}

/-- A step on a unit moves that unit. -/
theorem Step.act_cases {j : Fin units.length} {a : Act k} (h : Step reg units s (.act j a) s') :
    ∃ stage, Move reg units[j] s.cancel (s.stage j) a stage ∧
      s'.stage = Function.update s.stage j stage := by
  cases h with
  | check _ move => exact ⟨_, move, rfl⟩
  | evaluate move => exact ⟨_, move, rfl⟩
  | recheck move => exact ⟨_, move, rfl⟩
  | collect _ done => exact ⟨_, done ▸ .collect, State.stage_receive _ _⟩

/-- Seen from one unit, a step is a move of that unit or leaves it alone. -/
theorem Step.local_cases (h : Step reg units s e s') (i : Fin units.length) :
    (∃ a, e = .act i a ∧ Move reg units[i] s.cancel (s.stage i) a (s'.stage i)) ∨
      ((∀ a, e ≠ .act i a) ∧ s'.stage i = s.stage i) := by
  cases e with
  | act j a =>
    obtain ⟨stage, move, hstage⟩ := h.act_cases
    rw [hstage]
    by_cases hj : j = i
    · subst j
      exact Or.inl ⟨a, rfl, by rwa [Function.update_self]⟩
    · refine Or.inr ⟨fun b hb => ?_, Function.update_of_ne (Ne.symm hj) _ _⟩
      cases hb
      exact hj rfl
  | cancel => cases h; exact Or.inr ⟨nofun, rfl⟩
  | interrupt => cases h; exact Or.inr ⟨nofun, rfl⟩
  | abort => cases h; exact Or.inr ⟨nofun, rfl⟩

/-- The cancel event is never taken back. -/
theorem Step.cancel_mono (h : Step reg units s e s') (set : s.cancel = true) :
    s'.cancel = true := by
  cases h with
  | check => exact set
  | evaluate => simp only [set, Bool.true_or]
  | recheck => exact set
  | collect => rw [State.cancel_receive]; exact set
  | cancel => rfl
  | interrupt => exact set
  | abort => rfl

/-- A main thread that was interrupted collects no more. -/
theorem Step.main_ne_collecting (h : Step reg units s e s') (hs : s.main ≠ .collecting) :
    s'.main ≠ .collecting := by
  cases h with
  | collect listening => exact absurd listening hs
  | interrupt => exact nofun
  | abort => exact nofun
  | _ => exact hs

theorem Step.aborted_cases (h : Step reg units s e s') (ha : s'.main = .aborted) :
    s.main = .aborted ∨ s'.cancel = true := by
  cases h with
  | @collect _ ending =>
    cases ending with
    | interrupted => cases ha
    | _ => exact Or.inl ha
  | interrupt => cases ha
  | abort => exact Or.inr rfl
  | _ => exact Or.inl ha

/-- The unit has added its result to the report. -/
def Stage.Harvested (stage : Stage k) : Prop := ∃ result, stage = .collected (.kept result)

theorem Move.not_harvested {unit : SourceUnit} {set : Bool} {stage stage' : Stage k} {a : Act k}
    (move : Move reg unit set stage a stage') :
    ¬ stage.Harvested ∧ (a ≠ .collect → ¬ stage'.Harvested) := by
  cases move with
  | collect => exact ⟨nofun, fun h => absurd rfl h⟩
  | _ => exact ⟨nofun, fun _ => nofun⟩

/-- The results grow only when a unit with a result is collected. -/
theorem Step.results_cases (h : Step reg units s e s') :
    (s'.results = s.results ∧ ∀ i, (s'.stage i).Harvested ↔ (s.stage i).Harvested) ∨
      ∃ j r, s.stage j = .finished (.kept r) ∧ s'.results = s.results ++ [r] ∧
        s'.stage = Function.update s.stage j (.collected (.kept r)) := by
  have unseen {j : Fin units.length} {stage : Stage k} (hold : ¬ (s.stage j).Harvested)
      (hnew : ¬ stage.Harvested) (i : Fin units.length) :
      (Function.update s.stage j stage i).Harvested ↔ (s.stage i).Harvested := by
    by_cases hi : i = j
    · subst i
      rw [Function.update_self]
      exact iff_of_false hnew hold
    · rw [Function.update_of_ne hi]
  cases h with
  | check _ move => exact Or.inl ⟨rfl, unseen move.not_harvested.1 (move.not_harvested.2 nofun)⟩
  | evaluate move => exact Or.inl ⟨rfl, unseen move.not_harvested.1 (move.not_harvested.2 nofun)⟩
  | recheck move => exact Or.inl ⟨rfl, unseen move.not_harvested.1 (move.not_harvested.2 nofun)⟩
  | @collect j ending _ done =>
    cases ending with
    | kept r => exact Or.inr ⟨j, r, done, rfl, rfl⟩
    | dropped => exact Or.inl ⟨rfl, unseen (done ▸ nofun) nofun⟩
    | interrupted => exact Or.inl ⟨rfl, unseen (done ▸ nofun) nofun⟩
  | cancel => exact Or.inl ⟨rfl, fun _ => Iff.rfl⟩
  | interrupt => exact Or.inl ⟨rfl, fun _ => Iff.rfl⟩
  | abort => exact Or.inl ⟨rfl, fun _ => Iff.rfl⟩

end Steps

/-- The trails that lead to an ending. -/
def Closed {k : Nat} (reg : Registry) (unit : SourceUnit) :
    Ending → List (Act k × Bool) → Prop
  | .kept result, trail => (reg.guarded unit).1 = some result ∧
      ∃ w set, trail = [(.recheck, false), (.evaluate, set), (.check w, false)]
  | .dropped, trail => (∃ w, trail = [(.check w, true)]) ∨
      ∃ w set, trail = [(.recheck, true), (.evaluate, set), (.check w, false)]
  | .interrupted, trail => (reg.guarded unit).1 = none ∧
      ∃ w set, trail = [(.evaluate, set), (.check w, false)]

/-- The trails that lead to a stage, the latest act first: a unit is evaluated after a first check
that found the cancel event unset, and its result kept after a second one. -/
def Lawful {k : Nat} (reg : Registry) (unit : SourceUnit) :
    Stage k → List (Act k × Bool) → Prop
  | .waiting, trail => trail = []
  | .admitted w, trail => trail = [(.check w, false)]
  | .evaluated w result, trail => (reg.guarded unit).1 = some result ∧
      ∃ set, trail = [(.evaluate, set), (.check w, false)]
  | .finished ending, trail => Closed reg unit ending trail
  | .collected ending, trail => ∃ set before, trail = (.collect, set) :: before ∧
      Closed reg unit ending before

theorem Lawful.move {k : Nat} {reg : Registry} {unit : SourceUnit} {set : Bool}
    {stage stage' : Stage k} {a : Act k} {before : List (Act k × Bool)}
    (h : Lawful reg unit stage before) (move : Move reg unit set stage a stage') :
    Lawful reg unit stage' ((a, set) :: before) := by
  cases move with
  | enter hset =>
    cases h
    rw [hset]
    rfl
  | skip hset =>
    cases h
    rw [hset]
    exact Or.inl ⟨_, rfl⟩
  | evaluate hr =>
    cases h
    exact ⟨hr, set, rfl⟩
  | interrupt hr =>
    cases h
    exact ⟨hr, _, set, rfl⟩
  | keep hset =>
    obtain ⟨hr, seen, rfl⟩ := h
    rw [hset]
    exact ⟨hr, _, seen, rfl⟩
  | drop hset =>
    obtain ⟨_, seen, rfl⟩ := h
    rw [hset]
    exact Or.inr ⟨_, seen, rfl⟩
  | collect => exact ⟨set, before, rfl, h⟩

section Runs
variable {k : Nat} {reg : Registry} {units : List SourceUnit} {earlier : List UnitResult}
variable {cancelled : Bool} {log : Log units.length k} {s : State units.length k}

theorem Run.lawful (run : Run reg units (State.start earlier cancelled) log s)
    (i : Fin units.length) : Lawful reg units[i] (s.stage i) (trail i log) := by
  induction run with
  | start => rfl
  | step _ hstep ih =>
    rcases hstep.local_cases i with ⟨a, rfl, move⟩ | ⟨hother, hstage⟩
    · rw [trail_act]
      exact ih.move move
    · rw [trail_other hother, hstage]
      exact ih

theorem Run.cancel_of_seen (run : Run reg units (State.start earlier cancelled) log s)
    {e : Event units.length k} (h : (e, true) ∈ log) : s.cancel = true := by
  induction run with
  | start => cases h
  | step _ hstep ih =>
    apply hstep.cancel_mono
    rcases List.mem_cons.mp h with heq | hlog
    · exact (Prod.mk.inj heq).2.symm
    · exact ih hlog

theorem Run.cancel_of_stopped (run : Run reg units (State.start earlier cancelled) log s)
    {i : Fin units.length} {set : Bool} (h : (.act i .evaluate, set) ∈ log)
    (stopped : (reg.evaluate units[i]).stopped = true) : s.cancel = true := by
  induction run with
  | start => cases h
  | step _ hstep ih =>
    rcases List.mem_cons.mp h with heq | hlog
    · cases (Prod.mk.inj heq).1
      cases hstep
      simp only [stopped, Bool.or_true]
    · exact hstep.cancel_mono (ih hlog)

theorem Run.cancel_of_aborted (run : Run reg units (State.start earlier cancelled) log s)
    (h : s.main = .aborted) : s.cancel = true := by
  induction run with
  | start => cases h
  | step _ hstep ih =>
    rcases hstep.aborted_cases h with ha | hset
    · exact hstep.cancel_mono (ih ha)
    · exact hset

theorem Run.main_of_interrupted (run : Run reg units (State.start earlier cancelled) log s)
    {i : Fin units.length} (h : s.stage i = .collected .interrupted) : s.main ≠ .collecting := by
  induction run with
  | start => cases h
  | @step _ s e s' _ hstep ih =>
    rcases hstep.local_cases i with ⟨a, rfl, move⟩ | ⟨_, hstage⟩
    · have hcollect : a = .collect := by
        rw [h] at move
        generalize s.stage i = stage at move
        cases move
        rfl
      subst hcollect
      cases hstep with
      | @collect _ ending =>
        have hput : ((s.put i (.collected ending)).receive ending).stage i =
            .collected ending := by
          rw [State.stage_receive, State.stage_put]
        cases Stage.collected.inj (hput.symm.trans h)
        exact nofun
    · exact hstep.main_ne_collecting (ih (hstage ▸ h))

/-- The results of a run are the earlier ones and those of the units that were harvested, each unit
once. -/
theorem Run.harvest (run : Run reg units (State.start earlier cancelled) log s) :
    ∃ S : List (Fin units.length), S.Nodup ∧ (∀ i, i ∈ S ↔ (s.stage i).Harvested) ∧
      s.results = earlier ++ S.filterMap (result? reg units) := by
  induction run with
  | start => exact ⟨[], .nil, fun i => iff_of_false List.not_mem_nil nofun, by simp [State.start]⟩
  | @step _ s _ s' run hstep ih =>
    obtain ⟨S, hnodup, hmem, hresults⟩ := ih
    rcases hstep.results_cases with ⟨hsame, hharvest⟩ | ⟨j, r, hj, hmore, hstage⟩
    · exact ⟨S, hnodup, fun i => (hmem i).trans (hharvest i).symm, hsame.trans hresults⟩
    · have hnew : j ∉ S := fun hS => by
        obtain ⟨_, h⟩ := (hmem j).mp hS
        rw [hj] at h
        cases h
      have hresult : result? reg units j = some r := by
        have hlaw := run.lawful j
        rw [hj] at hlaw
        exact hlaw.1
      refine ⟨S ++ [j], ?_, ?_, ?_⟩
      · rw [← List.concat_eq_append]
        exact hnodup.concat hnew
      · intro i
        rw [List.mem_append, List.mem_singleton, hstage]
        by_cases hi : i = j
        · subst i
          rw [Function.update_self]
          exact iff_of_true (Or.inr rfl) ⟨r, rfl⟩
        · rw [Function.update_of_ne hi, ← hmem i]
          exact or_iff_left hi
      · rw [hmore, hresults, List.filterMap_append, List.filterMap_cons_some hresult,
          List.filterMap_nil, List.append_assoc]

end Runs

end Conformance.Pool
