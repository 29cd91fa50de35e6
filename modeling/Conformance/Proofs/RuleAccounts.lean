import Conformance.Proofs.RuleIndependence
import Conformance.Proofs.Traversal

/-!
# What each rule contributes to an evaluation

An evaluation shows every node to all rules before it goes on to the next node, and keeps a list of
the rules that have failed. For one rule this comes to a simple account: it answers on the nodes
that it looks at, one after another, until it fails. The findings of the evaluation are the accounts
of all rules, ordered by the place of the node and then by rule.
-/

namespace Conformance

/-- No predicate of the rule breaks off an evaluation; it may fail. -/
def Rule.Steady (r : Rule) : Prop :=
  ∀ predicate, r.predicate = some predicate →
    ∀ node context e, predicate node context ≠ .escape e

/-- A finding, the rule it is made for, and the place of its node among those visited. -/
structure PlacedFinding where
  place : Nat
  rule : String
  finding : Finding

/-- By place, and at one place by rule. -/
def PlacedFinding.Before (a b : PlacedFinding) : Prop :=
  a.place < b.place ∨ a.place = b.place ∧ Text.codes a.rule < Text.codes b.rule

/-- The kinds of the nodes that a rule with the target is asked about. -/
def targetKinds : Option NodeKind → List NodeKind
  | none => []
  | some .declaration => [.type, .method, .field]
  | some kind => [kind]

theorem Rule.looksAt_eq (r : Rule) (kind : NodeKind) :
    r.looksAt kind = (targetKinds r.target).contains kind := by
  unfold looksAt
  cases r.target with
  | none => rfl
  | some target => cases target <;> cases kind <;> rfl

/-- What a rule says of a node. -/
inductive Answer where
  | passes
  | matched (span : Span) (message : String)
  | raises (fault : Fault)

namespace Registry

section Accounts
variable (reg : Registry) (unit : SourceUnit) (r : Rule)

/-- The rule is asked about the node alone. A match counts once its message is filled. -/
def answer (node : Node) : Answer :=
  match r.predicate with
  | none => .passes
  | some predicate =>
    match predicate node (reg.context unit r) with
    | .hit m =>
      match r.render node unit m.values with
      | .ok message => .matched (m.span.getD node.span) message
      | .error fault => .raises fault
    | .fault fault => .raises fault
    | _ => .passes

/-- What the rule contributes on the nodes that it is shown, each with its place. -/
def contributions : List (Node × Nat) → List PlacedFinding
  | [] => []
  | (node, place) :: rest =>
    match reg.answer unit r node with
    | .passes => contributions rest
    | .matched span message =>
      { place, rule := r.id
        finding := {
          rule := r.id, severity := r.severity, unit := unit.path, span := span
          message := message } } :: contributions rest
    | .raises fault =>
      [{ place, rule := r.id
         finding := {
          rule := "engine/rule-failure", severity := reg.engineSeverity Rule.ruleFailure
          unit := unit.path, span := node.span
          message :=
            "Rule '" ++ r.id ++ "' raised an internal error: " ++ fault.describe } }]

/-- What the rule contributes on the nodes of the kinds that it targets. -/
def account : List PlacedFinding :=
  reg.contributions unit r
    (unit.sequence.zipIdx.filter fun shown => (targetKinds r.target).contains shown.1.kind)

theorem failureFinding_eq (node : Node) (fault : Fault) :
    reg.failureFinding unit ⟨node, r⟩ fault = {
      rule := "engine/rule-failure", severity := reg.engineSeverity Rule.ruleFailure
      unit := unit.path, span := node.span
      message := "Rule '" ++ r.id ++ "' raised an internal error: " ++ fault.describe } := rfl

theorem account_eq :
    reg.account unit r =
      reg.contributions unit r
        (unit.sequence.zipIdx.filter fun shown => r.looksAt shown.1.kind) := by
  simp only [account, Rule.looksAt_eq]

end Accounts

section Visits
variable (reg : Registry) (unit : SourceUnit)

/-- What a series of visits finds, if each visit is given with the place of its node. -/
def placed (failed : List String) : List (Nat × Visit) → List PlacedFinding
  | [] => []
  | (place, v) :: rest =>
    ((yield reg unit failed v).map fun m => ⟨place, m.1, m.2⟩) ++
      placed (failedAfter reg unit failed v) rest

/-- The visits of a unit, each with the place of its node. -/
def placedVisits : List (Nat × Visit) :=
  unit.sequence.zipIdx.flatMap fun shown =>
    (reg.rulesFor shown.1.kind).map fun rule => (shown.2, ⟨shown.1, rule⟩)

/-- What a rule finds on a node, and that it has failed after it exactly if it raises. -/
theorem own_visit {failed : List String} {r : Rule} (fresh : r.id ∉ failed) (node : Node) :
    (reg.answer unit r node = .passes ∧ yield reg unit failed ⟨node, r⟩ = [] ∧
      failedAfter reg unit failed ⟨node, r⟩ = failed) ∨
    (∃ span message, reg.answer unit r node = .matched span message ∧
      yield reg unit failed ⟨node, r⟩ = [(r.id, {
        rule := r.id, severity := r.severity, unit := unit.path, span, message })] ∧
      failedAfter reg unit failed ⟨node, r⟩ = failed) ∨
    ∃ fault, reg.answer unit r node = .raises fault ∧
      yield reg unit failed ⟨node, r⟩ = [(r.id, reg.failureFinding unit ⟨node, r⟩ fault)] ∧
      failedAfter reg unit failed ⟨node, r⟩ = r.id :: failed := by
  simp only [answer, yield, failedAfter, inspect, List.contains_iff_mem, fresh, if_false]
  cases r.predicate with
  | none => exact .inl ⟨rfl, rfl, rfl⟩
  | some predicate =>
    dsimp only
    cases predicate node (reg.context unit r) with
    | hit m =>
      dsimp only
      cases r.render node unit m.values with
      | ok message => exact .inr (.inl ⟨_, message, rfl, rfl, rfl⟩)
      | error fault => exact .inr (.inr ⟨fault, rfl, rfl, rfl⟩)
    | fault f => exact .inr (.inr ⟨f, rfl, rfl, rfl⟩)
    | _ => exact .inl ⟨rfl, rfl, rfl⟩

variable {reg unit} {failed : List String} {r : Rule}

theorem mem_placed {visits : List (Nat × Visit)} {e : PlacedFinding}
    (h : e ∈ reg.placed unit failed visits) :
    ∃ v ∈ visits, e.place = v.1 ∧ e.rule = v.2.rule.id := by
  induction visits generalizing failed with
  | nil => cases h
  | cons v rest ih =>
    rcases List.mem_append.mp h with h | h
    · obtain ⟨m, hm, rfl⟩ := List.mem_map.mp h
      exact ⟨v, List.mem_cons_self, rfl, (mem_yield hm).1⟩
    · obtain ⟨w, hw, hkey⟩ := ih h
      exact ⟨w, List.mem_cons_of_mem v hw, hkey⟩

/-- Places are carried along and change nothing. -/
theorem placed_signed (visits : List (Nat × Visit)) :
    (reg.placed unit failed visits).map (fun e => (e.rule, e.finding)) =
      reg.signed unit failed (visits.map Prod.snd) := by
  induction visits generalizing failed with
  | nil => rfl
  | cons v rest ih =>
    rw [placed, List.map_append, List.map_map, ih, List.map_cons, signed]
    congr 1
    exact List.map_id _

/-- Among the findings of all rules those of one rule are its contributions, or none if it has
failed before. Other rules do not change whether it has. -/
theorem placed_filter {visits : List (Nat × Visit)}
    (same : ∀ v ∈ visits, v.2.rule.id = r.id → v.2.rule = r) :
    (reg.placed unit failed visits).filter (fun e => e.rule == r.id) =
      if r.id ∈ failed then []
      else reg.contributions unit r
        ((visits.filter fun v => v.2.rule.id == r.id).map fun v => (v.2.node, v.1)) := by
  induction visits generalizing failed with
  | nil => simp [placed, contributions]
  | cons v rest ih =>
    obtain ⟨hsame, hrest⟩ := List.forall_mem_cons.mp same
    obtain ⟨place, node, rule⟩ := v
    rw [placed, List.filter_append, ih hrest]
    by_cases hid : rule.id = r.id
    · obtain rfl : rule = r := hsame hid
      rw [List.filter_cons_of_pos (by simp), List.map_cons]
      by_cases hfailed : rule.id ∈ failed
      · simp [yield, failedAfter, hfailed]
      · rcases own_visit reg unit hfailed node with
          ⟨hanswer, hyield, hafter⟩ | ⟨span, message, hanswer, hyield, hafter⟩ |
          ⟨fault, hanswer, hyield, hafter⟩
        · simp [hyield, hafter, hfailed, contributions, hanswer]
        · simp [hyield, hafter, hfailed, contributions, hanswer]
        · simp [hyield, hafter, hfailed, contributions, hanswer, failureFinding_eq]
    · have hnone : ((yield reg unit failed ⟨node, rule⟩).map fun m =>
          (⟨place, m.1, m.2⟩ : PlacedFinding)).filter (fun e => e.rule == r.id) = [] := by
        rw [List.filter_eq_nil_iff, List.forall_mem_map]
        intro m hm
        simpa [(mem_yield hm).1] using hid
      have hagree : AgreeOn (fun id => id == r.id) failed failed := fun _ _ => rfl
      have hother : failed.contains r.id =
          (failedAfter reg unit failed ⟨node, rule⟩).contains r.id :=
        hagree.skip (by simpa using hid) r.id (by simp)
      have hmem : r.id ∈ failedAfter reg unit failed ⟨node, rule⟩ ↔ r.id ∈ failed := by
        rw [← List.contains_iff_mem, ← List.contains_iff_mem, hother]
      rw [hnone, List.nil_append, List.filter_cons_of_neg (by simpa using hid)]
      simp only [hmem]

theorem placed_ordered {visits : List (Nat × Visit)}
    (ordered : visits.Pairwise fun v w =>
      v.1 < w.1 ∨ v.1 = w.1 ∧ Text.codes v.2.rule.id < Text.codes w.2.rule.id) :
    (reg.placed unit failed visits).Pairwise PlacedFinding.Before := by
  induction visits generalizing failed with
  | nil => exact .nil
  | cons v rest ih =>
    obtain ⟨hfirst, hrest⟩ := List.pairwise_cons.mp ordered
    refine List.pairwise_append.mpr ⟨?_, ih hrest, ?_⟩
    · unfold yield
      split
      · exact .nil
      · split <;> simp
    · intro a ha b hb
      obtain ⟨m, hm, rfl⟩ := List.mem_map.mp ha
      obtain ⟨w, hw, hplace, hrule⟩ := mem_placed hb
      rw [PlacedFinding.Before, hplace, hrule, (mem_yield hm).1]
      exact hfirst w hw

theorem placedVisits_visits : (reg.placedVisits unit).map Prod.snd = reg.visits unit := by
  rw [visits, SourceUnit.nodes_eq_sequence, ← List.zipIdx_map_fst 0 unit.sequence,
    List.flatMap_map, placedVisits, List.map_flatMap]
  simp only [List.map_map]
  rfl

theorem mem_placedVisits {v : Nat × Visit} (h : v ∈ reg.placedVisits unit) :
    v.2.rule ∈ reg.rulesFor v.2.node.kind := by
  obtain ⟨shown, _, hv⟩ := List.mem_flatMap.mp h
  obtain ⟨rule, hrule, rfl⟩ := List.mem_map.mp hv
  exact hrule

end Visits

theorem run_escape_of_steady {reg : Registry} (unit : SourceUnit)
    (steady : ∀ r ∈ reg.rules, r.isEngine = false → r.Steady) :
    (reg.run unit [] (reg.visits unit)).escape = none := by
  apply run_escape_of_calm
  intro v hv e he
  obtain ⟨predicate, hpredicate, hanswer⟩ := inspect_escape he
  obtain ⟨hrule, hown, _⟩ := mem_rulesFor.mp (mem_visits.mp hv).2
  exact steady v.rule hrule hown predicate hpredicate _ _ e hanswer

section Built
variable {rules : List (Draft × Value)} {config : Config} {reg : Registry}
variable (built : ofRules rules config = .ok reg)
include built

theorem placedVisits_ordered (unit : SourceUnit) :
    (reg.placedVisits unit).Pairwise fun v w =>
      v.1 < w.1 ∨ v.1 = w.1 ∧ Text.codes v.2.rule.id < Text.codes w.2.rule.id := by
  have hplaces : unit.sequence.zipIdx.Pairwise fun a b => a.2 < b.2 := by
    have hrange : (unit.sequence.zipIdx.map Prod.snd).Pairwise (· < ·) := by
      rw [List.zipIdx_map_snd]
      exact List.pairwise_lt_range'
    exact List.pairwise_map.mp hrange
  refine List.pairwise_flatMap.mpr ⟨?_, ?_⟩
  · intro shown _
    refine List.pairwise_map.mpr ((rulesFor_ordered built shown.1.kind).imp ?_)
    exact fun h => .inr ⟨rfl, h⟩
  · refine hplaces.imp fun hlt v hv w hw => .inl ?_
    obtain ⟨_, _, rfl⟩ := List.mem_map.mp hv
    obtain ⟨_, _, rfl⟩ := List.mem_map.mp hw
    exact hlt

theorem isEnabled_iff {r : Rule} (hr : r ∈ reg.rules) :
    reg.isEnabled r.id = true ↔ reg.config.leavesOut r.id = false := by
  rw [isEnabled, contains, get?_id built hr, Option.isSome_some, Bool.true_and, Bool.not_eq_true']

section Rule
variable {r : Rule} (hr : r ∈ reg.rules) (own : r.isEngine = false)
variable (enabled : reg.isEnabled r.id = true)
include hr own enabled

/-- A node of a kind that the rule looks at is shown to it once. -/
theorem rulesFor_filter_id (kind : NodeKind) :
    (reg.rulesFor kind).filter (fun s => s.id == r.id) = if r.looksAt kind then [r] else [] := by
  have hordered : (if r.looksAt kind then [r] else []).Pairwise
      fun a b => Text.codes a.id < Text.codes b.id := by
    split <;> simp
  apply ((rulesFor_ordered built kind).sublist List.filter_sublist).eq_of_mem_iff hordered
  intro s
  rw [List.mem_filter, mem_rulesFor, beq_iff_eq]
  constructor
  · rintro ⟨⟨hs, _, _, hlooks⟩, hid⟩
    obtain rfl := List.inj_on_of_nodup_map (ids_nodup built) hs hr hid
    rw [if_pos hlooks]
    exact List.mem_singleton_self s
  · intro hs
    split at hs
    · rename_i hlooks
      cases List.mem_singleton.mp hs
      exact ⟨⟨hr, own, (isEnabled_iff built hr).mp enabled, hlooks⟩, rfl⟩
    · cases hs

theorem placedVisits_filter_id (unit : SourceUnit) :
    ((reg.placedVisits unit).filter fun v => v.2.rule.id == r.id).map
        (fun v => (v.2.node, v.1)) =
      unit.sequence.zipIdx.filter fun shown => r.looksAt shown.1.kind := by
  have hnode (shown : Node × Nat) : (((reg.rulesFor shown.1.kind).map fun rule =>
      ((shown.2, ⟨shown.1, rule⟩) : Nat × Visit)).filter fun v => v.2.rule.id == r.id).map
        (fun v => (v.2.node, v.1)) = if r.looksAt shown.1.kind then [shown] else [] := by
    rw [List.filter_map, List.map_map]
    change List.map _ ((reg.rulesFor shown.1.kind).filter fun s => s.id == r.id) = _
    rw [rulesFor_filter_id built hr own enabled]
    split <;> rfl
  rw [placedVisits, List.filter_flatMap, List.map_flatMap]
  simp only [hnode]
  induction unit.sequence.zipIdx with
  | nil => rfl
  | cons shown rest ih =>
    rw [List.flatMap_cons, List.filter_cons, ih]
    split <;> rfl

theorem placed_filter_rule (unit : SourceUnit) :
    (reg.placed unit [] (reg.placedVisits unit)).filter (fun e => e.rule == r.id) =
      reg.account unit r := by
  have same : ∀ v ∈ reg.placedVisits unit, v.2.rule.id = r.id → v.2.rule = r := by
    intro v hv hid
    have hmem := (mem_rulesFor.mp (mem_placedVisits hv)).1
    exact List.inj_on_of_nodup_map (ids_nodup built) hmem hr hid
  rw [placed_filter same, if_neg List.not_mem_nil, placedVisits_filter_id built hr own enabled,
    account_eq]

end Rule

/-- The findings of an evaluation are those that each enabled rule accounts for alone: on the nodes
that it looks at, one for each match, up to the first node on which it fails, and there the failure.
They are ordered by the place of the node, and at one node by rule. -/
theorem evaluate_accounts {unit : SourceUnit}
    (steady : ∀ r ∈ reg.rules, r.isEngine = false → r.Steady)
    (sound : unit.fault? = none) :
    ∃ entries : List PlacedFinding,
      (reg.evaluate unit).outcome = .ok {
        unit := unit.path
        findings := entries.map (·.finding)
        suppressions := unit.suppressions } ∧
      entries.Pairwise PlacedFinding.Before ∧
      (∀ e ∈ entries, ∃ r ∈ reg.rules,
        r.isEngine = false ∧ reg.isEnabled r.id = true ∧ e.rule = r.id) ∧
      ∀ r ∈ reg.rules, r.isEngine = false → reg.isEnabled r.id = true →
        entries.filter (fun e => e.rule == r.id) = reg.account unit r := by
  have hescape := run_escape_of_steady unit steady
  refine ⟨reg.placed unit [] (reg.placedVisits unit), ?_,
    placed_ordered (placedVisits_ordered built unit), ?_, ?_⟩
  · rw [(evaluate_sound sound).mpr ⟨hescape, rfl⟩, run_findings hescape, ← placedVisits_visits,
      ← placed_signed, List.map_map]
    rfl
  · intro e he
    obtain ⟨v, hv, _, hrule⟩ := mem_placed he
    obtain ⟨hmem, hown, hstays, _⟩ := mem_rulesFor.mp (mem_placedVisits hv)
    exact ⟨v.2.rule, hmem, hown, (isEnabled_iff built hmem).mpr hstays, hrule⟩
  · intro r hr own enabled
    exact placed_filter_rule built hr own enabled unit

end Built

/-- A rule on declarations that fails on methods and matches all else. -/
def faltering : Rule where
  id := "naming/faltering"
  category := .naming
  target := some .declaration
  severity := .warning
  message := "a declaration"
  predicate := some fun node _ => if node.kind == .method then .fault .notPattern else .hit {}

/-- A type with a field, a method and another field in it. -/
def roomyUnit : SourceUnit where
  path := "A"
  package := ""
  lineLengths := [20, 20, 20]
  imports := []
  suppressions := []
  declarations := [
    .type ⟨"T", .ofInts 1 1 3 2, .pub, [], [], none⟩ "class" [] [
      .field ⟨"size", .ofInts 2 1 2 5, .pub, [], [], none⟩ "int",
      .method ⟨"run", .ofInts 2 6 2 9, .pub, [], [], none⟩ {
        parameters := [], returnType := .null, throws := [], handlers := [], resourceScopes := [] },
      .field ⟨"last", .ofInts 2 10 2 14, .pub, [], [], none⟩ "int"]]

/-- The rule matches the type and the first field, fails on the method, and is not asked about the
other field. Another rule goes on. -/
theorem evaluate_accounts_roomyUnit :
    ∃ (reg : Registry) (entries : List PlacedFinding),
      ofRules [(faltering.toDraft, .null), (everyType.toDraft, .null)] {} = .ok reg ∧
      (∀ r ∈ reg.rules, r.isEngine = false → r.Steady) ∧ roomyUnit.fault? = none ∧
      (reg.evaluate roomyUnit).outcome = .ok {
        unit := "A", findings := entries.map PlacedFinding.finding, suppressions := [] } ∧
      (entries.filter fun e => e.rule == "naming/faltering").map
          (fun e => (e.place, e.finding.rule, e.finding.span, e.finding.message)) =
        [(0, "naming/faltering", .ofInts 1 1 3 2, "a declaration"),
          (1, "naming/faltering", .ofInts 2 1 2 5, "a declaration"),
          (2, "engine/rule-failure", .ofInts 2 6 2 9,
            "Rule 'naming/faltering' raised an internal error: " ++
              "TypeError: first argument must be string or compiled pattern")] ∧
      ∃ e ∈ entries, e.rule = "naming/every-type" := by
  obtain ⟨reg, built⟩ : ∃ reg,
    ofRules [(faltering.toDraft, .null), (everyType.toDraft, .null)] {} = .ok reg := ⟨_, rfl⟩
  have steady : ∀ r ∈ reg.rules, r.isEngine = false → r.Steady := by
    intro r hr own
    obtain ⟨d, hd, rfl⟩ := (mem_rules_own built own).mp hr
    rcases List.mem_pair.mp hd with rfl | rfl
    · intro predicate hpredicate node context e
      cases hpredicate
      dsimp only
      split <;> simp
    · intro predicate hpredicate node context e
      cases hpredicate
      simp
  have sound : roomyUnit.fault? = none := by
    rw [SourceUnit.fault?, SourceUnit.firstFault?, SourceUnit.walk_eq_preorder]
    rfl
  have hfaltering : faltering ∈ reg.rules :=
    (mem_rules_own built rfl).mpr ⟨(faltering.toDraft, .null), List.mem_cons_self, rfl⟩
  have hevery : everyType ∈ reg.rules :=
    (mem_rules_own built rfl).mpr
      ⟨(everyType.toDraft, .null), List.mem_cons_of_mem _ List.mem_cons_self, rfl⟩
  have enabled {r : Rule} (hr : r ∈ reg.rules) : reg.isEnabled r.id = true := by
    rw [isEnabled_iff built hr, config_eq built]
    rfl
  obtain ⟨entries, houtcome, _, _, haccounts⟩ := evaluate_accounts built steady sound
  refine ⟨reg, entries, built, steady, sound, houtcome, ?_, ?_⟩
  · have haccount := haccounts faltering hfaltering rfl (enabled hfaltering)
    have hid : faltering.id = "naming/faltering" := rfl
    rw [hid] at haccount
    rw [haccount]
    rfl
  · have haccount := haccounts everyType hevery rfl (enabled hevery)
    have hmem : ∃ e, e ∈ reg.account roomyUnit everyType := ⟨_, List.mem_cons_self⟩
    obtain ⟨e, he⟩ := hmem
    rw [← haccount] at he
    obtain ⟨he, hrule⟩ := List.mem_filter.mp he
    exact ⟨e, he, beq_iff_eq.mp hrule⟩

end Registry

end Conformance
