import Conformance.Proofs.RuleAccounts
import Mathlib.Data.List.Forall2

/-!
# The findings of one rule

Among the findings of an evaluation, those under the identifier of a rule are the matches that the
rule accounts for. A rule on declarations that never fails has one finding for each declaration that
it flags, in the order of the declarations.
-/

namespace Conformance

/-- A check can fail, and does nothing worse. -/
theorem Rule.steady_of_check {r : Rule} {check : Inspection}
    (predicate : r.predicate = some check.toPredicate) : r.Steady := by
  intro asked hasked node context e
  rw [predicate] at hasked
  cases hasked
  unfold Inspection.toPredicate
  split <;> intro h <;> cases h

theorem Rule.looksAt_of_target {r : Rule} {kind : NodeKind} (target : r.target = some kind)
    (single : kind ≠ .declaration) {shown : NodeKind} : r.looksAt shown = true ↔ shown = kind := by
  rw [Rule.looksAt, target]
  cases kind with
  | declaration => exact absurd rfl single
  | _ => exact beq_iff_eq.trans eq_comm

/-- Of the nodes of a declaration, one has the kind of a declaration. -/
theorem SourceUnit.sequence_filter_declared (u : SourceUnit) {kind : NodeKind}
    (declared : kind = .type ∨ kind = .method ∨ kind = .field) :
    u.sequence.filter (fun node => node.kind == kind) =
      (u.preorder.filter fun s => s.declaration.kind == kind).map Node.declaration := by
  have hrest (s : Site) : (s.header.annotations.map (Node.mark (some s)) ++
      (s.header.doc.map (Node.doc (some s))).toList).filter
        (fun node => node.kind == kind) = [] := by
    rw [List.filter_eq_nil_iff]
    intro node hnode
    rcases List.mem_append.mp hnode with hnode | hnode
    · obtain ⟨a, -, rfl⟩ := List.mem_map.mp hnode
      rcases declared with rfl | rfl | rfl <;> exact Bool.false_ne_true
    · obtain ⟨c, -, rfl⟩ := Option.map_eq_some_iff.mp (Option.mem_toList.mp hnode)
      rcases declared with rfl | rfl | rfl <;> exact Bool.false_ne_true
  rw [SourceUnit.sequence]
  induction u.preorder with
  | nil => rfl
  | cons s rest ih =>
    rw [List.flatMap_cons, List.filter_append, ih, List.filter_cons, List.filter_cons, hrest,
      Node.kind]
    split <;> rfl

/-- The second answer is the first, or takes a match of the first back. -/
inductive Answer.Eases : Answer → Answer → Prop where
  | same (answer : Answer) : Eases answer answer
  | settled (span : Span) (message : String) : Eases (.matched span message) .passes

namespace Registry

/-- The finding that a rule makes of a match at a node. -/
def matchFinding (unit : SourceUnit) (r : Rule) (span : Span) (message : String) : Finding where
  rule := r.id
  severity := r.severity
  unit := unit.path
  span := span
  message := message

/-- What comes of showing a node to a rule that gives the answer. -/
def verdict (reg : Registry) (unit : SourceUnit) (r : Rule) (node : Node) : Answer → Verdict
  | .passes => .nothing
  | .matched span message => .finding (matchFinding unit r span message)
  | .raises fault => .failure (reg.failureFinding unit ⟨node, r⟩ fault)

section Answers
variable {reg : Registry} {unit : SourceUnit} {r : Rule} {check : Inspection}
variable (predicate : r.predicate = some check.toPredicate) {node : Node}
include predicate

theorem answer_of_pass (h : check node (reg.context unit r) = .ok none) :
    reg.answer unit r node = .passes := by
  simp only [answer, predicate, Inspection.toPredicate, h]

theorem answer_of_match {m : Match} {message : String}
    (h : check node (reg.context unit r) = .ok (some m))
    (filled : r.render node unit m.values = .ok message) :
    reg.answer unit r node = .matched (m.span.getD node.span) message := by
  simp only [answer, predicate, Inspection.toPredicate, h, filled]

/-- A check that flags some declarations, and gives its message the same values each time. -/
theorem answer_of_flag {s : Site} {flag : Bool} {values : Template.Fields} {message : String}
    (h : check (.declaration s) (reg.context unit r) =
      .ok (if flag then some { values } else none))
    (filled : r.render (.declaration s) unit values = .ok message) :
    reg.answer unit r (.declaration s) =
      if flag then .matched s.declaration.span message else .passes := by
  cases flag with
  | true => exact answer_of_match predicate h filled
  | false => exact answer_of_pass predicate h

theorem answer_of_fault {fault : Fault} (h : check node (reg.context unit r) = .error fault) :
    reg.answer unit r node = .raises fault := by
  simp only [answer, predicate, Inspection.toPredicate, h]

/-- A check neither stops nor breaks off an evaluation, so its answer is all there is. -/
theorem inspect_of_check :
    reg.inspect unit ⟨node, r⟩ = reg.verdict unit r node (reg.answer unit r node) := by
  simp only [inspect, answer, predicate, Inspection.toPredicate]
  cases check node (reg.context unit r) with
  | error fault => rfl
  | ok found =>
    cases found with
    | none => rfl
    | some m =>
      dsimp only
      cases r.render node unit m.values with
      | error fault => rfl
      | ok message => rfl

end Answers

/-- What a rule finds under its own identifier on the nodes that it is shown, until it fails. -/
def ownFindings (reg : Registry) (unit : SourceUnit) (r : Rule) : List Node → List Finding
  | [] => []
  | node :: rest =>
    match reg.answer unit r node with
    | .passes => reg.ownFindings unit r rest
    | .matched span message => matchFinding unit r span message :: reg.ownFindings unit r rest
    | .raises _ => []

section Findings
variable {reg : Registry} {unit : SourceUnit} {r : Rule}

theorem contributions_own (own : r.id ≠ Rule.ruleFailure.id) (shown : List (Node × Nat)) :
    ((reg.contributions unit r shown).filter fun e => e.finding.rule == r.id).map (·.finding) =
      reg.ownFindings unit r (shown.map Prod.fst) := by
  induction shown with
  | nil => rfl
  | cons s rest ih =>
    obtain ⟨node, place⟩ := s
    rw [contributions, List.map_cons, ownFindings]
    cases reg.answer unit r node with
    | passes => exact ih
    | matched span message => simp [ih, matchFinding]
    | raises fault =>
      have hother : "engine/rule-failure" ≠ r.id := own.symm
      simp [hother]

theorem ownFindings_declarations {flagged : Site → Bool} {message : Site → String}
    {sites : List Site}
    (answers : ∀ s ∈ sites, reg.answer unit r (.declaration s) =
      if flagged s then .matched s.declaration.span (message s) else .passes) :
    reg.ownFindings unit r (sites.map Node.declaration) =
      (sites.filter flagged).map fun s =>
        matchFinding unit r s.declaration.span (message s) := by
  induction sites with
  | nil => rfl
  | cons s rest ih =>
    obtain ⟨hs, hrest⟩ := List.forall_mem_cons.mp answers
    rw [List.map_cons, ownFindings, hs, ih hrest, List.filter_cons]
    cases flagged s <;> rfl

/-- A rule that answers the same on two units, or takes matches back on the second, finds nothing
new there. -/
theorem ownFindings_eased {wide : SourceUnit} (path : wide.path = unit.path)
    {nodes nodes' : List Node}
    (h : List.Forall₂ (fun node node' => (reg.answer unit r node).Eases (reg.answer wide r node'))
      nodes nodes') :
    (reg.ownFindings wide r nodes').Sublist (reg.ownFindings unit r nodes) := by
  induction h with
  | nil => exact List.Sublist.refl _
  | @cons node node' rest rest' hnode _ ih =>
    rw [ownFindings, ownFindings]
    generalize reg.answer unit r node = answer at hnode ⊢
    generalize reg.answer wide r node' = answer' at hnode ⊢
    cases hnode with
    | same =>
      cases answer with
      | passes => exact ih
      | matched span message =>
        have hfinding : matchFinding wide r span message = matchFinding unit r span message := by
          simp only [matchFinding, path]
        dsimp only
        rw [hfinding]
        exact ih.cons_cons _
      | raises fault => exact List.nil_sublist _
    | settled span message => exact ih.cons _

end Findings

theorem shown_nodes (unit : SourceUnit) (r : Rule) :
    (unit.sequence.zipIdx.filter fun s => r.looksAt s.1.kind).map Prod.fst =
      unit.sequence.filter fun node => r.looksAt node.kind := by
  conv_rhs => rw [← List.zipIdx_map_fst 0 unit.sequence, List.filter_map]
  rfl

section Built
variable {rules : List (Draft × Value)} {config : Config} {reg : Registry}
variable (built : ofRules rules config = .ok reg)
include built

section Rule
variable {r : Rule} (hr : r ∈ reg.rules) (own : r.isEngine = false)
include hr own

/-- Failures are reported under an identifier of the engine, so a finding under the identifier of a
rule was made for that rule. -/
theorem rule_of_placed {unit : SourceUnit} {e : PlacedFinding}
    (he : e ∈ reg.placed unit [] (reg.placedVisits unit)) (hrule : e.finding.rule = r.id) :
    e.rule = r.id := by
  have hmem : (e.rule, e.finding) ∈ reg.signed unit [] (reg.visits unit) := by
    rw [← placedVisits_visits, ← placed_signed]
    exact List.mem_map_of_mem (f := fun e => (e.rule, e.finding)) he
  obtain ⟨v, -, hid, hinspect | hinspect⟩ := mem_signed hmem
  · exact (hid.trans (inspect_finding hinspect).1.symm).trans hrule
  · obtain ⟨fault, hfault⟩ := inspect_failure hinspect
    have hengine : e.finding.rule = Rule.ruleFailure.id := congrArg (·.rule) hfault
    have hne : r.id ≠ Rule.ruleFailure.id := id_ne_engine built hr own (by simp [Rule.engineRules])
    exact absurd (hrule.symm.trans hengine) hne

variable (enabled : reg.isEnabled r.id = true)
include enabled

variable {unit : SourceUnit} {result : UnitResult}
variable (sound : unit.fault? = none) (evaluated : (reg.evaluate unit).outcome = .ok result)
include sound evaluated

/-- A finding under the identifier of a rule comes from a match of that rule. -/
theorem findings_of_rule :
    result.findings.filter (fun f => f.rule == r.id) =
      reg.ownFindings unit r (unit.sequence.filter fun node => r.looksAt node.kind) := by
  have hne : r.id ≠ Rule.ruleFailure.id := id_ne_engine built hr own (by simp [Rule.engineRules])
  obtain ⟨hescape, rfl⟩ := (evaluate_sound sound).mp evaluated
  have hfindings : (reg.run unit [] (reg.visits unit)).findings =
      (reg.placed unit [] (reg.placedVisits unit)).map (·.finding) := by
    rw [run_findings hescape, ← placedVisits_visits, ← placed_signed, List.map_map]
    rfl
  rw [← shown_nodes, ← contributions_own hne, ← account_eq, hfindings, List.filter_map,
    ← placed_filter_rule built hr own enabled, List.filter_filter]
  refine congrArg _ (List.filter_congr fun e he => ?_)
  by_cases hrule : e.finding.rule = r.id
  · simp [hrule, rule_of_placed built hr own he hrule]
  · simp [hrule]

/-- A rule on declarations of one kind, which flags some of them and never fails. -/
theorem findings_on_declarations {kind : NodeKind} (target : r.target = some kind)
    (declared : kind = .type ∨ kind = .method ∨ kind = .field) {flagged : Site → Bool}
    {message : Site → String}
    (answers : ∀ s, s.declaration.kind = kind → reg.answer unit r (.declaration s) =
      if flagged s then .matched s.declaration.span (message s) else .passes) :
    result.findings.filter (fun f => f.rule == r.id) =
      (unit.preorder.filter fun s => s.declaration.kind == kind && flagged s).map fun s =>
        matchFinding unit r s.declaration.span (message s) := by
  have single : kind ≠ .declaration := by
    rcases declared with rfl | rfl | rfl <;> exact NodeKind.noConfusion
  have hshown : (unit.sequence.filter fun node => r.looksAt node.kind) =
      (unit.preorder.filter fun s => s.declaration.kind == kind).map Node.declaration := by
    rw [← unit.sequence_filter_declared declared]
    refine List.filter_congr fun node _ => ?_
    rw [Bool.eq_iff_iff, Rule.looksAt_of_target target single, beq_iff_eq]
  rw [findings_of_rule built hr own enabled sound evaluated, hshown, ownFindings_declarations
    fun s hs => answers s (beq_iff_eq.mp (List.mem_filter.mp hs).2), List.filter_filter]
  simp only [Bool.and_comm]

end Rule

section Refused
variable {r : Rule} (hr : r ∈ reg.rules) (own : r.isEngine = false)
include hr own

/-- What is said of a unit that is refused comes from the engine. -/
theorem findings_of_refused {unit : SourceUnit} {e : ModelError} {result : UnitResult}
    (refused : unit.fault? = some e) (evaluated : (reg.evaluate unit).outcome = .ok result) :
    result.findings.filter (fun f => f.rule == r.id) = [] := by
  have hne : r.id ≠ Rule.modelError.id := id_ne_engine built hr own (by simp [Rule.engineRules])
  simp only [evaluate, refused] at evaluated
  cases hwritten : e.written with
  | error cause => simp [hwritten] at evaluated
  | ok detail =>
    simp only [hwritten, Except.ok.injEq] at evaluated
    rw [← evaluated, modelErrorResult]
    simp [hne.symm]

/-- A rule that takes matches back on a second unit, and else answers the same, has no finding there
that it does not have on the first. -/
theorem findings_eased (enabled : reg.isEnabled r.id = true) {u v : SourceUnit}
    (path : v.path = u.path) (sound : v.fault? = none → u.fault? = none)
    (eased : List.Forall₂ (fun node node' => (reg.answer u r node).Eases (reg.answer v r node'))
      (u.sequence.filter fun node => r.looksAt node.kind)
      (v.sequence.filter fun node => r.looksAt node.kind))
    {resultU resultV : UnitResult} (evaluatedU : (reg.evaluate u).outcome = .ok resultU)
    (evaluatedV : (reg.evaluate v).outcome = .ok resultV) :
    (resultV.findings.filter fun f => f.rule == r.id).Sublist
      (resultU.findings.filter fun f => f.rule == r.id) := by
  cases hv : v.fault? with
  | some e =>
    rw [findings_of_refused built hr own hv evaluatedV]
    exact List.nil_sublist _
  | none =>
    rw [findings_of_rule built hr own enabled (sound hv) evaluatedU,
      findings_of_rule built hr own enabled hv evaluatedV]
    exact ownFindings_eased path eased

end Refused

end Built

section Packs
variable {packs : List Pack} {config : Config} {reg : Registry}

/-- A rule of a pack is registered, with the severity that the configuration gives it. -/
theorem mem_rules_of_pack (built : ofPacks packs config = .ok reg) {p : Pack} (hp : p ∈ packs)
    {own : List Rule} (rules : p.rules = own.map Rule.toDraft) {r : Rule} (hr : r ∈ own)
    (plain : r.isEngine = false) : r.withOverride reg.config ∈ reg.rules := by
  have hbuilt := ofPacks_eq_ok_iff.mp built
  have hplain : (r.withOverride config).isEngine = false := plain
  have hdraft : (r.toDraft, p.name) ∈ draftsOf packs :=
    mem_draftsOf.mpr ⟨p, hp, rules ▸ List.mem_map_of_mem hr, rfl⟩
  rw [config_eq hbuilt]
  exact (mem_rules_own hbuilt hplain).mpr ⟨_, hdraft, rfl⟩

section Single
variable {p : Pack} {own : List Rule} (rules : p.rules = own.map Rule.toDraft)
include rules

theorem steady_of_checks (built : ofPacks [p] config = .ok reg)
    (checks : ∀ r ∈ own, ∃ check : Inspection, r.predicate = some check.toPredicate) :
    ∀ r ∈ reg.rules, r.isEngine = false → r.Steady := by
  intro r hr plain
  obtain ⟨d, hd, rfl⟩ := (mem_rules_own (ofPacks_eq_ok_iff.mp built) plain).mp hr
  obtain ⟨_, hpack, hdraft, -⟩ := mem_draftsOf.mp hd
  cases List.mem_singleton.mp hpack
  rw [rules] at hdraft
  obtain ⟨s, hs, hdraft⟩ := List.mem_map.mp hdraft
  have hpredicate : ((entryOf d).1.withOverride config).predicate = s.predicate :=
    congrArg (·.predicate) hdraft.symm
  obtain ⟨check, hcheck⟩ := checks s hs
  exact Rule.steady_of_check (hpredicate.trans hcheck)

theorem isEnabled_of_default (built : ofPacks [p] {} = .ok reg) {r : Rule} (hr : r ∈ own)
    (plain : r.isEngine = false) : reg.isEnabled r.id = true := by
  have hbuilt := ofPacks_eq_ok_iff.mp built
  have hmem := mem_rules_of_pack built List.mem_cons_self rules hr plain
  refine (isEnabled_iff hbuilt hmem).mpr ?_
  rw [config_eq hbuilt]
  rfl

end Single

end Packs

end Registry

end Conformance
