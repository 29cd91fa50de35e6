import Conformance.Proofs.AnnotationArguments
import Conformance.Proofs.FindingOrder
import Conformance.Proofs.RuleFindings
import Conformance.Proofs.StandardChecks
import Conformance.Pack.Standard
import Mathlib.Data.Finset.Card
import Mathlib.Data.List.Sort
import Mathlib.Data.String.Basic

/-!
# The annotation policy

Under the annotation policy every annotation of a unit is judged by its name alone: banned by its
entry in the table, not in the table at all, or let through. The findings of the two rules that say
so are these judgements, one after another, whatever other rules are asked in between. A report
keeps one of the banned ones for each place.
-/

namespace Conformance

/-! ### Judgements -/

namespace AnnotationTable

/-- The entry that an annotation is judged by: under its name as written, under what the imports
make of the last part of it, or under the last part. -/
def entryFor (table : AnnotationTable) (unit : SourceUnit) (a : Annotation) : Option TableEntry :=
  table.lookup a.name <|> table.lookup (unit.resolveName a.simpleName) <|>
    table.lookup a.simpleName

/-- Whether an annotation has an entry, and it bans it. -/
def bans (table : AnnotationTable) (unit : SourceUnit) (a : Annotation) : Bool :=
  (table.entryFor unit a).any (·.tier == .banned)

end AnnotationTable

namespace Registry

def bannedFinding (reg : Registry) (unit : SourceUnit) (a : Annotation) (e : TableEntry) :
    Finding where
  rule := "annotation/banned"
  severity := (reg.config.overrides.lookup "annotation/banned").getD .error
  unit := unit.path
  span := a.span
  message := "Annotation @" ++ a.name ++ " is banned: " ++
    Check.orElseText e.reason "banned by policy"

def unlistedFinding (reg : Registry) (unit : SourceUnit) (a : Annotation) : Finding where
  rule := "annotation/unlisted"
  severity := (reg.config.overrides.lookup "annotation/unlisted").getD .error
  unit := unit.path
  span := a.span
  message := "Annotation @" ++ a.name ++ " is not on the allow-list"

/-- What is to be reported of an annotation: that its entry bans it, or that it has none and the
policy is not permissive. -/
def judgement (reg : Registry) (table : AnnotationTable) (unit : SourceUnit) (a : Annotation) :
    Option Finding :=
  match table.entryFor unit a with
  | some e => if e.tier = .banned then some (reg.bannedFinding unit a e) else none
  | none => if reg.config.permissive.isTruthy then none else some (reg.unlistedFinding unit a)

theorem judgement_eq_some_iff {reg : Registry} {table : AnnotationTable} {unit : SourceUnit}
    {a : Annotation} {f : Finding} :
    reg.judgement table unit a = some f ↔
      (∃ e, table.entryFor unit a = some e ∧ e.tier = .banned ∧ f = reg.bannedFinding unit a e) ∨
      (table.entryFor unit a = none ∧ reg.config.permissive.isTruthy = false ∧
        f = reg.unlistedFinding unit a) := by
  unfold judgement
  cases table.entryFor unit a with
  | none => cases reg.config.permissive.isTruthy <;> simp [eq_comm]
  | some e =>
    dsimp only
    constructor
    · intro h
      split_ifs at h with htier
      cases h
      exact .inl ⟨e, rfl, htier, rfl⟩
    · rintro (⟨_, ⟨⟩, htier, rfl⟩ | ⟨hnone, -⟩)
      · exact if_pos htier
      · cases hnone

end Registry

/-! ### The two checks -/

namespace Check

section Marks
variable {context : Context} {target : Option Site} {a : Annotation} {table : AnnotationTable}
variable (given : context.params.get? "table" = some (.table table))
include given

theorem hitFor_eq : hitFor a context = .ok ((table.entryFor context.unit a).map .entry) := by
  rw [hitFor, tableOf, given, Option.getD_some, firstHit_eq, candidates, AnnotationTable.entryFor]
  simp only [List.findSome?_cons, List.findSome?_nil]
  cases table.lookup a.name <;> cases table.lookup (context.unit.resolveName a.simpleName) <;>
    cases table.lookup a.simpleName <;> rfl

theorem bannedMark_eq :
    bannedMark (.mark target a) context = .ok ((table.entryFor context.unit a).bind fun e =>
      if e.tier = .banned then
        some { values := [("annotation", .str a.name),
          ("reason", .str (orElseText e.reason "banned by policy"))] }
      else none) := by
  simp only [bannedMark, annotationOf, Node.named, Node.asMark, bind, Except.bind, hitFor_eq given]
  cases table.entryFor context.unit a with
  | none => rfl
  | some e =>
    by_cases h : e.tier = .banned <;> simp [h, TableHit.asEntry, pure, Except.pure]

theorem unlistedMark_eq :
    unlistedMark (.mark target a) context = .ok (
      if context.permissive || (table.entryFor context.unit a).isSome then none
      else some { values := [("annotation", .str a.name)] }) := by
  simp only [unlistedMark, annotationOf, Node.named, Node.asMark, bind, Except.bind,
    hitFor_eq given]
  cases context.permissive with
  | true => rfl
  | false => cases table.entryFor context.unit a <;> rfl

end Marks

end Check

namespace Standard

/-- The rule against banned annotations. -/
def bannedRule (table : AnnotationTable) : Rule :=
  (annotationRules table).get ⟨0, by simp [annotationRules]⟩

/-- The rule against annotations that are not in the table. -/
def unlistedRule (table : AnnotationTable) : Rule :=
  (annotationRules table).get ⟨1, by simp [annotationRules]⟩

theorem bannedRule_mem (table : AnnotationTable) : bannedRule table ∈ annotationRules table :=
  List.get_mem ..

theorem unlistedRule_mem (table : AnnotationTable) : unlistedRule table ∈ annotationRules table :=
  List.get_mem ..

/-- The rules are not of the engine, and none of them can break off an evaluation. -/
theorem annotationRules_plain (table : AnnotationTable) : ∀ r ∈ annotationRules table,
    r.isEngine = false ∧ ∃ check : Inspection, r.predicate = some check.toPredicate := by
  simp only [annotationRules, List.forall_mem_cons]
  exact ⟨⟨rfl, _, rfl⟩, ⟨rfl, _, rfl⟩, ⟨rfl, _, rfl⟩, List.forall_mem_nil _⟩

section Messages
variable (table : AnnotationTable) (config : Config) (node : Node) (unit : SourceUnit)

theorem render_bannedRule (name reason : String) :
    ((bannedRule table).withOverride config).render node unit
        [("annotation", .str name), ("reason", .str reason)] =
      .ok ("Annotation @" ++ name ++ " is banned: " ++ reason) := by
  have hjoin : String.join ["Annotation @", name, " is banned: ", reason] =
      "Annotation @" ++ name ++ " is banned: " ++ reason := by simp [String.join]
  have hmessage : ((bannedRule table).withOverride config).message =
      "Annotation @\x7bannotation\x7d is banned: \x7breason\x7d" := rfl
  rw [← hjoin, Rule.render, hmessage]
  rfl

theorem render_unlistedRule (name : String) :
    ((unlistedRule table).withOverride config).render node unit [("annotation", .str name)] =
      .ok ("Annotation @" ++ name ++ " is not on the allow-list") := by
  have hjoin : String.join ["Annotation @", name, " is not on the allow-list"] =
      "Annotation @" ++ name ++ " is not on the allow-list" := by simp [String.join]
  have hmessage : ((unlistedRule table).withOverride config).message =
      "Annotation @\x7bannotation\x7d is not on the allow-list" := rfl
  rw [← hjoin, Rule.render, hmessage]
  rfl

end Messages

end Standard

namespace Registry
open Standard

section Inspect
variable (reg : Registry) (unit : SourceUnit) (table : AnnotationTable) (target : Option Site)
variable (a : Annotation)

/-- The rule against banned annotations says what is to be reported, if that is a ban. -/
theorem inspect_bannedRule :
    reg.inspect unit ⟨.mark target a, (bannedRule table).withOverride reg.config⟩ =
      ((reg.judgement table unit a).filter (·.rule == "annotation/banned")).elim .nothing
        .finding := by
  have hcheck : Check.bannedMark (.mark target a)
      (reg.context unit ((bannedRule table).withOverride reg.config)) =
        .ok ((table.entryFor unit a).bind _) := Check.bannedMark_eq rfl
  rw [inspect_of_check rfl]
  unfold judgement
  cases hentry : table.entryFor unit a with
  | none =>
    rw [hentry] at hcheck
    rw [answer_of_pass rfl hcheck]
    cases reg.config.permissive.isTruthy <;> rfl
  | some e =>
    rw [hentry, Option.bind_some] at hcheck
    by_cases h : e.tier = .banned
    · rw [if_pos h] at hcheck
      rw [answer_of_match rfl hcheck (render_bannedRule ..)]
      simp only [if_pos h]
      rfl
    · rw [if_neg h] at hcheck
      rw [answer_of_pass rfl hcheck]
      simp only [if_neg h]
      rfl

/-- The rule against unlisted annotations says what is to be reported, if that is a missing
entry. -/
theorem inspect_unlistedRule :
    reg.inspect unit ⟨.mark target a, (unlistedRule table).withOverride reg.config⟩ =
      ((reg.judgement table unit a).filter (·.rule == "annotation/unlisted")).elim .nothing
        .finding := by
  have hcheck : Check.unlistedMark (.mark target a)
      (reg.context unit ((unlistedRule table).withOverride reg.config)) =
        .ok (if reg.config.permissive.isTruthy || (table.entryFor unit a).isSome then none
          else some { values := [("annotation", .str a.name)] }) := Check.unlistedMark_eq rfl
  rw [inspect_of_check rfl]
  unfold judgement
  cases hentry : table.entryFor unit a with
  | none =>
    rw [hentry, Option.isSome_none, Bool.or_false] at hcheck
    by_cases h : reg.config.permissive.isTruthy = true
    · rw [if_pos h] at hcheck
      rw [answer_of_pass rfl hcheck]
      simp only [if_pos h]
      rfl
    · rw [if_neg h] at hcheck
      rw [answer_of_match rfl hcheck (render_unlistedRule ..)]
      simp only [if_neg h]
      rfl
  | some e =>
    rw [hentry, Option.isSome_some, Bool.or_true, if_pos rfl] at hcheck
    rw [answer_of_pass rfl hcheck]
    by_cases h : e.tier = .banned <;> simp only [h, if_true, if_false] <;> rfl

omit table a in
theorem yield_eq_toList {v : Visit} {found : Option Finding}
    (h : reg.inspect unit v = found.elim .nothing .finding) :
    (yield reg unit [] v).map Prod.snd = found.toList := by
  rw [yield, h]
  cases found <;> rfl

/-- Both rules together say of an annotation what is to be reported, and nothing else. -/
theorem yield_judgement :
    (([⟨.mark target a, (bannedRule table).withOverride reg.config⟩,
      ⟨.mark target a, (unlistedRule table).withOverride reg.config⟩] : List Visit).flatMap fun v =>
        (yield reg unit [] v).map Prod.snd) = (reg.judgement table unit a).toList := by
  rw [List.flatMap_cons, List.flatMap_cons, List.flatMap_nil, List.append_nil,
    yield_eq_toList reg unit (inspect_bannedRule ..),
    yield_eq_toList reg unit (inspect_unlistedRule ..)]
  cases h : reg.judgement table unit a with
  | none => rfl
  | some f =>
    rcases judgement_eq_some_iff.mp h with ⟨_, _, _, rfl⟩ | ⟨_, _, rfl⟩ <;> rfl

end Inspect

/-! ### The findings of the two rules -/

/-- Whether an identifier is that of one of the two rules. -/
def isJudging (id : String) : Bool := id == "annotation/banned" || id == "annotation/unlisted"

/-- Rules that do not fail are asked on every visit. -/
theorem signed_of_steadfast {reg : Registry} {unit : SourceUnit} {visits : List Visit}
    (h : ∀ v ∈ visits, ∀ f, reg.inspect unit v ≠ .failure f) :
    reg.signed unit [] visits = visits.flatMap (reg.yield unit []) := by
  induction visits with
  | nil => rfl
  | cons v rest ih =>
    obtain ⟨hv, hrest⟩ := List.forall_mem_cons.mp h
    have hafter : failedAfter reg unit [] v = [] := by
      cases hinspect : reg.inspect unit v with
      | failure f => exact absurd hinspect (hv f)
      | _ => simp [failedAfter, hinspect]
    rw [signed, hafter, ih hrest, List.flatMap_cons]

section Judged
variable {packs : List Pack} {config : Config} {reg : Registry} {p : Pack} {table : AnnotationTable}
variable (built : ofPacks packs config = .ok reg) (hp : p ∈ packs)
variable (rules : p.rules = (annotationRules table).map Rule.toDraft)

section Members
include built hp rules

variable (enabled : ∀ r ∈ annotationRules table, reg.isEnabled r.id = true)
include enabled

/-- Annotations are shown to the two rules, one after the other, and other nodes to neither. -/
theorem rulesFor_filter_isJudging (kind : NodeKind) :
    (reg.rulesFor kind).filter (fun r => isJudging r.id) =
      if kind = .mark then [(bannedRule table).withOverride reg.config,
        (unlistedRule table).withOverride reg.config] else [] := by
  have hbuilt := ofPacks_eq_ok_iff.mp built
  have hrule {r : Rule} (hr : r ∈ annotationRules table) (own : r.isEngine = false)
      (htarget : r.target = some .mark) :
      r.withOverride reg.config ∈ reg.rules ∧
        (r.withOverride reg.config ∈ reg.rulesFor kind ↔ kind = .mark) := by
    have hmem := mem_rules_of_pack built hp rules hr own
    have hstays := (isEnabled_iff hbuilt hmem).mp (enabled r hr)
    have hlooks : (r.withOverride reg.config).looksAt kind = true ↔ kind = .mark := by
      simp only [Rule.looksAt, Rule.withOverride, htarget]
      rw [beq_iff_eq, eq_comm]
    have hown : (r.withOverride reg.config).isEngine = false := own
    refine ⟨hmem, ?_⟩
    rw [mem_rulesFor, hlooks]
    exact ⟨fun h => h.2.2.2, fun h => ⟨hmem, hown, hstays, h⟩⟩
  obtain ⟨hbanned, hbanned'⟩ := hrule (bannedRule_mem table) rfl rfl
  obtain ⟨hunlisted, hunlisted'⟩ := hrule (unlistedRule_mem table) rfl rfl
  have hordered : (if kind = .mark then [(bannedRule table).withOverride reg.config,
      (unlistedRule table).withOverride reg.config] else []).Pairwise
      fun r s => Text.codes r.id < Text.codes s.id := by
    have hlt : Text.codes ((bannedRule table).withOverride reg.config).id <
        Text.codes ((unlistedRule table).withOverride reg.config).id := by
      change Text.codes "annotation/banned" < Text.codes "annotation/unlisted"
      decide
    split
    · exact List.pairwise_pair.mpr hlt
    · exact .nil
  apply ((rulesFor_ordered hbuilt kind).sublist List.filter_sublist).eq_of_mem_iff hordered
  intro r
  rw [List.mem_filter, isJudging, Bool.or_eq_true, beq_iff_eq, beq_iff_eq]
  constructor
  · rintro ⟨hr, hid⟩
    have hmem := (mem_rulesFor.mp hr).1
    rcases hid with hid | hid
    · obtain rfl := List.inj_on_of_nodup_map (ids_nodup hbuilt) hmem hbanned hid
      rw [if_pos (hbanned'.mp hr)]
      exact List.mem_cons_self
    · obtain rfl := List.inj_on_of_nodup_map (ids_nodup hbuilt) hmem hunlisted hid
      rw [if_pos (hunlisted'.mp hr)]
      exact List.mem_cons_of_mem _ List.mem_cons_self
  · intro hr
    split at hr
    · rename_i hkind
      rcases List.mem_pair.mp hr with rfl | rfl
      · exact ⟨hbanned'.mpr hkind, .inl rfl⟩
      · exact ⟨hunlisted'.mpr hkind, .inr rfl⟩
    · cases hr

/-- The visits of the two rules go over the annotations of the unit. -/
theorem visits_filter_isJudging (unit : SourceUnit) :
    (reg.visits unit).filter (fun v => isJudging v.rule.id) =
      unit.preorder.flatMap fun s => s.header.annotations.flatMap fun a =>
        [⟨.mark (some s) a, (bannedRule table).withOverride reg.config⟩,
          ⟨.mark (some s) a, (unlistedRule table).withOverride reg.config⟩] := by
  have hnode (node : Node) : ((reg.rulesFor node.kind).map fun r => (⟨node, r⟩ : Visit)).filter
      (fun v => isJudging v.rule.id) = if node.kind = .mark then
        [⟨node, (bannedRule table).withOverride reg.config⟩,
          ⟨node, (unlistedRule table).withOverride reg.config⟩] else [] := by
    rw [List.filter_map]
    change List.map _ ((reg.rulesFor node.kind).filter fun r => isJudging r.id) = _
    rw [rulesFor_filter_isJudging built hp rules enabled]
    split <;> rfl
  rw [visits, SourceUnit.nodes_eq_sequence, List.filter_flatMap, SourceUnit.sequence,
    List.flatMap_assoc]
  simp only [hnode]
  refine List.flatMap_congr fun s _ => ?_
  have hsite : (Node.declaration s).kind ≠ .mark := by
    cases h : s.declaration <;> simp [Node.kind, Declaration.kind, h]
  have hdoc : ((s.header.doc.map (Node.doc (some s))).toList.flatMap fun node =>
      if node.kind = .mark then [(⟨node, (bannedRule table).withOverride reg.config⟩ : Visit),
        ⟨node, (unlistedRule table).withOverride reg.config⟩] else []) = [] := by
    cases s.header.doc <;> rfl
  rw [List.flatMap_cons, if_neg hsite, List.nil_append, List.flatMap_append, hdoc, List.append_nil,
    List.flatMap_map]
  rfl

/-- Neither of the two rules ever fails. -/
theorem inspect_ne_failure {unit : SourceUnit} {v : Visit} (hv : v ∈ reg.visits unit)
    (judging : isJudging v.rule.id = true) (f : Finding) : reg.inspect unit v ≠ .failure f := by
  have hmem : v ∈ (reg.visits unit).filter fun v => isJudging v.rule.id :=
    List.mem_filter.mpr ⟨hv, judging⟩
  rw [visits_filter_isJudging built hp rules enabled] at hmem
  obtain ⟨s, _, hmem⟩ := List.mem_flatMap.mp hmem
  obtain ⟨a, _, hmem⟩ := List.mem_flatMap.mp hmem
  rcases List.mem_pair.mp hmem with rfl | rfl
  · rw [inspect_bannedRule]
    cases (reg.judgement table unit a).filter (·.rule == "annotation/banned") <;>
      simp only [Option.elim] <;> intro h <;> cases h
  · rw [inspect_unlistedRule]
    cases (reg.judgement table unit a).filter (·.rule == "annotation/unlisted") <;>
      simp only [Option.elim] <;> intro h <;> cases h

/-- What the two rules find on the annotations, in the order of the visits. -/
theorem signed_filter_isJudging (unit : SourceUnit) :
    ((reg.signed unit [] (reg.visits unit)).filter fun m => isJudging m.1).map Prod.snd =
      unit.occurrences.filterMap (reg.judgement table unit) := by
  have agree : AgreeOn isJudging [] [] := fun _ _ => rfl
  have hsteadfast : ∀ v ∈ (reg.visits unit).filter fun v => isJudging v.rule.id,
      ∀ f, reg.inspect unit v ≠ .failure f := fun v hv =>
    inspect_ne_failure built hp rules enabled (List.mem_filter.mp hv).1 (List.mem_filter.mp hv).2
  rw [← signed_filter agree, signed_of_steadfast hsteadfast,
    visits_filter_isJudging built hp rules enabled, List.map_flatMap, List.flatMap_assoc,
    SourceUnit.occurrences, List.filterMap_eq_flatMap_toList, List.flatMap_assoc]
  refine List.flatMap_congr fun s _ => ?_
  rw [List.flatMap_assoc]
  exact List.flatMap_congr fun a _ => yield_judgement reg unit table (some s) a

theorem findings_filter_isJudging {unit : SourceUnit} (sound : unit.fault? = none)
    {result : UnitResult} (evaluated : (reg.evaluate unit).outcome = .ok result) :
    result.findings.filter (fun f => isJudging f.rule) =
      unit.occurrences.filterMap (reg.judgement table unit) := by
  obtain ⟨hescape, rfl⟩ := (evaluate_sound sound).mp evaluated
  have hsame : ∀ m ∈ reg.signed unit [] (reg.visits unit),
      isJudging m.2.rule = isJudging m.1 := by
    intro m hm
    obtain ⟨v, hv, hid, hinspect | hinspect⟩ := mem_signed hm
    · rw [(inspect_finding hinspect).1, hid]
    · obtain ⟨fault, hfault⟩ := inspect_failure hinspect
      have hrule : isJudging m.2.rule = false := by
        rw [hfault]
        exact (by decide : isJudging Rule.ruleFailure.id = false)
      rw [hrule, hid]
      by_contra h
      have hjudging : isJudging v.rule.id = true := Bool.of_not_eq_false (Ne.symm h)
      exact inspect_ne_failure built hp rules enabled hv hjudging _ hinspect
  rw [run_findings hescape, List.filter_map, ← signed_filter_isJudging built hp rules enabled]
  exact congrArg _ (List.filter_congr hsame)

end Members

end Judged

/-! ### Arguments do not matter -/

theorem judgement_withoutArguments (reg : Registry) (table : AnnotationTable) (unit : SourceUnit)
    (a : Annotation) :
    reg.judgement table unit.withoutArguments a.withoutArguments = reg.judgement table unit a := rfl

theorem judgements_withoutArguments (reg : Registry) (table : AnnotationTable) (unit : SourceUnit) :
    unit.withoutArguments.occurrences.filterMap (reg.judgement table unit.withoutArguments) =
      unit.occurrences.filterMap (reg.judgement table unit) := by
  rw [SourceUnit.occurrences_withoutArguments, List.filterMap_map]
  exact List.filterMap_congr fun a _ => judgement_withoutArguments reg table unit a

/-! ### Reports -/

/-- A ban is what is to be reported of exactly the annotations that are banned. -/
theorem banned_judgement_iff {reg : Registry} {table : AnnotationTable} {unit : SourceUnit}
    {a : Annotation} :
    (∃ f, reg.judgement table unit a = some f ∧ f.rule = "annotation/banned") ↔
      table.bans unit a = true := by
  rw [AnnotationTable.bans, Option.any_eq_true]
  constructor
  · rintro ⟨f, hf, hrule⟩
    rcases judgement_eq_some_iff.mp hf with ⟨e, he, htier, -⟩ | ⟨-, -, rfl⟩
    · exact ⟨e, he, beq_iff_eq.mpr htier⟩
    · exact absurd hrule (by decide : "annotation/unlisted" ≠ "annotation/banned")
  · rintro ⟨e, he, htier⟩
    exact ⟨_, judgement_eq_some_iff.mpr (.inl ⟨e, he, beq_iff_eq.mp htier, rfl⟩), rfl⟩

theorem place_of_judgement {reg : Registry} {table : AnnotationTable} {unit : SourceUnit}
    {a : Annotation} {f : Finding} (h : reg.judgement table unit a = some f) :
    f.unit = unit.path ∧ f.span = a.span := by
  rcases judgement_eq_some_iff.mp h with ⟨_, _, _, rfl⟩ | ⟨_, _, rfl⟩ <;> exact ⟨rfl, rfl⟩

/-- Directives leave each finding in its place, and add only findings of the engine. -/
theorem mem_applyDirectives_own {reg : Registry} {result : UnitResult} {g : Finding}
    (own : g.isEngine = false) (h : g ∈ reg.applyDirectives result) :
    ∃ f ∈ result.findings, f.rule = g.rule ∧ f.unit = g.unit ∧ f.span = g.span := by
  rcases List.mem_append.mp h with h | h
  · obtain ⟨f, hf, rfl⟩ := List.mem_map.mp h
    refine ⟨f, hf, ?_⟩
    split <;> exact ⟨rfl, rfl, rfl⟩
  · obtain ⟨d, _, e, _, rfl⟩ := mem_directiveFindings.mp h
    have hengine : (reg.directiveFinding result.unit d e).isEngine = true :=
      (by decide : Rule.engineIds.contains Rule.suppressionSyntax.id = true)
    rw [hengine] at own
    cases own

/-- A report keeps one ban for each place at which an annotation is banned. -/
theorem countP_banned {reg : Registry} {table : AnnotationTable} {unit : SourceUnit}
    {result : UnitResult} (judged : result.findings.filter (fun f => isJudging f.rule) =
      unit.occurrences.filterMap (reg.judgement table unit)) (cancelled : Bool) :
    (reg.aggregate [result] cancelled).findings.countP (·.rule == "annotation/banned") =
      ((unit.occurrences.filter (table.bans unit)).map (·.span)).toFinset.card := by
  have hreport : (reg.aggregate [result] cancelled).findings =
      mergeFindings (reg.applyDirectives result) := by
    simp [aggregate, Report.ofFindings]
  have hown {f : Finding} (hrule : f.rule = "annotation/banned") : f.isEngine = false := by
    rw [Finding.isEngine, hrule]
    decide
  have hmem {f : Finding} (hrule : f.rule = "annotation/banned") :
      f ∈ result.findings ↔ ∃ a ∈ unit.occurrences, reg.judgement table unit a = some f := by
    rw [← List.mem_filterMap, ← judged, List.mem_filter, isJudging, hrule]
    simp
  -- What is left of the bans in the report, by place.
  have hplace : ∀ g ∈ mergeFindings (reg.applyDirectives result), g.rule = "annotation/banned" →
      g.unit = unit.path ∧ ∃ a ∈ unit.occurrences, table.bans unit a = true ∧ a.span = g.span := by
    intro g hg hrule
    obtain ⟨f, hf, hfrule, hfunit, hfspan⟩ :=
      mem_applyDirectives_own (hown hrule) (mem_of_mem_mergeFindings hg)
    rw [hrule] at hfrule
    obtain ⟨a, ha, hjudged⟩ := (hmem hfrule).mp hf
    obtain ⟨hunit, hspan⟩ := place_of_judgement hjudged
    exact ⟨hfunit ▸ hunit, a, ha, banned_judgement_iff.mp ⟨f, hjudged, hfrule⟩, hspan ▸ hfspan⟩
  have hnodup : (((mergeFindings (reg.applyDirectives result)).filter
      (·.rule == "annotation/banned")).map (·.span)).Nodup := by
    refine List.pairwise_map.mpr (List.Pairwise.imp_of_mem ?_
      ((mergeFindings_distinct (reg.applyDirectives result)).sublist List.filter_sublist))
    intro f g hf hg hne hspan
    obtain ⟨hf, hfrule⟩ := List.mem_filter.mp hf
    obtain ⟨hg, hgrule⟩ := List.mem_filter.mp hg
    rw [beq_iff_eq] at hfrule hgrule
    refine hne (Finding.identity_eq_iff.mpr ⟨hfrule.trans hgrule.symm, ?_, hspan, ?_⟩)
    · rw [(hplace f hf hfrule).1, (hplace g hg hgrule).1]
    · rw [hown hgrule]
      intro h
      cases h
  rw [hreport, List.countP_eq_length_filter, ← List.length_map (f := (·.span)),
    ← List.toFinset_card_of_nodup hnodup]
  congr 1
  ext s
  simp only [List.mem_toFinset, List.mem_map, List.mem_filter, beq_iff_eq]
  constructor
  · rintro ⟨g, ⟨hg, hrule⟩, rfl⟩
    obtain ⟨-, a, ha, hbans, hspan⟩ := hplace g hg hrule
    exact ⟨a, ⟨ha, hbans⟩, hspan⟩
  · rintro ⟨a, ⟨ha, hbans⟩, rfl⟩
    obtain ⟨f, hjudged, hrule⟩ := banned_judgement_iff.mpr hbans
    have hfound := (hmem hrule).mpr ⟨a, ha, hjudged⟩
    obtain ⟨g, hg, hidentity⟩ := exists_reported (List.mem_singleton_self result) hfound cancelled
    obtain ⟨hgrule, -, hgspan, -⟩ := Finding.identity_eq_iff.mp hidentity
    exact ⟨g, ⟨hreport ▸ hg, hgrule.trans hrule⟩, hgspan.trans (place_of_judgement hjudged).2⟩

/-- Under the annotation policy, the findings on banned and unlisted annotations are the judgements
of the annotations of the unit, in their order; the arguments of annotations change none of them;
and a report has as many bans as there are places with a banned annotation. -/
theorem evaluate_judges {packs : List Pack} {config : Config} {reg : Registry} {p : Pack}
    {table : AnnotationTable} {unit : SourceUnit}
    (built : ofPacks packs config = .ok reg) (hp : p ∈ packs)
    (rules : p.rules = (annotationRules table).map Rule.toDraft)
    (enabled : ∀ r ∈ annotationRules table, reg.isEnabled r.id = true)
    (sound : unit.fault? = none) :
    ((∀ r ∈ reg.rules, r.isEngine = false → r.Steady) →
      ∃ result, (reg.evaluate unit).outcome = .ok result) ∧
    ∀ result, (reg.evaluate unit).outcome = .ok result →
      result.findings.filter
          (fun f => f.rule == "annotation/banned" || f.rule == "annotation/unlisted") =
        unit.occurrences.filterMap (reg.judgement table unit) ∧
      (∀ other : SourceUnit, other.withoutArguments = unit.withoutArguments →
        other.fault? = none ∧ ∀ changed, (reg.evaluate other).outcome = .ok changed →
          changed.findings.filter
              (fun f => f.rule == "annotation/banned" || f.rule == "annotation/unlisted") =
            result.findings.filter
              (fun f => f.rule == "annotation/banned" || f.rule == "annotation/unlisted")) ∧
      ∀ cancelled,
        (reg.aggregate [result] cancelled).findings.countP (·.rule == "annotation/banned") =
          ((unit.occurrences.filter (table.bans unit)).map (·.span)).toFinset.card := by
  refine ⟨fun steady => ⟨_, (evaluate_sound sound).mpr ⟨run_escape_of_steady unit steady, rfl⟩⟩,
    fun result evaluated => ?_⟩
  have hjudged := findings_filter_isJudging built hp rules enabled sound evaluated
  refine ⟨hjudged, fun other same => ?_, countP_banned hjudged⟩
  have hsound : other.fault? = none := by
    rw [← other.fault?_withoutArguments, same, unit.fault?_withoutArguments, sound]
  refine ⟨hsound, fun changed hchanged => ?_⟩
  calc changed.findings.filter (fun f => isJudging f.rule)
    _ = other.occurrences.filterMap (reg.judgement table other) :=
      findings_filter_isJudging built hp rules enabled hsound hchanged
    _ = unit.occurrences.filterMap (reg.judgement table unit) := by
      rw [← judgements_withoutArguments, same, judgements_withoutArguments]
    _ = result.findings.filter (fun f => isJudging f.rule) := hjudged.symm

/-- A table with a ban and an allowed name that has to be imported. -/
def smallTable : AnnotationTable :=
  [("Data", Standard.banned ""), ("javax.inject.Inject", Standard.allowed)]

/-- The annotation policy of the table. -/
def smallPack : Pack where
  name := .str "small"
  rules := (annotationRules smallTable).map Rule.toDraft

/-- A type with a banned annotation, and in it a field with the same annotation twice at one place,
an imported one and one that is not in the table. -/
def annotatedUnit : SourceUnit where
  path := "A"
  package := ""
  lineLengths := [20, 20, 20]
  imports := [⟨"javax.inject.Inject", .ofInts 1 1 1 5, false⟩]
  suppressions := []
  declarations := [
    .type ⟨"T", .ofInts 1 1 3 2, .pub, [], [⟨"lombok.Data", .ofInts 1 1 1 9, []⟩], none⟩
      "class" [] [
        .field ⟨"size", .ofInts 2 1 2 20, .pub, [], [⟨"Inject", .ofInts 2 1 2 3, []⟩,
          ⟨"Data", .ofInts 2 4 2 6, [(.str "value", .int 1)]⟩, ⟨"Data", .ofInts 2 4 2 6, []⟩,
          ⟨"Odd", .ofInts 2 7 2 9, []⟩], none⟩ "int"]]

theorem evaluate_judges_annotatedUnit :
    ∃ (reg : Registry) (result : UnitResult),
      ofPacks [smallPack] {} = .ok reg ∧ (reg.evaluate annotatedUnit).outcome = .ok result ∧
      (result.findings.filter
          (fun f => f.rule == "annotation/banned" || f.rule == "annotation/unlisted")).map
          (fun f => (f.rule, f.span)) =
        [("annotation/banned", .ofInts 1 1 1 9), ("annotation/banned", .ofInts 2 4 2 6),
          ("annotation/banned", .ofInts 2 4 2 6), ("annotation/unlisted", .ofInts 2 7 2 9)] ∧
      annotatedUnit.withoutArguments.fault? = none ∧
      (reg.aggregate [result] false).findings.countP (·.rule == "annotation/banned") = 2 := by
  obtain ⟨reg, built⟩ : ∃ reg, ofPacks [smallPack] {} = .ok reg := ⟨_, rfl⟩
  have hbuilt := ofPacks_eq_ok_iff.mp built
  have plain := annotationRules_plain smallTable
  have steady := steady_of_checks rfl built fun r hr => (plain r hr).2
  have enabled : ∀ r ∈ annotationRules smallTable, reg.isEnabled r.id = true :=
    fun r hr => isEnabled_of_default rfl built hr (plain r hr).1
  have sound : annotatedUnit.fault? = none := by
    rw [SourceUnit.fault?, SourceUnit.firstFault?, SourceUnit.walk_eq_preorder]
    rfl
  have hjudgement : reg.judgement = judgement ⟨{}, []⟩ := by
    obtain ⟨config, entries⟩ := reg
    cases config_eq hbuilt
    rfl
  obtain ⟨hresult, hall⟩ := evaluate_judges built List.mem_cons_self rfl enabled sound
  obtain ⟨result, hresult⟩ := hresult steady
  obtain ⟨hjudged, hothers, hcount⟩ := hall result hresult
  refine ⟨reg, result, built, hresult, ?_, (hothers annotatedUnit.withoutArguments rfl).1, ?_⟩
  · rw [hjudged, hjudgement]
    rfl
  · rw [hcount]
    decide +kernel

end Registry

end Conformance
