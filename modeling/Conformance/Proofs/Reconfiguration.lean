import Conformance.Proofs.Revision
import Conformance.Proofs.Suppressions

/-!
# What a change of the configuration does to a report

Leaving out more rules, and overriding severities, are revisions of a registry: the rules are the
same but for their severities. A report under the changed configuration can therefore be read off
the one before. Leaving out rules takes away their findings and nothing else, as long as they did
not fail; overriding severities puts the new ones on the findings of their rules.
-/

namespace Conformance

/-- The rule asks a check of the catalogue. Its parameters and its target may be any. -/
def RuleBody.UsesCatalogue (r : RuleBody) : Prop :=
  ∃ check ∈ Check.catalogue, r.predicate = some check.inspection.toPredicate

/-- The switches with further rules left out. -/
def Config.without (config : Config) (ids : List String) : Config :=
  { config with disabled := config.disabled ++ ids.map .str }

namespace Registry

/-- All rules but those of the engine ask checks of the catalogue. -/
def UsesCatalogue (reg : Registry) : Prop :=
  ∀ r ∈ reg.rules, r.isEngine = false → r.UsesCatalogue

theorem UsesCatalogue.visit {reg : Registry} (catalogue : reg.UsesCatalogue) {unit : SourceUnit}
    {v : Visit} (hv : v ∈ reg.visits unit) : v.rule.UsesCatalogue := by
  obtain ⟨hrule, hown, _⟩ := mem_rulesFor.mp (mem_visits.mp hv).2
  exact catalogue v.rule hrule hown

/-- The predicate of the rule fails on the node, or it matches and the message cannot be filled. -/
def Fails (reg : Registry) (unit : SourceUnit) (v : Visit) : Prop :=
  ∃ predicate, v.rule.predicate = some predicate ∧
    ((∃ fault, predicate v.node (reg.context unit v.rule) = .fault fault) ∨
      ∃ m fault, predicate v.node (reg.context unit v.rule) = .hit m ∧
        v.rule.render v.node unit m.values = .error fault)

/-- The rule with the identifier fails on a node of the unit that it is shown. A unit that is not
sound is shown to no rule. -/
def RaisesOn (reg : Registry) (unit : SourceUnit) (id : String) : Prop :=
  unit.fault? = none ∧ ∃ v ∈ reg.visits unit, v.rule.id = id ∧ reg.Fails unit v

theorem fails_iff {reg : Registry} {unit : SourceUnit} {v : Visit} :
    reg.Fails unit v ↔ ∃ f, reg.inspect unit v = .failure f := by
  constructor
  · rintro ⟨predicate, hpredicate, ⟨fault, hfault⟩ | ⟨m, fault, hm, hfault⟩⟩
    · refine ⟨reg.failureFinding unit v fault, ?_⟩
      simp only [inspect, hpredicate, hfault]
    · refine ⟨reg.failureFinding unit v fault, ?_⟩
      simp only [inspect, hpredicate, hm, hfault]
  · rintro ⟨f, h⟩
    simp only [inspect] at h
    split at h
    · cases h
    rename_i predicate hpredicate
    refine ⟨predicate, hpredicate, ?_⟩
    split at h
    case h_4 fault hfault => exact Or.inl ⟨fault, hfault⟩
    case h_5 m hm =>
      split at h
      · rename_i fault hfault
        exact Or.inr ⟨m, fault, hm, hfault⟩
      · cases h
    all_goals cases h

/-- A check neither stops the run nor breaks off the evaluation. -/
theorem inspect_of_catalogue {reg : Registry} {unit : SourceUnit} {v : Visit}
    (catalogue : v.rule.UsesCatalogue) :
    reg.Quiet unit v ∨ ∃ f, reg.inspect unit v = .failure f := by
  obtain ⟨check, _, hpredicate⟩ := catalogue
  simp only [Quiet, inspect, hpredicate, Inspection.toPredicate]
  cases check.inspection v.node (reg.context unit v.rule) with
  | error fault => exact Or.inr ⟨_, rfl⟩
  | ok found =>
    cases found with
    | none => exact Or.inl (Or.inl rfl)
    | some m =>
      dsimp only
      cases v.rule.render v.node unit m.values with
      | error fault => exact Or.inr ⟨_, rfl⟩
      | ok message => exact Or.inl (Or.inr ⟨_, rfl⟩)

theorem quiet_of_not_fails {reg : Registry} {unit : SourceUnit} {v : Visit}
    (catalogue : v.rule.UsesCatalogue) (h : ¬ reg.Fails unit v) : reg.Quiet unit v := by
  rcases inspect_of_catalogue catalogue with hquiet | hfailure
  · exact hquiet
  · exact absurd (fails_iff.mpr hfailure) h

/-! ### Building the registry again -/

theorem checkOverrides_ok_iff {entries : List (Rule × Value)}
    {overrides : List (String × Severity)} :
    checkOverrides entries overrides = .ok () ↔
      ∀ o ∈ overrides, ∃ e ∈ entries, e.1.id = o.1 := by
  induction overrides with
  | nil => exact iff_of_true rfl (List.forall_mem_nil _)
  | cons o rest ih =>
    have horigin : (originIn entries o.1).isSome = true ↔ ∃ e ∈ entries, e.1.id = o.1 := by
      simp [originIn, List.find?_isSome]
    rw [checkOverrides, List.forall_mem_cons, ← horigin, ← ih]
    split
    · rename_i h
      exact (and_iff_right h).symm
    · rename_i h
      exact iff_of_false (fun herror => by cases herror) fun hboth => h hboth.1

/-- Rules can be left out exactly if each is named by a value that can be written, is known, and is
not one of the engine's. -/
theorem checkDisabled_ok_iff {entries : List (Rule × Value)} {disabled : List Value} :
    checkDisabled entries disabled = .ok () ↔
      ∀ id ∈ disabled, (∃ text, PolicyError.written id.text = .ok text) ∧
        ∃ e, (entries.find? fun e => id.isText e.1.id) = some e ∧ e.1.isEngine = false := by
  induction disabled with
  | nil => exact iff_of_true rfl (List.forall_mem_nil _)
  | cons id rest ih =>
    rw [checkDisabled, List.forall_mem_cons, ← ih]
    cases htext : PolicyError.written id.text with
    | error cause => simp [bind, Except.bind]
    | ok text =>
      simp only [bind, Except.bind]
      cases hfind : entries.find? fun e => id.isText e.1.id with
      | none => simp
      | some e =>
        cases hengine : e.1.isEngine with
        | true => simp [hengine]
        | false => simp [hengine]

section Rules
variable {rules : List (Draft × Value)} {config : Config} {reg : Registry}
variable (built : ofRules rules config = .ok reg)
include built

/-- More rules can be left out if they are registered and not of the engine. The registry has the
same rules then. -/
theorem ofRules_without {ids : List String}
    (known : ∀ id ∈ ids, ∃ r, reg.get? id = some r ∧ r.isEngine = false) :
    ofRules rules (config.without ids) = .ok { reg with config := config.without ids } := by
  obtain ⟨entries, henrol, hoverrides, hdisabled, hreg⟩ := ofRules_eq_ok_iff.mp built
  have hknown : ∀ id ∈ ids.map Value.str, (∃ text, PolicyError.written id.text = .ok text) ∧
      ∃ e, (entries.find? fun e => id.isText e.1.id) = some e ∧ e.1.isEngine = false := by
    refine List.forall_mem_map.mpr fun id hid => ⟨⟨id, rfl⟩, ?_⟩
    obtain ⟨r, hr, hown⟩ := known id hid
    obtain ⟨hmem, hrid⟩ := (get?_eq_some_iff built).mp hr
    obtain ⟨e, he, rfl⟩ := (mem_rules_iff built henrol).mp hmem
    cases hfind : entries.find? fun e => (Value.str id).isText e.1.id with
    | none =>
      have habsent := List.find?_eq_none.mp hfind e he
      exact absurd (beq_iff_eq.mpr hrid.symm) habsent
    | some found =>
      -- An identifier is registered once, so what is found is the rule that is known.
      have hid' : found.1.id = id := by
        have htext := List.find?_some hfind
        exact (beq_iff_eq.mp htext).symm
      have hfound := (mem_rules_iff built henrol).mpr ⟨found, List.mem_of_find?_eq_some hfind, rfl⟩
      have hsame := (get?_eq_some_iff built).mpr ⟨hfound, hid'⟩
      rw [hr] at hsame
      refine ⟨found, rfl, ?_⟩
      have hengine := congrArg (fun r : Rule => r.isEngine) (Option.some.inj hsame)
      exact hengine.symm.trans hown
  refine ofRules_eq_ok_iff.mpr ⟨entries, henrol, hoverrides, ?_, by rw [hreg]; rfl⟩
  exact checkDisabled_ok_iff.mpr
    (List.forall_mem_append.mpr ⟨checkDisabled_ok_iff.mp hdisabled, hknown⟩)

/-- The registry under overrides has the same rules with the severities that are overridden. -/
theorem ofRules_overriding (plain : config.overrides = []) {overrides : List (String × Severity)}
    (known : ∀ o ∈ overrides, reg.contains o.1 = true) :
    ∃ reg', ofRules rules { config with overrides } = .ok reg' ∧
      reg'.rules = reg.rules.map (·.withOverride { config with overrides }) := by
  obtain ⟨entries, henrol, hoverrides, hdisabled, hreg⟩ := ofRules_eq_ok_iff.mp built
  have hknown : ∀ o ∈ overrides, ∃ e ∈ entries, e.1.id = o.1 := by
    intro o ho
    obtain ⟨r, hr⟩ := Option.isSome_iff_exists.mp (known o ho)
    obtain ⟨hmem, hrid⟩ := (get?_eq_some_iff built).mp hr
    obtain ⟨e, he, rfl⟩ := (mem_rules_iff built henrol).mp hmem
    exact ⟨e, he, hrid⟩
  refine ⟨_, ofRules_eq_ok_iff.mpr ⟨entries, henrol, checkOverrides_ok_iff.mpr hknown, hdisabled,
    rfl⟩, ?_⟩
  have hplain (r : Rule) : r.withOverride config = r := by
    rw [Rule.withOverride, plain]
    rfl
  have hsort : (entries.map fun e => (e.1.withOverride { config with overrides }, e.2)).mergeSort
      (fun a b => Text.atMost a.1.id b.1.id) =
      (entries.mergeSort fun a b => Text.atMost a.1.id b.1.id).map
        fun e => (e.1.withOverride { config with overrides }, e.2) := by
    symm
    apply List.map_mergeSort
    intro _ _ _ _
    rfl
  rw [hreg]
  simp only [Registry.rules, hsort, hplain, List.map_map, List.map_id']
  rfl

end Rules

/-- The revision that leaves out rules. -/
def leavingOut (ids : List String) : Revision where
  keeps id := !ids.contains id
  level _ severity := severity

/-- The revision that puts new severities in the place of the old ones. -/
def overriding (overrides : List (String × Severity)) : Revision where
  keeps _ := true
  level id severity := (overrides.lookup id).getD severity

theorem findings_leavingOut (ids : List String) (fs : List Finding) :
    (leavingOut ids).findings fs = fs.filter fun f => f.rule ∉ ids := by
  have hfinding : (leavingOut ids).finding = id := rfl
  rw [Revision.findings, hfinding, List.map_id]
  refine List.filter_congr fun f _ => ?_
  simp [leavingOut]

theorem findings_overriding (overrides : List (String × Severity)) (fs : List Finding) :
    (overriding overrides).findings fs =
      fs.map fun f => { f with severity := (overrides.lookup f.rule).getD f.severity } :=
  Revision.findings_of_all fun _ _ => rfl

theorem leavesOut_without (config : Config) (ids : List String) (id : String) :
    (config.without ids).leavesOut id = (config.leavesOut id || ids.contains id) := by
  rw [Bool.eq_iff_iff]
  simp [Config.leavesOut, Config.without]

section Rules
variable {rules : List (Draft × Value)} {config : Config} {reg : Registry}
variable (built : ofRules rules config = .ok reg)
include built

theorem turns_without {ids : List String}
    (known : ∀ id ∈ ids, ∃ r, reg.get? id = some r ∧ r.isEngine = false) :
    (leavingOut ids).Turns reg { reg with config := config.without ids } where
  rules := (List.map_id reg.rules).symm
  permissive := by rw [config_eq built]; rfl
  leavesOut id := by
    rw [config_eq built]
    simp [leavesOut_without, leavingOut]
  engine e he := by
    have hunnamed : e.id ∉ ids := by
      intro hid
      obtain ⟨r, hr, hown⟩ := known e.id hid
      obtain ⟨hmem, hrid⟩ := (get?_eq_some_iff built).mp hr
      exact id_ne_engine built hmem hown he hrid
    simpa [leavingOut] using hunnamed

theorem turns_overriding {overrides : List (String × Severity)} {reg' : Registry}
    (built' : ofRules rules { config with overrides } = .ok reg')
    (hrules : reg'.rules = reg.rules.map (·.withOverride { config with overrides })) :
    (overriding overrides).Turns reg reg' where
  rules := hrules
  permissive := by rw [config_eq built, config_eq built']
  leavesOut id := by
    rw [config_eq built, config_eq built']
    simp [overriding, Config.leavesOut]
  engine _ _ := rfl

/-- The rules of a registry ask the checks that its drafts ask. -/
theorem usesCatalogue_of_drafts (catalogue : ∀ d ∈ rules, d.1.UsesCatalogue) :
    reg.UsesCatalogue := by
  intro r hr hown
  obtain ⟨d, hd, rfl⟩ := (mem_rules_own built hown).mp hr
  exact catalogue d hd

theorem reportOf_stamps (refused : List (String × String)) (units : List SourceUnit)
    (cancelled : Bool) : ∀ f ∈ (reg.reportOf refused units cancelled).findings, reg.Stamps f := by
  intro f hf
  obtain ⟨r, hr, hf⟩ := List.mem_flatMap.mp (mem_of_mem_mergeFindings hf)
  have hproduced := reg.run_produces refused units cancelled r hr
  exact stamps_applyDirectives built (hproduced.stamps built) f hf

end Rules

/-- Leaving out more rules, none of which fails on the units, takes exactly their findings out of
the report. All else stays as it is: the order of the findings, their flags and their messages, the
units, the findings of the engine, and what directives mean, also those that name a rule that is
left out. -/
theorem disabling_removes_findings {packs : List Pack} {config : Config} {reg : Registry}
    (built : ofPacks packs config = .ok reg)
    (catalogue : ∀ p ∈ packs, ∀ d ∈ p.rules, d.UsesCatalogue) {ids : List String}
    (known : ∀ id ∈ ids, ∃ r, reg.get? id = some r ∧ r.isEngine = false)
    {units : List SourceUnit} (calm : ∀ u ∈ units, ∀ id ∈ ids, ¬ reg.RaisesOn u id)
    (refused : List (String × String)) (cancelled : Bool) :
    ∃ reg', ofPacks packs (config.without ids) = .ok reg' ∧
      (∀ text, reg'.parseDirective text = reg.parseDirective text) ∧
      let before := reg.reportOf refused units cancelled
      let after := reg'.reportOf refused units cancelled
      after.findings = (before.findings.filter fun f => f.rule ∉ ids) ∧
        after.findings.filter (·.isEngine) = before.findings.filter (·.isEngine) ∧
        after.units = before.units ∧ after.cancelled = before.cancelled := by
  have hrules := ofPacks_eq_ok_iff.mp built
  have turns := turns_without hrules known
  have hcatalogue : reg.UsesCatalogue := by
    apply usesCatalogue_of_drafts hrules
    intro d hd
    obtain ⟨p, hp, hdp, _⟩ := mem_draftsOf.mp hd
    exact catalogue p hp d.1 hdp
  have quiet : ∀ u ∈ units, u.fault? = none → ∀ v ∈ reg.visits u,
      (leavingOut ids).keeps v.rule.id = false → reg.Quiet u v := by
    intro u hu sound v hv hgone
    have hid : v.rule.id ∈ ids := by simpa [leavingOut] using hgone
    apply quiet_of_not_fails (hcatalogue.visit hv)
    exact fun hfails => calm u hu _ hid ⟨sound, v, hv, rfl, hfails⟩
  have hreport := reportOf_revised turns hrules refused cancelled quiet
  refine ⟨_, ofPacks_eq_ok_iff.mpr (ofRules_without hrules known), parseDirective_revised turns, ?_⟩
  simp only [hreport, Revision.report_findings, Revision.report_units, Revision.report_cancelled,
    findings_leavingOut, List.filter_filter, and_self, and_true, true_and]
  refine List.filter_congr fun f _ => ?_
  cases hengine : f.isEngine with
  | false => rfl
  | true => simpa [leavingOut] using turns.keeps_of_isEngine hengine

/-- A run over a unit with one visit, which finds something, reports it. -/
theorem reported_of_one_visit {reg : Registry} {unit : SourceUnit} (sound : unit.fault? = none)
    {v : Visit} (hvisits : reg.visits unit = [v]) {g : Finding}
    (hinspect : reg.inspect unit v = .finding g) :
    ∃ f ∈ (reg.reportOf [] [unit] false).findings,
      f.rule = g.rule ∧ f.unit = g.unit ∧ f.span = g.span := by
  have hguarded : reg.guarded unit = (some {
      unit := unit.path, findings := [g], suppressions := unit.suppressions }, false) := by
    simp [guarded, evaluate, sound, hvisits, run, hinspect]
  have hmem : ⟨unit.path, [g], unit.suppressions, false⟩ ∈
      reg.refusals [] ++ (reg.collect false [unit]).results := by
    simp [refusals, collect, hguarded]
  obtain ⟨f, hf, hid⟩ := exists_reported hmem List.mem_cons_self _
  obtain ⟨hrule, hunit, hspan, _⟩ := Finding.identity_eq_iff.mp hid
  exact ⟨f, hf, hrule, hunit, hspan⟩

/-- A rule of the catalogue that matches every public type without documentation. -/
def undocumented : Rule where
  id := "documentation/missing"
  category := .documentation
  target := some .type
  severity := .warning
  message := "undocumented"
  predicate := some (Inspection.toPredicate Check.missingPublicDoc)

/-- A rule is left out that a directive names. -/
theorem disabling_removes_findings_oneType :
    let pack : Pack := { name := .str "docs", rules := [undocumented.toDraft] }
    let unit := oneType "A" [⟨"disable documentation/missing", .ofInts 1 1 1 21⟩]
    let ids := ["documentation/missing"]
    ∃ reg reg', ofPacks [pack] {} = .ok reg ∧ ofPacks [pack] (Config.without {} ids) = .ok reg' ∧
      (∀ id ∈ ids, ¬ reg.RaisesOn unit id) ∧
      let before := reg.reportOf [] [unit] false
      let after := reg'.reportOf [] [unit] false
      (∃ f ∈ before.findings, f.rule ∈ ids) ∧
        (after.findings = before.findings.filter fun f => f.rule ∉ ids) ∧
        after.units = before.units := by
  intro pack unit ids
  obtain ⟨reg, built⟩ : ∃ reg, ofPacks [pack] {} = .ok reg := ⟨_, rfl⟩
  have hrules := ofPacks_eq_ok_iff.mp built
  have hwalk : unit.walk = [lonelyType] := walk_oneType "A" _
  have hvisits := visits_oneType hrules rfl rfl hwalk
  have hinspect : reg.inspect unit ⟨.declaration lonelyType, undocumented⟩ = .finding {
      rule := "documentation/missing", severity := .warning, unit := "A"
      span := .ofInts 1 1 1 9, message := "undocumented" } := rfl
  have catalogue : ∀ p ∈ [pack], ∀ d ∈ p.rules, d.UsesCatalogue := by
    intro p hp d hd
    cases List.mem_singleton.mp hp
    cases List.mem_singleton.mp hd
    exact ⟨{ name := "missing_public_doc", inspection := Check.missingPublicDoc },
      by simp [Check.catalogue], rfl⟩
  have known : ∀ id ∈ ids, ∃ r, reg.get? id = some r ∧ r.isEngine = false := by
    intro id hid
    cases List.mem_singleton.mp hid
    refine ⟨undocumented, (get?_eq_some_iff hrules).mpr ⟨?_, rfl⟩, rfl⟩
    exact (mem_rules_own hrules rfl).mpr
      ⟨(undocumented.toDraft, .str "docs"), List.mem_cons_self, rfl⟩
  have calm : ∀ id ∈ ids, ¬ reg.RaisesOn unit id := by
    rintro id _ ⟨_, v, hv, _, hfails⟩
    rw [hvisits] at hv
    cases List.mem_singleton.mp hv
    obtain ⟨f, hf⟩ := fails_iff.mp hfails
    cases hinspect.symm.trans hf
  have sound : unit.fault? = none := by
    rw [SourceUnit.fault?, SourceUnit.firstFault?, walk_oneType]
    rfl
  obtain ⟨reg', built', _, hfindings, _, hunits, _⟩ := disabling_removes_findings built catalogue
    known (List.forall_mem_singleton.mpr calm) [] false
  refine ⟨reg, reg', built, built', calm, ?_, hfindings, hunits⟩
  obtain ⟨f, hf, hrule, _⟩ := reported_of_one_visit sound hvisits hinspect
  exact ⟨f, hf, by rw [hrule]; exact List.mem_cons_self⟩

/-- A report under overrides is the report without them, but for the severities: each finding has
the one that its rule is given, or its former one if it is given none. And in every report each
finding carries the severity of its rule, which is registered. -/
theorem overrides_only_relabel (packs : List Pack) (config : Config) (units : List SourceUnit)
    (refused : List (String × String)) (cancelled : Bool) :
    (∀ reg overrides, ofPacks packs { config with overrides := [] } = .ok reg →
      (∀ o ∈ overrides, reg.contains o.1 = true) →
      ∃ reg', ofPacks packs { config with overrides } = .ok reg' ∧
        let before := reg.reportOf refused units cancelled
        let after := reg'.reportOf refused units cancelled
        after.findings = (before.findings.map fun f =>
          { f with severity := (overrides.lookup f.rule).getD f.severity }) ∧
        after.units = before.units ∧ after.cancelled = before.cancelled) ∧
    ∀ reg, ofPacks packs config = .ok reg →
      ∀ f ∈ (reg.reportOf refused units cancelled).findings,
        ∃ r, reg.get? f.rule = some r ∧ f.severity = r.severity := by
  constructor
  · intro reg overrides built known
    have hrules := ofPacks_eq_ok_iff.mp built
    obtain ⟨reg', built', hrelabelled⟩ := ofRules_overriding hrules rfl known
    have turns := turns_overriding hrules built' hrelabelled
    have quiet : ∀ u ∈ units, u.fault? = none → ∀ v ∈ reg.visits u,
        (overriding overrides).keeps v.rule.id = false → reg.Quiet u v := by
      intro u _ _ v _ hgone
      have hstays : (overriding overrides).keeps v.rule.id = true := rfl
      rw [hstays] at hgone
      cases hgone
    have hreport := reportOf_revised turns hrules refused cancelled quiet
    refine ⟨reg', ofPacks_eq_ok_iff.mpr built', ?_⟩
    simp only [hreport, Revision.report_findings, Revision.report_units, Revision.report_cancelled,
      findings_overriding, and_self]
  · intro reg built f hf
    exact reportOf_stamps (ofPacks_eq_ok_iff.mp built) refused units cancelled f hf

/-- A rule of a pack and one of the engine are overridden, for a unit with a finding of each. -/
theorem overrides_only_relabel_oneType :
    let pack : Pack := { name := .str "loud", rules := [everyType.toDraft] }
    let unit := oneType "A" [⟨"enable all", .ofInts 1 3 1 4⟩]
    let overrides := [("naming/every-type", Severity.error), (Rule.suppressionSyntax.id, .warning)]
    ∃ reg reg', ofPacks [pack] {} = .ok reg ∧ ofPacks [pack] { overrides } = .ok reg' ∧
      (∀ o ∈ overrides, reg.contains o.1 = true) ∧
      let before := reg.reportOf [] [unit] false
      let after := reg'.reportOf [] [unit] false
      (after.findings = before.findings.map fun f =>
        { f with severity := (overrides.lookup f.rule).getD f.severity }) ∧
      ∃ f ∈ after.findings, f.rule = "naming/every-type" ∧ f.severity = .error := by
  intro pack unit overrides
  obtain ⟨reg, built⟩ : ∃ reg, ofPacks [pack] {} = .ok reg := ⟨_, rfl⟩
  have hrules := ofPacks_eq_ok_iff.mp built
  have sound : unit.fault? = none := by
    rw [SourceUnit.fault?, SourceUnit.firstFault?, walk_oneType]
    rfl
  have known : ∀ o ∈ overrides, reg.contains o.1 = true := by
    intro o ho
    have hcontains {r : Rule} (hr : r ∈ reg.rules) : reg.contains r.id = true := by
      rw [contains, get?_id hrules hr]
      rfl
    rcases List.mem_pair.mp ho with rfl | rfl
    · exact hcontains ((mem_rules_own hrules rfl).mpr
        ⟨(everyType.toDraft, .str "loud"), List.mem_cons_self, rfl⟩)
    · have hmem : Rule.suppressionSyntax ∈ Rule.engineRules := by simp [Rule.engineRules]
      rw [contains, get?_engine hrules hmem]
      rfl
  obtain ⟨hrelabels, -⟩ := overrides_only_relabel [pack] {} [unit] [] false
  obtain ⟨reg', built', hfindings, _⟩ := hrelabels reg overrides built known
  refine ⟨reg, reg', built, built', known, hfindings, ?_⟩
  have hwalk : unit.walk = [lonelyType] := walk_oneType "A" _
  have hinspect : reg.inspect unit ⟨.declaration lonelyType, everyType⟩ = .finding {
      rule := "naming/every-type", severity := .warning, unit := "A"
      span := .ofInts 1 1 1 9, message := "a type" } := rfl
  obtain ⟨f, hf, hname, _⟩ :=
    reported_of_one_visit sound (visits_oneType hrules rfl rfl hwalk) hinspect
  rw [hfindings]
  refine ⟨_, List.mem_map_of_mem hf, hname, ?_⟩
  simp [hname, overrides]

end Registry

end Conformance
