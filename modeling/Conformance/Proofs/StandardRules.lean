import Conformance.Proofs.RuleIndependence
import Conformance.Proofs.StandardChecks
import Conformance.Proofs.Traversal

/-!
# The standard packs do not fail

A rule is reliable if its check never fails on the nodes that it is shown and its message can be
filled for every match. All rules of the standard packs are, as long as the integers in annotation
arguments can be written. So under the standard packs no evaluation ends in a rule failure.
-/

namespace Conformance

theorem Template.AreTexts.append {names more : List String} {values others : Fields}
    (h : AreTexts names values) (h' : AreTexts more others) :
    AreTexts (names ++ more) (values ++ others) := by
  obtain ⟨rfl, hvalues⟩ := h
  obtain ⟨rfl, hothers⟩ := h'
  exact ⟨List.map_append, List.forall_mem_append.mpr ⟨hvalues, hothers⟩⟩

/-- The node belongs to a declaration, and its integers are short. -/
def Node.IsWritable : Node → Prop
  | declaration _ => True
  | mark target a => target.isSome = true ∧ a.IsWritable
  | doc owner _ => owner.isSome = true

/-- The nodes that a rule with the given target is shown. -/
inductive Node.Suits : NodeKind → Node → Prop where
  | declaration (site : Site) : Suits .declaration (.declaration site)
  | type (site : Site) : Suits .type (.declaration site)
  | field (site : Site) : Suits .field (.declaration site)
  | method {site : Site} {header : Header} {signature : Signature}
      (h : site.declaration = .method header signature) : Suits .method (.declaration site)
  | mark (target : Option Site) (a : Annotation) : Suits .mark (.mark target a)
  | doc (owner : Option Site) (d : DocComment) : Suits .doc (.doc owner d)

theorem Rule.suits_of_looksAt {r : Rule} {kind : NodeKind} {node : Node}
    (target : r.target = some kind) (h : r.looksAt node.kind = true) : node.Suits kind := by
  rw [looksAt, target] at h
  cases node with
  | declaration site =>
    cases kind with
    | declaration => exact .declaration site
    | type => exact .type site
    | field => exact .field site
    | method =>
      cases hsite : site.declaration with
      | method header signature => exact .method hsite
      | _ => simp [Node.kind, Declaration.kind, hsite] at h
    | _ => cases hsite : site.declaration <;> simp [Node.kind, Declaration.kind, hsite] at h
  | mark target a =>
    cases kind with
    | mark => exact .mark _ a
    | _ => cases h
  | doc owner d =>
    cases kind with
    | doc => exact .doc owner d
    | _ => cases h

theorem nodeFields_texts_of_site {node : Node} {site : Site} (hsite : node.site? = some site)
    (id : String) (unit : SourceUnit) :
    Template.AreTexts renderFields (nodeFields (.str id) node unit) := by
  rw [nodeFields, hsite]
  exact ⟨rfl, by simp⟩

theorem nodeFields_texts {node : Node} (writable : node.IsWritable) (id : String)
    (unit : SourceUnit) : Template.AreTexts renderFields (nodeFields (.str id) node unit) := by
  obtain ⟨site, hsite⟩ : ∃ site, node.site? = some site := by
    cases node with
    | declaration site => exact ⟨site, rfl⟩
    | mark target a => exact Option.isSome_iff_exists.mp writable.1
    | doc owner d => exact Option.isSome_iff_exists.mp writable
  exact nodeFields_texts_of_site hsite id unit

namespace Rule

/-- The rule answers on every node that it is shown, and every match has a message. -/
def IsReliable (r : Rule) : Prop :=
  ∃ check : Inspection, r.predicate = some check.toPredicate ∧
    ∀ node unit permissive, r.looksAt node.kind = true → node.IsWritable →
      ∃ found, check node ⟨unit, r.params, permissive⟩ = .ok found ∧
        ∀ m, found = some m → ∃ text, r.render node unit m.values = .ok text

section Answered
variable {r : Rule} {check : Inspection} {kind : NodeKind} {cs : List Char}
variable (predicate : r.predicate = some check.toPredicate) (message : r.message = String.ofList cs)
variable (names : List String) (uses : Template.usesOnly cs (names ++ renderFields) = true)
include predicate message uses

/-- A rule whose message uses only what its check and the node give is reliable. -/
theorem reliable_of_answered (target : r.target = some kind)
    (answered : ∀ node unit permissive, node.Suits kind → node.IsWritable →
      Check.Answered names (check node ⟨unit, r.params, permissive⟩)) : r.IsReliable := by
  refine ⟨check, predicate, fun node unit permissive hkind hwritable => ?_⟩
  have hanswer := answered node unit permissive (suits_of_looksAt target hkind) hwritable
  cases hcheck : check node ⟨unit, r.params, permissive⟩ with
  | error f =>
    rw [hcheck] at hanswer
    cases hanswer
  | ok found =>
    rw [hcheck] at hanswer
    refine ⟨found, rfl, ?_⟩
    rintro m rfl
    have htexts : Template.AreTexts names m.values := hanswer
    have hall := htexts.append (nodeFields_texts hwritable r.id unit)
    rw [render, message]
    exact Template.render_ok uses hall.supplied

-- The node is taken apart here, while the check is still unknown: a case split under a check of the
-- catalogue would evaluate it.
theorem reliable_of_mark (target : r.target = some .mark)
    (answered : ∀ site a unit permissive, a.IsWritable →
      Check.Answered names (check (.mark site a) ⟨unit, r.params, permissive⟩)) :
    r.IsReliable := by
  apply reliable_of_answered predicate message names uses target
  rintro _ unit permissive ⟨⟩ hwritable
  exact answered _ _ unit permissive hwritable.2

theorem reliable_of_doc (target : r.target = some .doc)
    (answered : ∀ owner d unit permissive,
      Check.Answered names (check (.doc owner d) ⟨unit, r.params, permissive⟩)) :
    r.IsReliable := by
  apply reliable_of_answered predicate message names uses target
  rintro _ unit permissive ⟨⟩ _
  exact answered _ _ unit permissive

theorem reliable_of_site (target : r.target = some kind) (declares : kind ∉ [.mark, .doc])
    (answered : ∀ site unit permissive,
      Check.Answered names (check (.declaration site) ⟨unit, r.params, permissive⟩)) :
    r.IsReliable := by
  apply reliable_of_answered predicate message names uses target
  intro node unit permissive hsuits _
  cases hsuits with
  | declaration site => exact answered site unit permissive
  | type site => exact answered site unit permissive
  | field site => exact answered site unit permissive
  | method _ => exact answered _ unit permissive
  | mark _ _ => simp at declares
  | doc _ _ => simp at declares

theorem reliable_of_method (target : r.target = some .method)
    (answered : ∀ site header signature unit permissive,
      site.declaration = .method header signature →
        Check.Answered names (check (.declaration site) ⟨unit, r.params, permissive⟩)) :
    r.IsReliable := by
  apply reliable_of_answered predicate message names uses target
  intro node unit permissive hsuits _
  cases hsuits with
  | method hmethod => exact answered _ _ _ unit permissive hmethod

end Answered

end Rule

namespace Standard

theorem annotationTable_modest : ∀ entry ∈ annotationTable, Check.IsModest entry.2 := by
  have hallowed : Check.IsModest allowed := ⟨nofun, List.forall_mem_nil _⟩
  have hbanned (reason : String) : Check.IsModest (banned reason) := ⟨nofun, List.forall_mem_nil _⟩
  have hexplicit (reason : String) : Check.IsModest (explicitOnly reason) :=
    ⟨fun _ => ⟨_, rfl⟩, by simp [explicitOnly]⟩
  simp [annotationTable, hallowed, hbanned, hexplicit]

theorem annotationRules_reliable {table : AnnotationTable}
    (modest : ∀ entry ∈ table, Check.IsModest entry.2) :
    ∀ r ∈ annotationRules table, r.IsReliable := by
  simp only [annotationRules, List.forall_mem_cons]
  refine ⟨?banned, ?unlisted, ?caution, List.forall_mem_nil _⟩
  case banned =>
    apply Rule.reliable_of_mark rfl rfl ["annotation", "reason"] (by decide +kernel) rfl
    intro site a unit permissive hwritable
    exact Check.bannedMark_answered rfl
  case unlisted =>
    apply Rule.reliable_of_mark rfl rfl ["annotation"] (by decide +kernel) rfl
    intro site a unit permissive hwritable
    exact Check.unlistedMark_answered rfl
  case caution =>
    apply Rule.reliable_of_mark rfl String.ofList_append.symm
      ["annotation", "missing", "reason", "target"] (by decide +kernel) rfl
    intro site a unit permissive hwritable
    exact Check.cautionArguments_answered rfl modest hwritable

theorem nullnessRules_reliable (nullable nonNull : List String) :
    ∀ r ∈ nullnessRules (nullable.map .str) (nonNull.map .str), r.IsReliable := by
  simp only [nullnessRules, List.forall_mem_cons]
  refine ⟨?_, List.forall_mem_nil _⟩
  apply Rule.reliable_of_site rfl rfl ["nullable", "non_null"] (by decide +kernel) rfl
    (by decide)
  intro site unit permissive
  exact Check.conflictingNullness_answered rfl rfl

theorem documentationRules_reliable (order single : List String) (marker : String)
    (severity : Severity) :
    ∀ r ∈ documentationRules (order.map .str) (single.map .str) (.str marker) severity,
      r.IsReliable := by
  simp only [documentationRules, List.forall_mem_cons]
  refine ⟨?order, ?deprecation, ?summary, ?missing, List.forall_mem_nil _⟩
  case order =>
    apply Rule.reliable_of_doc rfl rfl ["tag", "detail"] (by decide +kernel) rfl
    intro owner d unit permissive
    exact Check.tagOrder_answered rfl rfl
  case deprecation =>
    apply Rule.reliable_of_site rfl rfl ["detail"] (by decide +kernel) rfl (by decide)
    intro site unit permissive
    exact Check.deprecationMismatch_answered rfl
  case summary =>
    apply Rule.reliable_of_doc rfl rfl ["owner", "detail"] (by decide +kernel) rfl
    intro owner d unit permissive
    exact Check.summaryPeriod_answered
  case missing =>
    apply Rule.reliable_of_site rfl rfl [] (by decide +kernel) rfl (by decide)
    intro site unit permissive
    exact Check.missingPublicDoc_answered rfl

theorem resourceRules_reliable (capabilities : List String) (method : Value) :
    ∀ r ∈ resourceRules (capabilities.map .str) method, r.IsReliable := by
  simp only [resourceRules, List.forall_mem_cons]
  refine ⟨?_, List.forall_mem_nil _⟩
  apply Rule.reliable_of_method rfl String.ofList_append.symm ["owner", "capability", "throws"]
    (by decide +kernel) rfl
  intro site header signature unit permissive hmethod
  exact Check.closeThrows_answered hmethod rfl

theorem concurrencyRules_reliable (markers : List String) (marker : Value) :
    ∀ r ∈ concurrencyRules (markers.map .str) marker, r.IsReliable := by
  simp only [concurrencyRules, List.forall_mem_cons]
  refine ⟨?lock, ?field, List.forall_mem_nil _⟩
  case lock =>
    apply Rule.reliable_of_mark rfl rfl ["lock", "detail"] (by decide +kernel) rfl
    intro site a unit permissive hwritable
    exact Check.guardedByUnknownLock_answered hwritable
  case field =>
    apply Rule.reliable_of_site rfl rfl ["owner", "marker"] (by decide +kernel) rfl
      (by decide)
    intro site unit permissive
    exact Check.immutableMutableField_answered rfl

theorem namingRules_reliable {types methods constants : String}
    (htypes : (Pattern.parse types).isOk = true) (hmethods : (Pattern.parse methods).isOk = true)
    (hconstants : (Pattern.parse constants).isOk = true) :
    ∀ r ∈ namingRules (.str types) (.str methods) (.str constants), r.IsReliable := by
  simp only [namingRules, List.forall_mem_cons]
  refine ⟨?type, ?method, ?constant, List.forall_mem_nil _⟩
  case type =>
    apply Rule.reliable_of_site rfl rfl ["pattern"] (by decide +kernel) rfl (by decide)
    intro site unit permissive
    exact Check.nameMatchesPattern_answered rfl htypes
  case method =>
    apply Rule.reliable_of_site rfl rfl ["pattern"] (by decide +kernel) rfl (by decide)
    intro site unit permissive
    exact Check.nameMatchesPattern_answered rfl hmethods
  case constant =>
    apply Rule.reliable_of_site rfl rfl ["pattern"] (by decide +kernel) rfl (by decide)
    intro site unit permissive
    exact Check.constantName_answered rfl hconstants

theorem exceptionRules_reliable (types : List String) :
    ∀ r ∈ exceptionRules (types.map .str), r.IsReliable := by
  simp only [exceptionRules, List.forall_mem_cons]
  refine ⟨?empty, ?broad, List.forall_mem_nil _⟩
  case empty =>
    apply Rule.reliable_of_method rfl rfl ["caught"] (by decide +kernel) rfl
    intro site header signature unit permissive hmethod
    exact Check.emptyHandler_answered hmethod
  case broad =>
    apply Rule.reliable_of_method rfl rfl ["caught"] (by decide +kernel) rfl
    intro site header signature unit permissive hmethod
    exact Check.broadCatch_answered hmethod rfl

theorem recipes_reliable : ∀ recipe ∈ recipes, ∃ rules,
    recipe.build [] = .ok rules ∧ ∀ r ∈ rules, r.IsReliable := by
  simp only [recipes, List.forall_mem_cons]
  exact ⟨⟨_, rfl, annotationRules_reliable annotationTable_modest⟩,
    ⟨_, rfl, nullnessRules_reliable _ _⟩, ⟨_, rfl, documentationRules_reliable _ _ _ _⟩,
    ⟨_, rfl, resourceRules_reliable _ _⟩, ⟨_, rfl, concurrencyRules_reliable _ _⟩,
    ⟨_, rfl, namingRules_reliable (by decide +kernel) (by decide +kernel) (by decide +kernel)⟩,
    ⟨_, rfl, exceptionRules_reliable _⟩, List.forall_mem_nil _⟩

theorem build_reliable {name : String} {p : Pack} (h : build name [] = .ok p) :
    ∀ d ∈ p.rules, ∃ r : Rule, d = r.toDraft ∧ r.IsReliable := by
  simp only [build, List.any_nil, Bool.false_eq_true, if_false] at h
  split at h
  · rename_i recipe hrecipe
    obtain ⟨rules, hrules, hreliable⟩ := recipes_reliable recipe (List.mem_of_find?_eq_some hrecipe)
    simp only [Recipe.make, List.find?_nil, hrules] at h
    cases h
    intro d hd
    obtain ⟨r, hr, rfl⟩ := List.mem_map.mp hd
    exact ⟨r, rfl, hreliable r hr⟩
  · cases h

end Standard

/-- The integers that a unit may have to show are short: those in the arguments of its annotations,
and those of the first fault in it. -/
structure SourceUnit.HasShortIntegers (u : SourceUnit) : Prop where
  arguments : ∀ site ∈ u.walk, ∀ a ∈ site.header.annotations, a.IsWritable
  fault : ∀ e, u.fault? = some e → ∀ n ∈ e.integers, IsShort n

theorem SourceUnit.HasShortIntegers.node {u : SourceUnit} (short : u.HasShortIntegers) :
    ∀ node ∈ u.nodes, node.IsWritable := by
  intro node hnode
  cases holds_of_mem_nodes hnode with
  | declaration hsite => trivial
  | mark hsite ha => exact ⟨rfl, short.arguments _ hsite _ ha⟩
  | doc hsite hd => rfl

namespace Registry
variable {reg : Registry} {unit : SourceUnit}

/-- A reliable rule does not fail on a node that it is shown. -/
theorem inspect_of_reliable {v : Visit} (reliable : v.rule.IsReliable)
    (kind : v.rule.looksAt v.node.kind = true) (writable : v.node.IsWritable) :
    reg.inspect unit v = .nothing ∨ ∃ f, reg.inspect unit v = .finding f := by
  obtain ⟨check, hpredicate, hanswer⟩ := reliable
  obtain ⟨found, hfound, hrender⟩ :=
    hanswer v.node unit reg.config.permissive.isTruthy kind writable
  simp only [inspect, hpredicate, Inspection.toPredicate, context, hfound]
  cases found with
  | none => exact Or.inl rfl
  | some m =>
    obtain ⟨text, htext⟩ := hrender m rfl
    simp only [htext]
    exact Or.inr ⟨_, rfl⟩

section Standard
variable {packs : List Pack} {config : Config}
variable (standard : ∀ p ∈ packs, ∃ name, Standard.build name [] = .ok p)
variable (built : ofPacks packs config = .ok reg)
include standard built

theorem reliable_of_mem {r : Rule} (hr : r ∈ reg.rules) (own : r.isEngine = false) :
    r.IsReliable := by
  obtain ⟨⟨d, _⟩, hd, rfl⟩ := (mem_rules_own (ofPacks_eq_ok_iff.mp built) own).mp hr
  obtain ⟨p, hp, hd, _⟩ := mem_draftsOf.mp hd
  obtain ⟨name, hbuild⟩ := standard p hp
  obtain ⟨r, hdraft, hreliable⟩ := Standard.build_reliable hbuild d hd
  cases hdraft
  -- An override changes nothing but the severity, on which no part of an answer depends.
  exact hreliable

theorem inspect_standard (short : unit.HasShortIntegers) {v : Visit} (hv : v ∈ reg.visits unit) :
    reg.inspect unit v = .nothing ∨ ∃ f, reg.inspect unit v = .finding f := by
  obtain ⟨hnode, hrule⟩ := mem_visits.mp hv
  obtain ⟨hmem, hown, _, hkind⟩ := mem_rulesFor.mp hrule
  exact inspect_of_reliable (reliable_of_mem standard built hmem hown) hkind
    (short.node v.node hnode)

/-- Under standard packs no check fails and no message is left unfilled, so the evaluation returns,
and none of its findings is a rule failure. -/
theorem evaluate_standard_no_failure (short : unit.HasShortIntegers) :
    (∀ v ∈ reg.visits unit,
      reg.inspect unit v = .nothing ∨ ∃ f, reg.inspect unit v = .finding f) ∧
    ∃ result, (reg.evaluate unit).outcome = .ok result ∧
      ∀ f ∈ result.findings, f.rule ≠ Rule.ruleFailure.id := by
  refine ⟨fun v => inspect_standard standard built short, ?_⟩
  cases hfault : unit.fault? with
  | some e =>
    obtain ⟨detail, hdetail⟩ := ModelError.written_ok_iff.mpr (short.fault e hfault)
    refine ⟨reg.modelErrorResult unit.path detail, by simp only [evaluate, hfault, hdetail], ?_⟩
    intro f hf
    cases List.mem_singleton.mp hf
    simp [Rule.modelError, Rule.ruleFailure]
  | none =>
    have hcalm : (reg.run unit [] (reg.visits unit)).escape = none := by
      apply run_escape_of_calm
      intro v hv e he
      rcases inspect_standard standard built short hv with h | ⟨f, h⟩ <;> cases h.symm.trans he
    refine ⟨_, (evaluate_sound hfault).mpr ⟨hcalm, rfl⟩, fun f hf => ?_⟩
    obtain ⟨v, hv, hfound⟩ := mem_run_findings hf
    obtain ⟨hmem, hown, _⟩ := mem_rulesFor.mp (mem_visits.mp hv).2
    have hid : v.rule.id ≠ Rule.ruleFailure.id :=
      id_ne_engine (ofPacks_eq_ok_iff.mp built) hmem hown (by simp [Rule.engineRules])
    rcases hfound with hfinding | hfailure
    · rwa [(inspect_finding hfinding).1]
    · rcases inspect_standard standard built short hv with h | ⟨g, h⟩ <;>
        cases h.symm.trans hfailure

end Standard

/-- Arguments of the wrong kind are no trouble, under a severity that is replaced and with a rule
left out. -/
theorem evaluate_standard_no_failure_arguments :
    let guard : Annotation := ⟨"GuardedBy", .ofInts 1 1 1 3, [(.str "value", .int 12)]⟩
    let print : Annotation := ⟨"ToString", .ofInts 1 3 1 5,
      [(.str "onlyExplicitlyIncluded", .list [.int 1, .map [(.null, .int (-1))]])]⟩
    let sensitive : Annotation := ⟨"Sensitive", .ofInts 1 5 1 7, []⟩
    let header : Header := ⟨"t", .ofInts 1 1 1 9, .pub, [], [guard, print, sensitive], none⟩
    let unit : SourceUnit := {
      path := "A", package := "", lineLengths := [20], imports := [], suppressions := []
      declarations := [.type header "class" [] []] }
    let config : Config := {
      overrides := [("annotation/unlisted", .info)]
      disabled := [.str "concurrency/immutable-mutable-field"] }
    ∃ policy concurrency reg, Standard.build "annotation-policy" [] = .ok policy ∧
      Standard.build "concurrency" [] = .ok concurrency ∧
      ofPacks [policy, concurrency] config = .ok reg ∧ unit.HasShortIntegers ∧
      (∀ v ∈ reg.visits unit,
        reg.inspect unit v = .nothing ∨ ∃ f, reg.inspect unit v = .finding f) ∧
      ∃ result, (reg.evaluate unit).outcome = .ok result ∧
        ∀ f ∈ result.findings, f.rule ≠ Rule.ruleFailure.id := by
  intro guard print sensitive header unit config
  obtain ⟨policy, concurrency, reg, hpolicy, hconcurrency, built⟩ : ∃ policy concurrency reg,
      Standard.build "annotation-policy" [] = .ok policy ∧
        Standard.build "concurrency" [] = .ok concurrency ∧
        ofPacks [policy, concurrency] config = .ok reg := ⟨_, _, _, rfl, rfl, rfl⟩
  have hwalk : unit.walk = [⟨[], .type header "class" [] []⟩] := by
    simp [SourceUnit.walk, Site.walkFrom, unit, Site.memberSites, Declaration.asType?]
  have short : unit.HasShortIntegers := by
    constructor
    · simp [hwalk, Site.header, Declaration.header, header, guard, print, sensitive,
        Annotation.IsWritable, Value.integers, Value.itemIntegers, Value.entryIntegers,
        isShort_of_lt]
    · have hsound : unit.fault? = none := by
        rw [SourceUnit.fault?, SourceUnit.firstFault?, hwalk]
        rfl
      intro e he
      cases hsound.symm.trans he
  have standard : ∀ p ∈ [policy, concurrency], ∃ name, Standard.build name [] = .ok p := by
    simp only [List.forall_mem_cons]
    exact ⟨⟨"annotation-policy", hpolicy⟩, ⟨"concurrency", hconcurrency⟩, List.forall_mem_nil _⟩
  exact ⟨policy, concurrency, reg, hpolicy, hconcurrency, built, short,
    evaluate_standard_no_failure standard built short⟩

end Registry

end Conformance
