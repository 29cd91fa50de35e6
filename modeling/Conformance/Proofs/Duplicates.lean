import Conformance.Proofs.Suppressions

/-!
# Active findings among suppressed duplicates

Directives reach only the findings of their own result, but a merge keeps one finding of each
identity across all results. Units that share a path can therefore give the same finding twice, once
active and once suppressed. Which of the two is kept is decided by the message first and by the flag
only after that, and for rules other than the engine's the message is no part of the identity. So an
active finding is sure to be seen in the report exactly if no suppressed duplicate has a lesser
message than all the active ones.
-/

namespace Conformance

namespace Finding
variable {a b : Finding}

/-- Findings of one identity are ordered by their messages, and active ones stand first among equal
messages. -/
theorem precedes_iff_of_identity_eq (h : a.identity = b.identity) :
    a.precedes b = true ↔
      Text.codes a.message < Text.codes b.message ∨
        (a.message = b.message ∧ a.suppressed ≤ b.suppressed) := by
  obtain ⟨hrule, hunit, hspan, _⟩ := identity_eq_iff.mp h
  have hkey : compareKey a b = compare (Text.codes a.message) (Text.codes b.message) := by
    simp only [compareKey, hrule, hunit, hspan, Std.ReflOrd.compare_self]
    rfl
  rw [precedes, compareActive, hkey, Ordering.isLE_then_iff_or, Text.compare_codes_eq_lt,
    Std.LawfulEqOrd.compare_eq_iff_eq, Text.codes_inj, Std.LawfulBCmp.isLE_iff_le]

theorem message_le_of_precedes (hid : a.identity = b.identity) (h : a.precedes b = true) :
    Text.codes a.message ≤ Text.codes b.message := by
  rcases (precedes_iff_of_identity_eq hid).mp h with hlt | ⟨heq, _⟩
  · exact le_of_lt hlt
  · exact le_of_eq (congrArg Text.codes heq)

/-- A suppressed finding stands before an active one of its identity only by a lesser message. -/
theorem message_lt_of_precedes (hid : a.identity = b.identity) (h : a.precedes b = true)
    (ha : a.suppressed = true) (hb : b.suppressed = false) :
    Text.codes a.message < Text.codes b.message := by
  rcases (precedes_iff_of_identity_eq hid).mp h with hlt | ⟨_, hflag⟩
  · exact hlt
  · rw [ha, hb] at hflag
    cases hflag rfl

end Finding

/-- An active finding with the identity is in the report. -/
def Report.ShowsActive (report : Report) (identity : Finding.Identity) : Prop :=
  ∃ g ∈ report.findings, g.identity = identity ∧ g.suppressed = false

namespace Registry

/-- A finding of a result with no directive that hides it. -/
def Active (reg : Registry) (results : List UnitResult) (f : Finding) : Prop :=
  ∃ r ∈ results, f ∈ r.findings ∧ ¬ ∃ d ∈ r.suppressions, reg.Hides d f

/-- A finding of a result with a directive that hides it. -/
def Muted (reg : Registry) (results : List UnitResult) (f : Finding) : Prop :=
  ∃ r ∈ results, f ∈ r.findings ∧ ∃ d ∈ r.suppressions, reg.Hides d f

variable {reg : Registry} {results : List UnitResult} {f g : Finding}

theorem Hides.of_identity_eq {d : Directive} (h : reg.Hides d f) (hid : f.identity = g.identity) :
    reg.Hides d g := by
  obtain ⟨hrule, _, hspan, _⟩ := Finding.identity_eq_iff.mp hid
  unfold Hides at h ⊢
  rwa [hrule, hspan] at h

theorem Active.mem_merged (h : reg.Active results f) :
    f ∈ results.flatMap reg.applyDirectives := by
  obtain ⟨r, hr, hf, hbare⟩ := h
  refine List.mem_flatMap.mpr ⟨r, hr, List.mem_append_left _ (List.mem_map.mpr ⟨f, hf, ?_⟩)⟩
  rw [if_neg (mt any_covers_iff.mp hbare)]

theorem Muted.mem_merged (h : reg.Muted results f) :
    f.suppress ∈ results.flatMap reg.applyDirectives := by
  obtain ⟨r, hr, hf, hhidden⟩ := h
  refine List.mem_flatMap.mpr ⟨r, hr, List.mem_append_left _ (List.mem_map.mpr ⟨f, hf, ?_⟩)⟩
  rw [if_pos (any_covers_iff.mpr hhidden)]

/-- Where a finding that is not about a directive comes from. -/
theorem active_or_muted_of_mem_merged (hf : f ∈ results.flatMap reg.applyDirectives)
    (hrule : f.rule ≠ Rule.suppressionSyntax.id) :
    reg.Active results f ∨ ∃ g, reg.Muted results g ∧ f = g.suppress := by
  obtain ⟨r, hr, hf⟩ := List.mem_flatMap.mp hf
  rcases List.mem_append.mp hf with hf | hf
  · obtain ⟨g, hg, rfl⟩ := List.mem_map.mp hf
    split
    · rename_i hcovered
      exact Or.inr ⟨g, ⟨r, hr, hg, any_covers_iff.mp hcovered⟩, rfl⟩
    · rename_i hbare
      exact Or.inl ⟨r, hr, hg, mt any_covers_iff.mpr hbare⟩
  · obtain ⟨d, _, e, _, rfl⟩ := mem_directiveFindings.mp hf
    exact absurd rfl hrule

theorem exists_of_mem_results {units : List SourceUnit} :
    ∀ r ∈ reg.results units, ∃ u, (reg.evaluate u).outcome = .ok r := by
  intro r hr
  obtain ⟨u, _, hu⟩ := mem_results.mp hr
  exact ⟨u, hu⟩

section Built
variable {rules : List (Draft × Value)} {config : Config}
variable (built : ofRules rules config = .ok reg)
variable (evaluated : ∀ r ∈ results, ∃ u, (reg.evaluate u).outcome = .ok r)
include built evaluated

theorem finding_of_evaluated {r : UnitResult} (hr : r ∈ results) (hf : f ∈ r.findings) :
    f.unit = r.unit ∧ f.suppressed = false ∧ f.rule ≠ Rule.suppressionSyntax.id := by
  obtain ⟨u, hu⟩ := evaluated r hr
  obtain ⟨hunit, hrest⟩ := evaluated_finding built hu hf
  exact ⟨hunit.trans (evaluate_unit hu).symm, hrest⟩

/-- The report shows an active finding of an identity exactly if the message of an active one is not
greater than that of any muted one. -/
theorem showsActive_iff (hf : reg.Active results f) (cancelled : Bool) :
    (reg.aggregate results cancelled).ShowsActive f.identity ↔
      ∃ g, reg.Active results g ∧ g.identity = f.identity ∧
        ∀ h, reg.Muted results h → h.identity = f.identity →
          Text.codes g.message ≤ Text.codes h.message := by
  have hrule : ∀ g : Finding, g.identity = f.identity → g.rule ≠ Rule.suppressionSyntax.id := by
    obtain ⟨r, hr, hmem, _⟩ := hf
    intro g hid
    rw [(Finding.identity_eq_iff.mp hid).1]
    exact (finding_of_evaluated built evaluated hr hmem).2.2
  constructor
  · rintro ⟨g, hg, hid, hactive⟩
    refine ⟨g, ?_, hid, ?_⟩
    · rcases active_or_muted_of_mem_merged (mem_of_mem_mergeFindings hg) (hrule g hid) with
        h | ⟨h, _, rfl⟩
      · exact h
      · cases hactive
    · intro h hmuted hsame
      have hboth : h.suppress.identity = g.identity := hsame.trans hid.symm
      have hle := mergeFindings_least hg hmuted.mem_merged hboth
      exact Finding.message_le_of_precedes (b := h.suppress) hboth.symm hle
  · rintro ⟨g, hg, hid, hleast⟩
    obtain ⟨k, hk, hsame, hle⟩ := exists_mergeFindings_precedes hg.mem_merged
    have hkf := hsame.trans hid
    refine ⟨k, hk, hkf, ?_⟩
    rcases active_or_muted_of_mem_merged (mem_of_mem_mergeFindings hk) (hrule k hkf) with
      ⟨r, hr, hmem, _⟩ | ⟨h, hmuted, rfl⟩
    · exact (finding_of_evaluated built evaluated hr hmem).2.1
    · obtain ⟨r, hr, hmem, _⟩ := hg
      have hflag := (finding_of_evaluated built evaluated hr hmem).2.1
      have hlt := Finding.message_lt_of_precedes hsame hle rfl hflag
      exact absurd (hleast h hmuted hkf) (not_le_of_gt hlt)

/-- An active finding of an evaluation is seen in the report, itself or as an active duplicate,
exactly if some active duplicate has no greater message than every suppressed one. That is always so
for the engine's own findings, whose message is part of the identity, and where no two results are
for the unit of the finding. -/
theorem active_finding_reported_iff (hf : reg.Active results f) (cancelled : Bool) :
    let report := reg.aggregate results cancelled
    (report.ShowsActive f.identity ↔
      ∃ g, reg.Active results g ∧ g.identity = f.identity ∧
        ∀ h, reg.Muted results h → h.identity = f.identity →
          Text.codes g.message ≤ Text.codes h.message) ∧
    (f.rule ∈ Rule.engineIds → report.ShowsActive f.identity) ∧
    ((∀ r ∈ results, ∀ s ∈ results, r.unit = f.unit → s.unit = f.unit → r = s) →
      report.ShowsActive f.identity) := by
  have hiff := showsActive_iff built evaluated hf cancelled
  refine ⟨hiff, fun hengine => hiff.mpr ⟨f, hf, rfl, ?_⟩, fun alone => hiff.mpr ⟨f, hf, rfl, ?_⟩⟩
  · intro h _ hid
    have hmessage := (Finding.identity_eq_iff.mp hid).2.2.2 (List.contains_iff_mem.mpr hengine)
    exact le_of_eq (congrArg Text.codes hmessage.symm)
  · -- A muted duplicate would be in the same result, whose directives hide both or none.
    rintro h ⟨s, hs, hmem, d, hd, hhides⟩ hid
    obtain ⟨r, hr, hfr, hbare⟩ := hf
    have hunit := (Finding.identity_eq_iff.mp hid).2.1
    have hrunit := (finding_of_evaluated built evaluated hr hfr).1
    have hsunit := (finding_of_evaluated built evaluated hs hmem).1
    have hsame := alone r hr s hs hrunit.symm (hsunit.symm.trans hunit)
    subst hsame
    exact absurd ⟨d, hd, hhides.of_identity_eq hid⟩ hbare

end Built

/-- A rule that matches every type and says its full name. -/
def everyTypeByName : Rule := { everyType with message := "\x7bqualified_name\x7d" }

/-- A unit with one type in a package; its path is the same for all packages. -/
def oneTypeIn (package : String) (suppressions : List Directive) : SourceUnit :=
  { oneType "A" suppressions with package }

/-- What the rule finds in such a unit. -/
def namedType (name : String) : Finding where
  rule := "naming/every-type"
  severity := .warning
  unit := "A"
  span := .ofInts 1 1 1 9
  message := name

/-- A directive that hides everything on the only line of such a unit. -/
def hideLine : Directive := ⟨"disable all", .ofInts 1 1 1 21⟩

theorem evaluate_oneTypeIn {pack : Value}
    (built : ofRules [(everyTypeByName.toDraft, pack)] {} = .ok reg) {package name : String}
    {suppressions : List Directive} (sound : (oneTypeIn package suppressions).fault? = none)
    (rendered : everyTypeByName.render (.declaration lonelyType)
      (oneTypeIn package suppressions) [] = .ok name) :
    (reg.evaluate (oneTypeIn package suppressions)).outcome =
      .ok ⟨"A", [namedType name], suppressions, false⟩ := by
  have hwalk : (oneTypeIn package suppressions).walk = [lonelyType] :=
    walk_oneType "A" suppressions
  have hvisits := visits_oneType built rfl rfl hwalk
  have hpredicate : everyTypeByName.predicate = some fun _ _ => .hit {} := rfl
  have hinspect : reg.inspect (oneTypeIn package suppressions)
      ⟨.declaration lonelyType, everyTypeByName⟩ = .finding (namedType name) := by
    simp only [inspect, hpredicate, rendered]
    rfl
  simp only [evaluate, sound, hvisits, run, hinspect]
  rfl

theorem sound_oneTypeIn {package : String} {suppressions : List Directive}
    (h : suppressions = [] ∨ suppressions = [hideLine]) :
    (oneTypeIn package suppressions).fault? = none := by
  have hwalk : (oneTypeIn package suppressions).walk = [lonelyType] :=
    walk_oneType "A" suppressions
  rw [SourceUnit.fault?, SourceUnit.firstFault?, hwalk]
  rcases h with rfl | rfl
  · rfl
  · rfl

theorem hides_namedType (reg : Registry) (name : String) : reg.Hides hideLine (namedType name) :=
  reg.hides_all (by decide : (Span.ofInts 1 1 1 21).contains (.ofInts 1 1 1 9) = true)
    (by decide : Rule.engineIds.contains "naming/every-type" = false)

section Contending
variable {pack : Value} (built : ofRules [(everyTypeByName.toDraft, pack)] {} = .ok reg)
variable {p q m n : String}
variable
  (first : everyTypeByName.render (.declaration lonelyType) (oneTypeIn p [hideLine]) [] = .ok m)
  (second : everyTypeByName.render (.declaration lonelyType) (oneTypeIn q []) [] = .ok n)
include built first second

theorem results_oneTypeIn : reg.results [oneTypeIn p [hideLine], oneTypeIn q []] =
    [⟨"A", [namedType m], [hideLine], false⟩, ⟨"A", [namedType n], [], false⟩] := by
  have hfirst := evaluate_oneTypeIn built (sound_oneTypeIn (Or.inr rfl)) first
  have hsecond := evaluate_oneTypeIn built (sound_oneTypeIn (Or.inl rfl)) second
  simp [results, hfirst, hsecond, Except.toOption]

theorem muted_oneTypeIn_iff :
    reg.Muted (reg.results [oneTypeIn p [hideLine], oneTypeIn q []]) f ↔ f = namedType m := by
  rw [results_oneTypeIn built first second]
  constructor
  · rintro ⟨r, hr, hf, d, hd, _⟩
    rcases List.mem_pair.mp hr with rfl | rfl
    · exact List.mem_singleton.mp hf
    · cases hd
  · rintro rfl
    exact ⟨_, List.mem_cons_self, List.mem_cons_self, _, List.mem_cons_self, hides_namedType reg m⟩

theorem active_oneTypeIn_iff :
    reg.Active (reg.results [oneTypeIn p [hideLine], oneTypeIn q []]) f ↔ f = namedType n := by
  rw [results_oneTypeIn built first second]
  constructor
  · rintro ⟨r, hr, hf, hbare⟩
    rcases List.mem_pair.mp hr with rfl | rfl
    · cases List.mem_singleton.mp hf
      exact absurd ⟨_, List.mem_cons_self, hides_namedType reg m⟩ hbare
    · exact List.mem_singleton.mp hf
  · rintro rfl
    exact ⟨_, List.mem_cons_of_mem _ List.mem_cons_self, List.mem_cons_self, by simp⟩

end Contending

/-- Of two units with one path, the first hides its finding, and the message of the second is the
lesser one. -/
theorem active_finding_reported_beside_muted :
    ∃ reg, ofRules [(everyTypeByName.toDraft, .null)] {} = .ok reg ∧
      let results := reg.results [oneTypeIn "b" [hideLine], oneTypeIn "a" []]
      reg.Muted results (namedType "b.T") ∧ reg.Active results (namedType "a.T") ∧
        (namedType "b.T").identity = (namedType "a.T").identity ∧
        (reg.aggregate results false).ShowsActive (namedType "a.T").identity := by
  obtain ⟨reg, built⟩ : ∃ reg, ofRules [(everyTypeByName.toDraft, .null)] {} = .ok reg := ⟨_, rfl⟩
  have hmuted {f : Finding} := muted_oneTypeIn_iff (f := f) (p := "b") (q := "a") built rfl rfl
  have hactive {f : Finding} := active_oneTypeIn_iff (f := f) (p := "b") (q := "a") built rfl rfl
  refine ⟨reg, built, hmuted.mpr rfl, hactive.mpr rfl, rfl, ?_⟩
  apply (active_finding_reported_iff built exists_of_mem_results (hactive.mpr rfl) false).1.mpr
  refine ⟨_, hactive.mpr rfl, rfl, ?_⟩
  intro h hh _
  rw [hmuted.mp hh]
  decide

/-- The other way round the finding of the second unit is lost, though nothing hides it. -/
theorem active_finding_hidden_by_muted :
    ∃ reg, ofRules [(everyTypeByName.toDraft, .null)] {} = .ok reg ∧
      let results := reg.results [oneTypeIn "a" [hideLine], oneTypeIn "b" []]
      reg.Active results (namedType "b.T") ∧
        ¬ (reg.aggregate results false).ShowsActive (namedType "b.T").identity := by
  obtain ⟨reg, built⟩ : ∃ reg, ofRules [(everyTypeByName.toDraft, .null)] {} = .ok reg := ⟨_, rfl⟩
  have hmuted {f : Finding} := muted_oneTypeIn_iff (f := f) (p := "a") (q := "b") built rfl rfl
  have hactive {f : Finding} := active_oneTypeIn_iff (f := f) (p := "a") (q := "b") built rfl rfl
  refine ⟨reg, built, hactive.mpr rfl, fun hshows => ?_⟩
  obtain ⟨g, hg, _, hleast⟩ :=
    (showsActive_iff built exists_of_mem_results (hactive.mpr rfl) false).mp hshows
  have hle := hleast _ (hmuted.mpr rfl) rfl
  rw [hactive.mp hg] at hle
  revert hle
  decide

end Registry

end Conformance
