import Conformance.Proofs.Reconfiguration
import Conformance.Proofs.RegistryPacks

/-!
# What a registry admits

Whether packs make a registry can be told from their rules and the configuration alone, and so can
the rules that the registry shows to nodes of a kind. Neither depends on the order of the packs or
of the rules in them, so packs in another order make the same registry.
-/

namespace Conformance

/-- What a draft has to be like to make a rule. -/
structure Draft.IsValid (d : Draft) : Prop where
  id : ∃ s, d.id = .str s ∧ (Text.trim s).isEmpty = false
  category : d.category ≠ .engine
  target : ∃ kind ∈ d.category.targets, d.target = some kind
  predicate : d.predicate.isSome = true
  message : ∃ s, d.message = .str s ∧ s ≠ ""

namespace Draft

theorem toRule_ok_iff {d : Draft} : (∃ r, d.toRule = .ok r) ↔ d.IsValid := by
  constructor
  · rintro ⟨r, h⟩
    have hid := toRule_id h
    have hblank := (toRule_ok h).1
    simp only [toRule] at h
    split at h
    · cases h
    split at h
    · cases h
    rename_i hcategory
    split at h
    · cases h
    rename_i kind hkind
    split at h
    · cases h
    rename_i htarget
    split at h
    · cases h
    rename_i hpredicate
    split at h
    · cases h
    rename_i hmessage
    refine ⟨⟨r.id, hid, ?_⟩, ?_, ⟨kind, ?_, hkind⟩, ?_, ⟨d.message.ownText, ?_, ?_⟩⟩
    · rw [hid] at hblank
      exact hblank
    · simpa using hcategory
    · simpa using htarget
    · simpa [Option.isSome_iff_ne_none] using hpredicate
    · exact Value.eq_str_of_ownText (by simpa using hmessage)
    · simpa using hmessage
  · rintro ⟨⟨s, hid, hblank⟩, hcategory, ⟨kind, hkind, htarget⟩, hpredicate, ⟨t, hmessage, hempty⟩⟩
    refine ⟨{ toRuleBody := d.toRuleBody, id := s, message := t }, ?_⟩
    simp [toRule, hid, hblank, hcategory, htarget, hkind, hmessage, hempty, Value.ownText,
      Option.isSome_iff_ne_none.mp hpredicate]

/-- The draft is shown to nodes of the kind: it is not left out, and its target is the kind or, if
that is a kind of declaration, any declaration. No node is just a declaration. -/
structure Serves (d : Draft) (config : Config) (kind : NodeKind) : Prop where
  kept : d.id ∉ config.disabled
  concrete : kind ≠ .declaration
  target : d.target = some kind ∨ d.target = some .declaration ∧ kind ∈ [.type, .method, .field]

end Draft

/-- The packs are the same but for the order of their rules. -/
structure Pack.SameRules (p q : Pack) : Prop where
  name : p.name = q.name
  version : p.version = q.version
  rules : p.rules.Perm q.rules

/-- The packs are the same but for their order and the order of the rules in each. -/
def Pack.Rearranged (packs packs' : List Pack) : Prop :=
  ∃ middle, packs.Perm middle ∧ List.Forall₂ SameRules middle packs'

theorem Value.isText_iff {v : Value} {name : String} : v.isText name = true ↔ v = .str name := by
  cases v <;> simp [isText]

theorem Config.leavesOut_eq_false_iff {config : Config} {id : String} :
    config.leavesOut id = false ↔ .str id ∉ config.disabled := by
  rw [← Bool.not_eq_true, not_iff_not]
  simp [leavesOut, Value.isText_iff]

theorem Rule.looksAt_iff {r : Rule} {kind : NodeKind} :
    r.looksAt kind = true ↔ kind ≠ .declaration ∧
      (r.target = some kind ∨ r.target = some .declaration ∧ kind ∈ [.type, .method, .field]) := by
  rw [looksAt]
  cases r.target with
  | none => simp
  | some target => cases target <;> cases kind <;> decide

theorem Rule.toDraft_injective {r s : Rule} (h : r.toDraft = s.toDraft) : r = s := by
  obtain ⟨body, id, message⟩ := r
  obtain ⟨body', id', message'⟩ := s
  cases h
  rfl

namespace Registry

def engineKeys : List Value := Rule.engineIds.map .str

/-- The rules that drafts make together with those of the engine, each with its origin. -/
def allEntries (drafts : List (Draft × Value)) : List (Rule × Value) :=
  engineEntries ++ drafts.map entryOf

theorem key_of_find {entries : List (Rule × Value)} {id : Value} {e : Rule × Value}
    (h : (entries.find? fun e => id.isText e.1.id) = some e) : e ∈ entries ∧ id = .str e.1.id := by
  have htext := List.find?_some h
  exact ⟨List.mem_of_find?_eq_some h, Value.isText_iff.mp htext⟩

/-- What drafts and a configuration have to be like to make a registry. -/
structure Admissible (drafts : List Draft) (config : Config) : Prop where
  valid : ∀ d ∈ drafts, d.IsValid
  distinct : (drafts.map (·.id)).Nodup
  unreserved : ∀ d ∈ drafts, d.id ∉ engineKeys
  overrides : ∀ o ∈ config.overrides, .str o.1 ∈ engineKeys ++ drafts.map (·.id)
  disabled : ∀ id ∈ config.disabled, id ∈ engineKeys ++ drafts.map (·.id)
  spared : ∀ id ∈ config.disabled, id ∉ engineKeys

theorem Admissible.perm {drafts drafts' : List Draft} {config : Config} (h : drafts.Perm drafts')
    (admissible : Admissible drafts config) : Admissible drafts' config := by
  have hids := h.map (·.id)
  have hknown : (engineKeys ++ drafts.map (·.id)).Perm (engineKeys ++ drafts'.map (·.id)) :=
    hids.append_left engineKeys
  exact {
    valid := fun d hd => admissible.valid d (h.mem_iff.mpr hd)
    distinct := hids.nodup_iff.mp admissible.distinct
    unreserved := fun d hd => admissible.unreserved d (h.mem_iff.mpr hd)
    overrides := fun o ho => hknown.mem_iff.mp (admissible.overrides o ho)
    disabled := fun id hid => hknown.mem_iff.mp (admissible.disabled id hid)
    spared := admissible.spared }

section Keys
variable {drafts : List (Draft × Value)} (valid : ∀ d ∈ drafts, d.1.IsValid)
include valid

theorem toRule_of_valid {d : Draft × Value} (hd : d ∈ drafts) :
    d.1.toRule = .ok (entryOf d).1 := by
  obtain ⟨r, hr⟩ := Draft.toRule_ok_iff.mpr (valid d hd)
  rw [hr, toRule_eq_entryOf hr]

theorem id_of_valid {d : Draft × Value} (hd : d ∈ drafts) : d.1.id = .str (entryOf d).1.id :=
  Draft.toRule_id (toRule_of_valid valid hd)

/-- The identifiers of all entries, as values, are those of the engine and of the drafts. -/
theorem keys_eq : (allEntries drafts).map (fun e => Value.str e.1.id) =
    engineKeys ++ (drafts.map Prod.fst).map (·.id) := by
  rw [allEntries, List.map_append, List.map_map, List.map_map]
  congr 1
  refine List.map_congr_left fun d hd => ?_
  exact (id_of_valid valid hd).symm

theorem ids_nodup_iff : ((allEntries drafts).map (·.1.id)).Nodup ↔
    ((drafts.map Prod.fst).map (·.id)).Nodup ∧ ∀ d ∈ drafts.map Prod.fst, d.id ∉ engineKeys := by
  have hinjective : Function.Injective Value.str := fun _ _ h => Value.str.inj h
  have hengine : engineKeys.Nodup := (List.nodup_map_iff hinjective).mpr (by decide)
  rw [← List.nodup_map_iff hinjective, List.map_map]
  change ((allEntries drafts).map fun e => Value.str e.1.id).Nodup ↔ _
  rw [keys_eq valid, List.nodup_append', and_iff_right hengine]
  refine and_congr_right fun _ => ?_
  rw [List.disjoint_comm]
  exact List.forall_mem_map

theorem mem_keys_iff {id : String} : (∃ e ∈ allEntries drafts, e.1.id = id) ↔
    .str id ∈ engineKeys ++ (drafts.map Prod.fst).map (·.id) := by
  rw [← keys_eq valid, List.mem_map]
  simp only [Value.str.injEq]

/-- The rule of a draft is the draft, but for the severity. -/
theorem toDraft_entryOf {d : Draft × Value} (hd : d ∈ drafts) {config : Config} :
    ((entryOf d).1.withOverride config).toDraft =
      { d.1 with severity :=
          (config.overrides.lookup (entryOf d).1.id).getD d.1.severity } := by
  obtain ⟨text, hmessage, _⟩ := (valid d hd).message
  obtain ⟨name, hid, _⟩ := (valid d hd).id
  obtain ⟨⟨body, id, message⟩, pack⟩ := d
  cases hid
  cases hmessage
  rfl

/-- An entry is one of the engine's exactly if its identifier is. -/
theorem isEngine_iff (unreserved : ∀ d ∈ drafts.map Prod.fst, d.id ∉ engineKeys) {e : Rule × Value}
    (he : e ∈ allEntries drafts) : e.1.isEngine = true ↔ .str e.1.id ∈ engineKeys := by
  rcases List.mem_append.mp he with he | he
  · have hengine : ∀ e ∈ engineEntries, e.1.isEngine = true := by decide
    obtain ⟨r, hr, rfl⟩ := List.mem_map.mp he
    exact iff_of_true (hengine _ he) (List.mem_map_of_mem (List.mem_map_of_mem hr))
  · obtain ⟨d, hd, rfl⟩ := List.mem_map.mp he
    have hcategory : d.1.category ≠ .engine := (valid d hd).category
    refine iff_of_false ?_ ?_
    · simpa [RuleBody.isEngine, entryOf] using hcategory
    · rw [← id_of_valid valid hd]
      exact unreserved d.1 (List.mem_map_of_mem hd)

theorem checkDisabled_admits (unreserved : ∀ d ∈ drafts.map Prod.fst, d.id ∉ engineKeys)
    {disabled : List Value} : checkDisabled (allEntries drafts) disabled = .ok () ↔
      ∀ id ∈ disabled, id ∈ engineKeys ++ (drafts.map Prod.fst).map (·.id) ∧ id ∉ engineKeys := by
  rw [checkDisabled_ok_iff, ← keys_eq valid]
  refine forall₂_congr fun id _ => ?_
  constructor
  · rintro ⟨_, e, hfind, hown⟩
    obtain ⟨he, rfl⟩ := key_of_find hfind
    refine ⟨List.mem_map_of_mem he, fun hkey => ?_⟩
    rw [(isEngine_iff valid unreserved he).mpr hkey] at hown
    cases hown
  · rintro ⟨hknown, hkey⟩
    obtain ⟨known, hmem, rfl⟩ := List.mem_map.mp hknown
    obtain ⟨e, hfind⟩ : ∃ e, ((allEntries drafts).find? fun e =>
        (Value.str known.1.id).isText e.1.id) = some e :=
      Option.isSome_iff_exists.mp (List.find?_isSome.mpr ⟨known, hmem, by simp⟩)
    obtain ⟨he, hid⟩ := key_of_find hfind
    refine ⟨⟨_, rfl⟩, e, hfind, Bool.eq_false_iff.mpr fun hengine => hkey ?_⟩
    rw [hid]
    exact (isEngine_iff valid unreserved he).mp hengine

end Keys

section Building
variable {drafts : List (Draft × Value)} {config : Config}

/-- A registry can be built exactly of what is admissible. -/
theorem ofRules_ok_iff :
    (∃ reg, ofRules drafts config = .ok reg) ↔ Admissible (drafts.map Prod.fst) config := by
  constructor
  · rintro ⟨reg, built⟩
    obtain ⟨entries, henrol, hoverrides, hdisabled, _⟩ := ofRules_eq_ok_iff.mp built
    obtain ⟨hrules, hnodup, rfl⟩ := (enrol_eq_ok_iff (by decide)).mp henrol
    have valid : ∀ d ∈ drafts, d.1.IsValid := fun d hd =>
      Draft.toRule_ok_iff.mp ⟨_, hrules d hd⟩
    obtain ⟨hdistinct, hunreserved⟩ := (ids_nodup_iff valid).mp hnodup
    have hdisabled := (checkDisabled_admits valid hunreserved).mp hdisabled
    exact {
      valid := List.forall_mem_map.mpr valid
      distinct := hdistinct
      unreserved := hunreserved
      overrides := fun o ho => (mem_keys_iff valid).mp (checkOverrides_ok_iff.mp hoverrides o ho)
      disabled := fun id hid => (hdisabled id hid).1
      spared := fun id hid => (hdisabled id hid).2 }
  · intro admissible
    have valid := List.forall_mem_map.mp admissible.valid
    have hnodup := (ids_nodup_iff valid).mpr ⟨admissible.distinct, admissible.unreserved⟩
    have henrol : enrol engineEntries drafts = .ok (allEntries drafts) :=
      (enrol_eq_ok_iff (by decide)).mpr ⟨fun d hd => toRule_of_valid valid hd, hnodup, rfl⟩
    have hoverrides : checkOverrides (allEntries drafts) config.overrides = .ok () :=
      checkOverrides_ok_iff.mpr fun o ho => (mem_keys_iff valid).mpr (admissible.overrides o ho)
    have hdisabled : checkDisabled (allEntries drafts) config.disabled = .ok () :=
      (checkDisabled_admits valid admissible.unreserved).mpr fun id hid =>
        ⟨admissible.disabled id hid, admissible.spared id hid⟩
    exact ⟨_, ofRules_eq_ok_iff.mpr ⟨_, henrol, hoverrides, hdisabled, rfl⟩⟩

variable {reg : Registry} (built : ofRules drafts config = .ok reg)
include built

theorem entries_perm :
    reg.entries.Perm ((allEntries drafts).map fun e => (e.1.withOverride config, e.2)) := by
  obtain ⟨entries, henrol, _, _, rfl⟩ := ofRules_eq_ok_iff.mp built
  obtain ⟨_, _, rfl⟩ := (enrol_eq_ok_iff (by decide)).mp henrol
  exact List.mergeSort_perm _ _

/-- The same drafts in another order make the same registry. -/
theorem ofRules_of_perm {drafts' : List (Draft × Value)} (h : drafts.Perm drafts') :
    ofRules drafts' config = .ok reg := by
  have admissible := (ofRules_ok_iff.mp ⟨reg, built⟩).perm (h.map Prod.fst)
  obtain ⟨reg', built'⟩ := ofRules_ok_iff.mpr admissible
  have hall : (allEntries drafts).Perm (allEntries drafts') :=
    (h.map entryOf).append_left engineEntries
  have hperm : reg'.entries.Perm reg.entries :=
    (entries_perm built').trans ((hall.symm.map _).trans (entries_perm built).symm)
  -- Both are in strict order, so one is a permutation of the other only if they are the same.
  have hentries : reg'.entries = reg.entries :=
    hperm.eq_of_pairwise (fun a b _ _ hab hba => absurd (hab.trans hba) (lt_irrefl _))
      (entries_ordered built') (entries_ordered built)
  have hconfig : reg'.config = reg.config := (config_eq built').trans (config_eq built).symm
  obtain ⟨_, _⟩ := reg
  obtain ⟨_, _⟩ := reg'
  cases hentries
  cases hconfig
  exact built'

/-- The rules that nodes of a kind are shown are those of the drafts that serve the kind, with the
severities of the configuration. -/
theorem mem_rulesFor_iff {kind : NodeKind} {r : Rule} :
    r ∈ reg.rulesFor kind ↔ ∃ d ∈ drafts.map Prod.fst, d.Serves config kind ∧
      r.toDraft = { d with severity := (config.overrides.lookup r.id).getD d.severity } := by
  have admissible := ofRules_ok_iff.mp ⟨reg, built⟩
  have valid := List.forall_mem_map.mp admissible.valid
  rw [mem_rulesFor, config_eq built, Rule.looksAt_iff, Config.leavesOut_eq_false_iff]
  constructor
  · rintro ⟨hr, hown, hkept, hconcrete, htarget⟩
    obtain ⟨d, hd, rfl⟩ := (mem_rules_own built hown).mp hr
    refine ⟨d.1, List.mem_map_of_mem hd, ⟨?_, hconcrete, htarget⟩, toDraft_entryOf valid hd⟩
    rw [id_of_valid valid hd]
    exact hkept
  · rintro ⟨_, hmem, hserves, hdraft⟩
    obtain ⟨d, hd, rfl⟩ := List.mem_map.mp hmem
    have hid : r.id = (entryOf d).1.id :=
      Value.str.inj ((congrArg Draft.id hdraft).trans (id_of_valid valid hd))
    rw [hid, ← toDraft_entryOf valid hd] at hdraft
    obtain rfl := Rule.toDraft_injective hdraft
    have hown : ((entryOf d).1.withOverride config).isEngine = false :=
      beq_false_of_ne (valid d hd).category
    refine ⟨(mem_rules_own built hown).mpr ⟨d, hd, rfl⟩, hown, ?_, hserves.concrete,
      hserves.target⟩
    have hkept := hserves.kept
    rw [id_of_valid valid hd] at hkept
    exact hkept

end Building

theorem map_fst_draftsOf (packs : List Pack) :
    (draftsOf packs).map Prod.fst = packs.flatMap Pack.rules := by
  simp [draftsOf, List.map_flatMap, Function.comp_def]

theorem draftsOf_perm_of_sameRules {packs packs' : List Pack}
    (h : List.Forall₂ Pack.SameRules packs packs') : (draftsOf packs).Perm (draftsOf packs') := by
  induction h with
  | nil => exact .refl _
  | @cons p q packs packs' hsame _ ih =>
    have hhead : (p.rules.map fun r => (r, p.name)).Perm (q.rules.map fun r => (r, q.name)) := by
      rw [hsame.name]
      exact hsame.rules.map _
    exact hhead.append ih

theorem draftsOf_perm {packs packs' : List Pack} (h : Pack.Rearranged packs packs') :
    (draftsOf packs).Perm (draftsOf packs') := by
  obtain ⟨middle, hpacks, hrules⟩ := h
  exact (hpacks.flatMap_right _).trans (draftsOf_perm_of_sameRules hrules)

/-- Packs make a registry exactly if their rules and the configuration are admissible. Nodes of a
kind are then shown, in the strict order of identifiers, the rules that serve the kind, unchanged
but for the severities of the configuration. Packs in another order, with their rules in another
order, make the same registry, so that every question to it has the same answer. -/
theorem ofPacks_admits (packs : List Pack) (config : Config) :
    ((∃ reg, ofPacks packs config = .ok reg) ↔ Admissible (packs.flatMap Pack.rules) config) ∧
    (∀ reg, ofPacks packs config = .ok reg → ∀ kind,
      (reg.rulesFor kind).Pairwise (fun a b => Text.codes a.id < Text.codes b.id) ∧
      ∀ r, r ∈ reg.rulesFor kind ↔ ∃ d ∈ packs.flatMap Pack.rules, d.Serves config kind ∧
        r.toDraft = { d with severity := (config.overrides.lookup r.id).getD d.severity }) ∧
    ∀ packs', Pack.Rearranged packs packs' → ∀ reg,
      ofPacks packs config = .ok reg ↔ ofPacks packs' config = .ok reg := by
  simp only [ofPacks_eq_ok_iff, ← map_fst_draftsOf]
  refine ⟨ofRules_ok_iff, fun reg built kind => ?_, fun packs' h reg => ?_⟩
  · exact ⟨rulesFor_ordered built kind, fun r => mem_rulesFor_iff built⟩
  · have hperm := draftsOf_perm h
    exact ⟨fun built => ofRules_of_perm built hperm, fun built => ofRules_of_perm built hperm.symm⟩

def namingDraft (id : String) (target : NodeKind) : Draft where
  id := .str id
  category := .naming
  target := some target
  severity := .warning
  message := .str "named"
  predicate := some fun _ _ => .pass

theorem namingDraft_valid {id : String} {target : NodeKind}
    (hid : (Text.trim id).isEmpty = false) (htarget : target ∈ Category.naming.targets) :
    (namingDraft id target).IsValid where
  id := ⟨id, rfl, hid⟩
  category := by
    intro h
    cases h
  target := ⟨target, htarget, rfl⟩
  predicate := rfl
  message := ⟨"named", rfl, by decide⟩

/-- A configuration that raises one rule, lowers one of the engine's and leaves one out. -/
def namingConfig : Config where
  overrides := [("naming/type", .error), ("engine/rule-failure", .info)]
  disabled := [.str "naming/muted"]

/-- A pack with a rule for types and a rule for all declarations. -/
def namingPack : Pack where
  name := .str "naming"
  rules := [namingDraft "naming/type" .type, namingDraft "naming/declared" .declaration]

/-- A pack with a rule that the configuration leaves out. -/
def mutedPack : Pack where
  name := .str "muted"
  rules := [namingDraft "naming/muted" .type]

/-- The two packs make one registry in either order. Types are shown the rule for types with its new
severity, but not the rule that is left out. -/
theorem ofPacks_admits_namingPack :
    ∃ reg, ofPacks [namingPack, mutedPack] namingConfig = .ok reg ∧
      ofPacks [mutedPack, { namingPack with rules := namingPack.rules.reverse }] namingConfig =
        .ok reg ∧
      (∃ r ∈ reg.rulesFor .type,
        r.toDraft = { namingDraft "naming/type" .type with severity := .error }) ∧
      ∀ r ∈ reg.rulesFor .type, r.id ≠ "naming/muted" := by
  obtain ⟨hbuilds, hshows, hrearranged⟩ := ofPacks_admits [namingPack, mutedPack] namingConfig
  have admissible : Admissible ([namingPack, mutedPack].flatMap Pack.rules) namingConfig := {
    valid := List.forall_mem_cons.mpr ⟨namingDraft_valid rfl (by decide),
      List.forall_mem_cons.mpr ⟨namingDraft_valid rfl (by decide),
        List.forall_mem_singleton.mpr (namingDraft_valid rfl (by decide))⟩⟩
    distinct := by simp [namingPack, mutedPack, namingDraft]
    unreserved := by
      simp [namingPack, mutedPack, namingDraft, engineKeys, Rule.engineIds, Rule.engineRules,
        Rule.modelError, Rule.ruleFailure, Rule.suppressionSyntax, Rule.configurationError]
    overrides := by
      simp [namingConfig, namingPack, namingDraft, engineKeys, Rule.engineIds, Rule.engineRules,
        Rule.ruleFailure]
    disabled := by simp [namingConfig, mutedPack, namingDraft]
    spared := by
      simp [namingConfig, engineKeys, Rule.engineIds, Rule.engineRules, Rule.modelError,
        Rule.ruleFailure, Rule.suppressionSyntax, Rule.configurationError] }
  obtain ⟨reg, built⟩ := hbuilds.mpr admissible
  have hother : Pack.Rearranged [namingPack, mutedPack]
      [mutedPack, { namingPack with rules := namingPack.rules.reverse }] :=
    ⟨[mutedPack, namingPack], .swap _ _ _, .cons ⟨rfl, rfl, .refl _⟩
      (.cons ⟨rfl, rfl, (List.reverse_perm _).symm⟩ .nil)⟩
  refine ⟨reg, built, (hrearranged _ hother reg).mp built, ?_, ?_⟩
  · refine ⟨⟨{ (namingDraft "naming/type" .type).toRuleBody with severity := .error },
      "naming/type", "named"⟩, ((hshows reg built .type).2 _).mpr ?_, rfl⟩
    refine ⟨namingDraft "naming/type" .type, List.mem_cons_self, ⟨?_, ?_, Or.inl rfl⟩, rfl⟩
    · simp [namingConfig, namingDraft]
    · decide
  · intro r hr hid
    obtain ⟨d, _, hserves, hdraft⟩ := ((hshows reg built .type).2 r).mp hr
    have hkey : d.id = .str "naming/muted" := by rw [← hid]; exact (congrArg Draft.id hdraft).symm
    exact hserves.kept (by rw [hkey]; exact List.mem_singleton_self _)

/-- A rule for all declarations is registered and in use, but the kind of all declarations is shown
no rule. -/
theorem declaration_kind_shown_none :
    ∃ reg r, ofPacks [namingPack] {} = .ok reg ∧ r ∈ reg.rules ∧ r.isEngine = false ∧
      reg.isEnabled r.id = true ∧ r.target = some .declaration ∧
      reg.rulesFor .declaration = [] := by
  obtain ⟨reg, built⟩ : ∃ reg, ofPacks [namingPack] {} = .ok reg := ⟨_, rfl⟩
  have hrules := ofPacks_eq_ok_iff.mp built
  let d : Draft × Value := (namingDraft "naming/declared" .declaration, .str "naming")
  have hd : d ∈ draftsOf [namingPack] :=
    mem_draftsOf.mpr ⟨namingPack, List.mem_singleton_self _, by simp [d, namingPack], rfl⟩
  have hr : (entryOf d).1.withOverride {} ∈ reg.rules := (mem_rules_own hrules rfl).mpr ⟨d, hd, rfl⟩
  refine ⟨reg, _, built, hr, rfl, ?_, rfl, ?_⟩
  · rw [isEnabled, contains, get?_id hrules hr, config_eq hrules]
    rfl
  · refine List.eq_nil_iff_forall_not_mem.mpr fun r hr => ?_
    obtain ⟨_, _, hserves, _⟩ := (mem_rulesFor_iff hrules).mp hr
    exact hserves.concrete rfl

end Registry

end Conformance
