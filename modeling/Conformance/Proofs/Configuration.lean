import Conformance.CommandLine.Program
import Conformance.Proofs.PackErrors
import Conformance.Proofs.RegistryPacks
import Conformance.Proofs.StandardRules

/-!
# Configurations that are rejected

Building a registry fails with an error of a definition, which the command line answers with a
report of its own. No other error arises from packs whose names and identifiers are texts, and those
of documents and of the standard packs are. So it is only the reading of a pack that can end a run.
-/

namespace Conformance

open PolicyError

namespace Registry

theorem clash_failsOnly (id first second : String) :
    FailsOnly IsDefinition (clash (.str id) (.str first) (.str second)) := by
  have hwritten (text : String) : FailsOnly IsDefinition (written (Value.str text).text) :=
    .ok text
  have hname (name : String) : FailsOnly IsDefinition (packName (.str name)) := by
    unfold packName
    split
    · exact (hwritten name).map
    · exact .ok _
  apply (hname first).seq
  intro first
  apply (hname second).seq
  intro second
  apply (hwritten id).seq
  intro id
  exact .error (Or.inr (Or.inl rfl))

theorem toRule_failsOnly (d : Draft) : FailsOnly IsDefinition d.toRule := by
  unfold Draft.toRule
  dsimp only
  split
  · exact .error (Or.inl rfl)
  split
  · exact .error (Or.inl rfl)
  split
  · exact .error (Or.inl rfl)
  split
  · exact .error (Or.inl rfl)
  split
  · exact .error (Or.inl rfl)
  split
  · exact .error (Or.inl rfl)
  · exact .ok _

/-- The identifier of the rule and the name of its pack are texts. -/
def IsNamed (d : Draft × Value) : Prop := (∃ s, d.1.id = .str s) ∧ ∃ s, d.2 = .str s

theorem checkClashes_failsOnly {seen : Entries} {drafts : List (Draft × Value)}
    (hseen : ∀ entry ∈ seen, ∃ s, entry.2 = .str s) (hdrafts : ∀ d ∈ drafts, IsNamed d) :
    FailsOnly IsDefinition (checkClashes seen drafts) := by
  induction drafts generalizing seen with
  | nil => exact .ok _
  | cons d rest ih =>
    obtain ⟨d, pack⟩ := d
    obtain ⟨⟨id, hid⟩, name, rfl⟩ := hdrafts _ List.mem_cons_self
    have hrest : FailsOnly IsDefinition (checkClashes ((d.id, .str name) :: seen) rest) := by
      apply ih
      · exact List.forall_mem_cons.mpr ⟨⟨name, rfl⟩, hseen⟩
      · exact fun d' hd' => hdrafts d' (List.mem_cons_of_mem _ hd')
    have hkey : FailsOnly IsDefinition (checkKey (.str id)) := .ok ()
    unfold checkClashes
    rw [hid]
    apply hkey.seq
    intro _
    split
    · rename_i first hfirst
      obtain ⟨entry, hentry, rfl⟩ := Option.map_eq_some_iff.mp hfirst
      obtain ⟨s, hs⟩ := hseen entry (List.mem_of_find?_eq_some hentry)
      rw [hs]
      apply (clash_failsOnly id s name).seq
      intro _
      exact hid ▸ hrest
    · exact hid ▸ hrest

theorem enrol_failsOnly {known : List (Rule × Value)} {drafts : List (Draft × Value)}
    (hknown : ∀ entry ∈ known, ∃ s, entry.2 = .str s) (hdrafts : ∀ d ∈ drafts, IsNamed d) :
    FailsOnly IsDefinition (enrol known drafts) := by
  induction drafts generalizing known with
  | nil => exact .ok _
  | cons d rest ih =>
    obtain ⟨d, pack⟩ := d
    obtain ⟨⟨id, hid⟩, name, rfl⟩ := hdrafts _ List.mem_cons_self
    -- The origins stay texts: the new one is the name of the pack, or stands for the lack of one.
    have hrest (rule : Rule) : FailsOnly IsDefinition (enrol
        (known ++ [(rule, if (Value.str name).isTruthy then .str name else inlineOrigin)])
        rest) := by
      apply ih
      · rw [List.forall_mem_append, List.forall_mem_singleton]
        refine ⟨hknown, ?_⟩
        split
        · exact ⟨name, rfl⟩
        · exact ⟨_, rfl⟩
      · exact fun d' hd' => hdrafts d' (List.mem_cons_of_mem _ hd')
    have hkey : FailsOnly IsDefinition (checkKey (.str id)) := .ok ()
    unfold enrol
    rw [hid]
    apply hkey.seq
    intro _
    dsimp only
    split
    · rename_i first hfirst
      obtain ⟨entry, hentry, rfl⟩ := Option.map_eq_some_iff.mp hfirst
      obtain ⟨s, hs⟩ := hknown entry (List.mem_of_find?_eq_some hentry)
      rw [hs]
      apply (clash_failsOnly id s name).seq
      intro _
      exact (toRule_failsOnly d).seq hrest
    · exact (toRule_failsOnly d).seq hrest

theorem checkOverrides_failsOnly (entries : List (Rule × Value))
    (overrides : List (String × Severity)) :
    FailsOnly IsDefinition (checkOverrides entries overrides) := by
  induction overrides with
  | nil => exact .ok _
  | cons o rest ih =>
    unfold checkOverrides
    split
    · exact ih
    · exact .error (Or.inl rfl)

theorem checkDisabled_failsOnly (entries : List (Rule × Value)) (disabled : List String) :
    FailsOnly IsDefinition (checkDisabled entries (disabled.map .str)) := by
  induction disabled with
  | nil => exact .ok _
  | cons id rest ih =>
    have hwritten : FailsOnly IsDefinition (written (Value.str id).text) := .ok id
    apply hwritten.seq
    intro text
    split
    · exact .error (Or.inl rfl)
    · split
      · exact .error (Or.inl rfl)
      · exact ih

theorem ofPacks_failsOnly {packs : List Pack} (hpacks : ∀ p ∈ packs, p.IsNamed) {config : Config}
    {disabled : List String} (hdisabled : config.disabled = disabled.map .str) :
    FailsOnly IsDefinition (ofPacks packs config) := by
  have hdrafts : ∀ d ∈ draftsOf packs, IsNamed d := by
    intro d hd
    obtain ⟨p, hp, hrule, hname⟩ := mem_draftsOf.mp hd
    exact ⟨(hpacks p hp).ids _ hrule, hname ▸ (hpacks p hp).name⟩
  have hengine : ∀ entry ∈ engineEntries, ∃ s, entry.2 = .str s := by
    intro entry hentry
    obtain ⟨_, _, rfl⟩ := List.mem_map.mp hentry
    exact ⟨_, rfl⟩
  apply (checkClashes_failsOnly (List.forall_mem_nil _) hdrafts).seq
  intro _
  apply (enrol_failsOnly hengine hdrafts).seq
  intro entries
  apply (checkOverrides_failsOnly entries config.overrides).seq
  intro _
  rw [hdisabled]
  apply (checkDisabled_failsOnly entries disabled).seq
  intro _
  exact .ok _

end Registry

theorem Override.parseFrom_failsOnly (overrides : List (String × String)) (given : List String) :
    FailsOnly IsDefinition (Override.parseFrom overrides given) := by
  induction given generalizing overrides with
  | nil => exact .ok _
  | cons text rest ih =>
    apply FailsOnly.seq
    · unfold Override.parse
      dsimp only
      split
      · exact .error (Or.inl rfl)
      · exact .ok _
    · intro o
      exact ih _

theorem Config.make_failsOnly (permissive : Value) (overrides : List (String × Value))
    (disabled : List String) :
    FailsOnly IsDefinition (Config.make permissive overrides (.list (disabled.map .str))) := by
  have hkeys : (Value.list (disabled.map .str)).keyItems = .ok (disabled.map .str) :=
    Value.keyItems_ofTexts disabled
  unfold Config.make
  apply FailsOnly.seq
  · apply FailsOnly.mapM
    rintro ⟨id, level⟩ _
    dsimp only
    split
    · exact .ok _
    · exact .error (Or.inl rfl)
  · intro overrides
    rw [hkeys]
    exact .ok _

theorem Config.make_disabled {permissive : Value} {overrides : List (String × Value)}
    {disabled : List String} {config : Config}
    (h : Config.make permissive overrides (.list (disabled.map .str)) = .ok config) :
    config.disabled = disabled.map .str := by
  have hkeys : (Value.list (disabled.map .str)).keyItems = .ok (disabled.map .str) :=
    Value.keyItems_ofTexts disabled
  obtain ⟨_, _, h⟩ := bind_ok h
  rw [hkeys] at h
  cases h
  rfl

/-- A standard pack can be built if there is one of the name, and its rules are named. -/
theorem Standard.build_cases (name : String) :
    (∃ p, build name [] = .ok p ∧ p.IsNamed) ∨
      build name [] = .error (.policy (.unknownPack name packNames)) := by
  simp only [build, List.any_nil, Bool.false_eq_true, if_false]
  split
  · rename_i recipe hrecipe
    obtain ⟨rules, hrules, _⟩ := recipes_reliable recipe (List.mem_of_find?_eq_some hrecipe)
    simp only [Recipe.make, List.find?_nil, hrules]
    refine Or.inl ⟨_, rfl, ⟨_, rfl⟩, fun d hd => ?_⟩
    obtain ⟨r, _, rfl⟩ := List.mem_map.mp hd
    exact ⟨r.id, rfl⟩
  · exact Or.inr rfl

/-- The error that a definition makes no sense, wherever the definition comes from. -/
def PackFileError.IsDefinition (f : PackFileError) : Prop := ∃ e, f = .policy e ∧ e.IsDefinition

/-- What cannot be read is reported, and no value of the pack in the file fails to be written. -/
def FileTree.IsLegible (t : FileTree) (p : Path) : Prop :=
  match t.readDocument p with
  | .error e => e.isReported = true
  | .ok none => True
  | .ok (some m) =>
    ∀ v, (m.withDefault "name" (.str p.stem)).Writes v → ∃ text, v.text = .ok text

theorem FileTree.loadPack_failsOnly {t : FileTree} {p : Path} (h : t.IsLegible p) :
    FailsOnly PackFileError.IsDefinition (t.loadPack p) := by
  unfold IsLegible at h
  unfold loadPack
  cases hread : t.readDocument p with
  | error e =>
    rw [hread] at h
    simp only at h
    simp only [h, if_true]
    exact .error ⟨_, rfl, Or.inr (Or.inr rfl)⟩
  | ok found =>
    cases found with
    | none => exact .error ⟨_, rfl, Or.inr (Or.inr rfl)⟩
    | some m =>
      rw [hread] at h
      simp only at h ⊢
      split
      · exact .ok _
      · rename_i e he
        refine .error ⟨e, rfl, Pack.ofEntries_failsOnly (fun _ h => h) ?_ e he⟩
        intro v hv cause hcause
        obtain ⟨text, htext⟩ := h v hv
        cases hcause.symm.trans htext

theorem FileTree.loadPack_named {t : FileTree} {p : Path} {pack : Pack}
    (h : t.loadPack p = .ok pack) : pack.IsNamed := by
  unfold loadPack at h
  split at h
  · split at h
    · cases h
    · cases h
  · cases h
  · split at h
    · rename_i hpack
      cases h
      exact Pack.ofEntries_named hpack
    · cases h

namespace Settings

theorem makeRegistry_failsOnly (s : Settings) {packs : List Pack}
    (hpacks : ∀ p ∈ packs, p.IsNamed) : FailsOnly IsDefinition (s.makeRegistry packs) := by
  apply (Override.parseFrom_failsOnly [] s.severities).seq
  intro overrides
  apply (Config.make_failsOnly _ _ _).bind
  intro config hconfig
  exact Registry.ofPacks_failsOnly hpacks (Config.make_disabled hconfig)

theorem buildPacks_failsOnly (names : List String) :
    FailsOnly PackFileError.IsDefinition (buildPacks names) := by
  induction names with
  | nil => exact .ok _
  | cons name rest ih =>
    unfold buildPacks
    rcases Standard.build_cases name with ⟨p, hp, _⟩ | hunknown
    · rw [hp]
      apply ih.seq
      intro packs
      exact .ok _
    · rw [hunknown]
      exact .error ⟨_, rfl, Or.inl rfl⟩

theorem buildPacks_named {names : List String} {packs : List Pack}
    (h : buildPacks names = .ok packs) : ∀ p ∈ packs, p.IsNamed := by
  induction names generalizing packs with
  | nil =>
    cases h
    exact List.forall_mem_nil _
  | cons name rest ih =>
    unfold buildPacks at h
    rcases Standard.build_cases name with ⟨p, hp, hnamed⟩ | hunknown
    · rw [hp] at h
      obtain ⟨others, hothers, h⟩ := bind_ok h
      cases h
      exact List.forall_mem_cons.mpr ⟨hnamed, ih hothers⟩
    · rw [hunknown] at h
      cases h

theorem registryOf_failsOnly (s : Settings) (names : List String) {P : PackFileError → Prop}
    (hdef : ∀ f, f.IsDefinition → P f) {loaded : Except PackFileError (List Pack)}
    (hloaded : FailsOnly P loaded) (hnamed : ∀ packs, loaded = .ok packs → ∀ p ∈ packs, p.IsNamed) :
    FailsOnly P (s.registryOf names loaded) := by
  apply ((buildPacks_failsOnly names).mono hdef).bind
  intro standard hstandard
  apply hloaded.bind
  intro packs hpacks
  split
  · exact .ok _
  · rename_i e he
    refine .error (hdef _ ⟨e, rfl, makeRegistry_failsOnly s ?_ e he⟩)
    rw [List.forall_mem_append]
    exact ⟨buildPacks_named hstandard, hnamed packs hpacks⟩

theorem registry_failsOnly {s : Settings} {t : FileTree}
    (legible : ∀ path ∈ s.packFiles, t.IsLegible (Path.parse path)) :
    FailsOnly PackFileError.IsDefinition (s.registry t) := by
  apply registryOf_failsOnly s _ (fun _ h => h)
  · apply FailsOnly.mapM
    intro path hpath
    exact FileTree.loadPack_failsOnly (legible path hpath)
  · intro packs hpacks p hp
    obtain ⟨path, _, hload⟩ := exists_of_mem_mapM hpacks hp
    exact FileTree.loadPack_named hload

/-- The error of a definition, or of a value of one of the documents that cannot be written. -/
def IsTraced (documents : List Entries) (e : PolicyError) : Prop :=
  e.IsDefinition ∨ e = unwritable .longInteger ∧
    ∃ m ∈ documents, ∃ v, m.Writes v ∧ v.text = .error .longInteger

theorem registryOf_documents_failsOnly (s : Settings) (names : List String)
    (documents : List Entries) :
    FailsOnly (fun f => ∃ e, f = .policy e ∧ IsTraced documents e)
      (s.registryOf names ((documents.mapM Pack.ofEntries).mapError .policy)) := by
  have hloaded : FailsOnly (IsTraced documents) (documents.mapM Pack.ofEntries) := by
    apply FailsOnly.mapM
    intro m hm
    apply Pack.ofEntries_failsOnly (fun _ h => Or.inl h)
    intro v hv cause hcause
    cases cause
    exact Or.inr ⟨rfl, m, hm, v, hv, hcause⟩
  refine registryOf_failsOnly s names ?_ (hloaded.mapError fun e he => ⟨e, rfl, he⟩) ?_
  · rintro f ⟨e, rfl, he⟩
    exact ⟨e, rfl, Or.inl he⟩
  · intro packs hpacks p hp
    cases h : documents.mapM Pack.ofEntries with
    | ok found =>
      rw [h] at hpacks
      cases hpacks
      obtain ⟨m, _, hm⟩ := exists_of_mem_mapM h hp
      exact Pack.ofEntries_named hm
    | error e =>
      rw [h] at hpacks
      cases hpacks

theorem execute_of_definition {s : Settings} {t : FileTree} {e : PolicyError}
    (h : s.registry t = .error (.policy e)) (he : e.IsDefinition) :
    s.execute t = s.publish t (Report.configurationFailure e.message) configurationCode := by
  unfold execute
  rw [h]
  cases e with
  | fault cause => rcases he with he | he | he <;> cases he
  | _ => rfl

end Settings

/-- Whatever standard packs, documents and switches are given, there is a registry, or an error of
a definition, unless a text that a document has to give cannot be written. If the files of packs
can be read and written, the command line answers each configuration that gives no registry with a
report on the error alone and with the exit code for it. -/
theorem configuration_answered (s : Settings) (t : FileTree)
    (legible : ∀ path ∈ s.packFiles, t.IsLegible (Path.parse path)) :
    (∀ (names : List String) (documents : List Entries),
      let loaded := (documents.mapM Pack.ofEntries).mapError .policy
      (∃ reg, s.registryOf names loaded = .ok reg) ∨
      (∃ e, s.registryOf names loaded = .error (.policy e) ∧ e.IsDefinition) ∨
      s.registryOf names loaded = .error (.policy (unwritable .longInteger)) ∧
        ∃ m ∈ documents, ∃ v, m.Writes v ∧ v.text = .error .longInteger) ∧
    ((∃ reg, s.registry t = .ok reg) ∨
      ∃ e, s.registry t = .error (.policy e) ∧ e.IsDefinition ∧
        let report := Report.configurationFailure e.message
        (report.findings.map fun f => (f.rule, f.severity, f.message)) =
          [("engine/configuration-error", .error, Rule.configurationText e.message)] ∧
        (s.output = none → s.execute t = .finished 2 (s.printed report) t) ∧
        ∀ path files, s.output = some path →
          t.write (Path.parse path) report.toJson.toUTF8.toList = .ok files →
          ∃ text, s.execute t = .finished 2 text files) := by
  constructor
  · intro names documents loaded
    cases h : s.registryOf names loaded with
    | ok reg => exact Or.inl ⟨reg, rfl⟩
    | error f =>
      obtain ⟨e, rfl, he | ⟨rfl, hwrites⟩⟩ := s.registryOf_documents_failsOnly names documents f h
      · exact Or.inr (Or.inl ⟨e, rfl, he⟩)
      · exact Or.inr (Or.inr ⟨rfl, hwrites⟩)
  · cases h : s.registry t with
    | ok reg => exact Or.inl ⟨reg, rfl⟩
    | error f =>
      obtain ⟨e, rfl, he⟩ := Settings.registry_failsOnly legible f h
      have hexecute := Settings.execute_of_definition h he
      refine Or.inr ⟨e, rfl, he, rfl, ?_, ?_⟩
      · intro hnone
        rw [hexecute, Settings.publish, hnone]
        rfl
      · intro path files hpath hwrite
        rw [hexecute, Settings.publish, hpath]
        simp only [hwrite]
        exact ⟨_, rfl⟩

/-- The document gives one rule, of which it gives the identifier only. -/
def isLoneRule (id : String) : Entries → Bool
  | [(.str a, .list [.map [(.str b, .str c)]])] => [a, b, c] == ["rules", "id", id]
  | _ => false

theorem eq_of_isLoneRule {id : String} {m : Entries} (h : isLoneRule id m = true) :
    m = [(.str "rules", .list [.map [(.str "id", .str id)]])] := by
  unfold isLoneRule at h
  split at h
  · simp only [beq_iff_eq, List.cons.injEq] at h
    obtain ⟨rfl, rfl, rfl, _⟩ := h
    rfl
  · cases h

/-- A pack in a file that has no name of its own, and a rule of which only the identifier is
given. -/
theorem configuration_answered_missing_keys :
    let text := "\x7b\"rules\":[\x7b\"id\":\"team/x\"\x7d]\x7d"
    let t : FileTree := ⟨[(["p.json"], .file (text.toList.map fun c => UInt8.ofNat c.toNat))]⟩
    let s : Settings := { packFiles := ["p.json"] }
    t.IsLegible (Path.parse "p.json") ∧
      ∃ printed, s.execute t = .finished 2 printed t := by
  intro text t s
  have hpath : Path.parse "p.json" = ⟨["p.json"]⟩ := by decide +kernel
  have hrule : (t.readDocument ⟨["p.json"]⟩).toOption.join.any (isLoneRule "team/x") = true := by
    decide +kernel
  clear_value t
  obtain ⟨_, hread, htest⟩ := FileTree.readDocument_of_any hrule
  cases eq_of_isLoneRule htest
  have hgiven : Entries.withDefault [(.str "rules", .list [.map [(.str "id", .str "team/x")]])]
      "name" (.str (Path.stem ⟨["p.json"]⟩)) =
      [(.str "rules", .list [.map [(.str "id", .str "team/x")]]), (.str "name", .str "p")] := rfl
  have legible : t.IsLegible (Path.parse "p.json") := by
    rw [hpath]
    simp only [FileTree.IsLegible, hread, hgiven]
    rintro v (⟨hv, _⟩ | hv | ⟨hrules, hentry, hq, hkey, hv⟩)
    · cases hv
      exact ⟨_, rfl⟩
    · cases hv
    · cases hrules
      cases List.mem_singleton.mp hentry
      cases hq
      simp only [Entries.ruleTexts, List.mem_cons, List.not_mem_nil, or_false] at hkey
      rcases hkey with rfl | rfl | rfl
      · cases hv
        exact ⟨_, rfl⟩
      · cases hv
      · cases hv
  have hload : s.registry t =
      .error (.policy (.missingKeys "p" ["category", "target", "severity", "check"])) := by
    have hload : t.loadPack ⟨["p.json"]⟩ = .error (.policy (.missingKeys "p"
        ["category", "target", "severity", "check"])) := by
      simp only [FileTree.loadPack, hread, hgiven]
      rfl
    change Settings.registryOf s [] (["p.json"].mapM fun path => t.loadPack (Path.parse path)) = _
    rw [List.mapM_cons, hpath, hload]
    rfl
  obtain ⟨_, ⟨reg, hreg⟩ | ⟨e, _, _, _, hexecute, _⟩⟩ := configuration_answered s t
    (List.forall_mem_singleton.mpr legible)
  · cases hreg.symm.trans hload
  · exact ⟨legible, _, hexecute rfl⟩

theorem Value.text_of_long {n : Int} (h : ¬ IsShort n) :
    (Value.int n).text = .error .longInteger := by
  simp only [text, literal, literalWithin]
  cases ht : integerText n with
  | ok text => exact absurd (integerText_ok_iff.mp ⟨text, ht⟩) h
  | error cause =>
    cases cause
    rfl

/-- The document of a pack with one rule, which gives only what a rule has to give. -/
def checkedBy (check : Value) : Entries :=
  [(.str "name", .str "team"), (.str "rules", .list [.map [(.str "id", .str "team/x"),
    (.str "category", .str "naming"), (.str "target", .str "type"),
    (.str "severity", .str "error"), (.str "check", check)]])]

theorem ofEntries_checkedBy {check : Value} {cause : Unwritable} (h : check.text = .error cause) :
    Pack.ofEntries (checkedBy check) = .error (unwritable cause) := by
  have hrule : Pack.ruleWith "team" [(.str "id", .str "team/x"), (.str "category", .str "naming"),
      (.str "target", .str "type"), (.str "severity", .str "error"), (.str "check", check)] [] =
      .error (unwritable cause) := by
    unfold Pack.ruleWith
    change (written check.text >>= _) = _
    rw [h]
    rfl
  have hnamed : Pack.ofNamed "team" (checkedBy check) = .error (unwritable cause) := by
    change (List.mapM (Pack.ruleOfValue "team") [_] >>= _) = _
    rw [List.mapM_cons]
    change ((Pack.ruleWith "team" _ [] >>= _) >>= _) = _
    rw [hrule]
    rfl
  have hname : Pack.nameOf (checkedBy check) = .ok "team" := rfl
  have htrim : Text.trim "team" = "team" := by decide
  simp only [Pack.ofEntries, hname, bind, Except.bind, htrim]
  exact hnamed

/-- A check that is an integer of too many digits is no error of a definition, and ends the run. -/
theorem long_check_ends_run :
    let document := checkedBy (.int (Decimal.tenTo digitLimit))
    Pack.ofEntries document = .error (unwritable .longInteger) ∧
      ∀ (s : Settings) (t : FileTree), s.packs = [] → s.packFiles = ["p.yaml"] →
        t.readDocument (Path.parse "p.yaml") = .ok (some document) →
        s.execute t = .aborted (.fault (.unwritable .longInteger)) "" := by
  intro document
  have hlong : ¬ IsShort (Decimal.tenTo digitLimit) := by
    rw [IsShort, Int.natAbs_natCast]
    exact Nat.lt_irrefl _
  have hpack : Pack.ofEntries document = .error (unwritable .longInteger) :=
    ofEntries_checkedBy (Value.text_of_long hlong)
  refine ⟨hpack, fun s t hpacks hfiles hread => ?_⟩
  have hload : t.loadPack (Path.parse "p.yaml") = .error (.policy (unwritable .longInteger)) := by
    have hgiven (stem : String) : document.withDefault "name" (.str stem) = document := rfl
    simp only [FileTree.loadPack, hread, hgiven, hpack]
  have hregistry : s.registry t = .error (.policy (unwritable .longInteger)) := by
    have hstandard : s.standardPacks = [] := by simp [Settings.standardPacks, hpacks, hfiles]
    rw [Settings.registry, hstandard, hfiles, List.mapM_cons, hload]
    rfl
  unfold Settings.execute
  rw [hregistry]
  rfl

end Conformance
