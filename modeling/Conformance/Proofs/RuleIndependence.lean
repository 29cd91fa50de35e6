import Conformance.Proofs.RegistryPacks
import Conformance.Proofs.Suppressions
import Conformance.Proofs.Writing

/-!
# Rules do not disturb each other

A visit changes nothing for later visits but whether its own rule has failed. So the findings of
some rules, in their order, are the same whether or not other rules are asked in between. For packs
this says that the findings under all of them are those under each alone, interleaved.
-/

namespace Conformance

/-- No predicate of the pack breaks off an evaluation. -/
def Pack.Steady (p : Pack) : Prop :=
  ∀ d ∈ p.rules, ∀ predicate, d.predicate = some predicate →
    ∀ node context e, predicate node context ≠ .escape e

/-- A list is made up of its parts in classes that cover it and do not overlap. -/
theorem perm_flatMap_filter {α β : Type} {member : β → α → Bool} {classes : List β}
    {items : List α} (covered : ∀ x ∈ items, ∃ k ∈ classes, member k x = true)
    (apart : classes.Pairwise fun k l => ∀ x, member k x = true → member l x = false) :
    items.Perm (classes.flatMap fun k => items.filter (member k)) := by
  induction classes generalizing items with
  | nil =>
    have hempty : items = [] := by
      apply List.eq_nil_iff_forall_not_mem.mpr
      intro x hx
      obtain ⟨_, hk, _⟩ := covered x hx
      cases hk
    rw [hempty]
    exact .nil
  | cons k rest ih =>
    obtain ⟨hk, hrest⟩ := List.pairwise_cons.mp apart
    let others := items.filter fun x => !member k x
    have hothers : ∀ l ∈ rest, others.filter (member l) = items.filter (member l) := by
      intro l hl
      rw [List.filter_filter]
      refine List.filter_congr fun x _ => ?_
      cases hx : member k x with
      | false => simp
      | true => simp [hk l hl x hx]
    have hcovered : ∀ x ∈ others, ∃ l ∈ rest, member l x = true := by
      intro x hx
      obtain ⟨hmem, hnot⟩ := List.mem_filter.mp hx
      obtain ⟨l, hl, hmember⟩ := covered x hmem
      rcases List.mem_cons.mp hl with rfl | hl
      · simp [hmember] at hnot
      · exact ⟨l, hl, hmember⟩
    have hperm := ih hcovered hrest
    rw [List.flatMap_congr hothers] at hperm
    exact (List.filter_append_perm (member k) items).symm.trans (hperm.append_left _)

/-- The findings that are signed with identifiers of the pack. -/
def Pack.share (p : Pack) (marked : List (String × Finding)) : List Finding :=
  (marked.filter fun m => p.names m.1).map Prod.snd

/-- The findings of `whole`, each signed with the identifier of the rule it comes from, are those of
the parts, one for each pack, in an order that keeps the order of every part. -/
def Interleaves (packs : List Pack) (parts : List (List Finding)) (whole : List Finding) : Prop :=
  ∃ marked : List (String × Finding),
    whole = marked.map Prod.snd ∧
    parts = packs.map (·.share marked) ∧
    ∀ m ∈ marked, m.2.rule = m.1 ∨
      (m.2.rule = Rule.ruleFailure.id ∧ ∃ detail, m.2.message = Rule.ruleFailureText m.1 detail)

namespace Registry

section Visits
variable (reg : Registry) (unit : SourceUnit)

/-- What a visit finds, with the identifier of the rule that is asked; nothing if the rule has
failed before. -/
def yield (failed : List String) (v : Visit) : List (String × Finding) :=
  if failed.contains v.rule.id then []
  else
    match reg.inspect unit v with
    | .finding f => [(v.rule.id, f)]
    | .failure f => [(v.rule.id, f)]
    | _ => []

/-- The rules that have failed after a visit. -/
def failedAfter (failed : List String) (v : Visit) : List String :=
  if failed.contains v.rule.id then failed
  else
    match reg.inspect unit v with
    | .failure _ => v.rule.id :: failed
    | _ => failed

/-- What a series of visits finds. -/
def signed (failed : List String) : List Visit → List (String × Finding)
  | [] => []
  | v :: rest => yield reg unit failed v ++ signed (failedAfter reg unit failed v) rest

variable {reg unit} {failed failed' : List String} {v : Visit} {visits : List Visit}

theorem mem_yield {m : String × Finding} (h : m ∈ yield reg unit failed v) :
    m.1 = v.rule.id ∧ (reg.inspect unit v = .finding m.2 ∨ reg.inspect unit v = .failure m.2) := by
  unfold yield at h
  split at h
  · cases h
  · split at h
    · rename_i f hf
      cases List.mem_singleton.mp h
      exact ⟨rfl, Or.inl hf⟩
    · rename_i f hf
      cases List.mem_singleton.mp h
      exact ⟨rfl, Or.inr hf⟩
    · cases h

theorem mem_signed {m : String × Finding} (h : m ∈ reg.signed unit failed visits) :
    ∃ v ∈ visits, m.1 = v.rule.id ∧
      (reg.inspect unit v = .finding m.2 ∨ reg.inspect unit v = .failure m.2) := by
  induction visits generalizing failed with
  | nil => cases h
  | cons v rest ih =>
    rcases List.mem_append.mp h with h | h
    · exact ⟨v, List.mem_cons_self, mem_yield h⟩
    · obtain ⟨w, hw, hm⟩ := ih h
      exact ⟨w, List.mem_cons_of_mem v hw, hm⟩

/-- A series of visits goes on after its first one if the rule has failed before or does not break
off the evaluation. -/
theorem run_cons_escape {rest : List Visit} :
    (reg.run unit failed (v :: rest)).escape = none ↔
      (failed.contains v.rule.id = false → ∀ e, reg.inspect unit v ≠ .escape e) ∧
        (reg.run unit (failedAfter reg unit failed v) rest).escape = none := by
  simp only [run, failedAfter]
  split
  · simp_all
  · cases reg.inspect unit v <;> simp_all

theorem run_findings (h : (reg.run unit failed visits).escape = none) :
    (reg.run unit failed visits).findings = (reg.signed unit failed visits).map Prod.snd := by
  induction visits generalizing failed with
  | nil => rfl
  | cons v rest ih =>
    have hrest := ih (run_cons_escape.mp h).2
    rw [signed, List.map_append, ← hrest]
    simp only [run, yield, failedAfter] at h ⊢
    split
    · rfl
    · cases hinspect : reg.inspect unit v with
      | escape e => simp_all
      | _ => simp_all

theorem yield_congr (h : failed'.contains v.rule.id = failed.contains v.rule.id) :
    yield reg unit failed' v = yield reg unit failed v := by
  rw [yield, h, yield]

/-- The two lists say the same of the identifiers that are of interest. -/
def AgreeOn (q : String → Bool) (failed' failed : List String) : Prop :=
  ∀ id, q id = true → failed'.contains id = failed.contains id

variable {q : String → Bool}

/-- The visits of a rule do not change what is known of others. -/
theorem AgreeOn.skip (h : AgreeOn q failed' failed) (hq : q v.rule.id = false) :
    AgreeOn q failed' (failedAfter reg unit failed v) := by
  intro id hid
  have hne : id ≠ v.rule.id := by
    rintro rfl
    rw [hq] at hid
    cases hid
  rw [h id hid, failedAfter]
  split
  · rfl
  · split
    · rw [List.contains_cons, beq_false_of_ne hne, Bool.false_or]
    · rfl

theorem AgreeOn.visit (h : AgreeOn q failed' failed) (hq : q v.rule.id = true) :
    AgreeOn q (failedAfter reg unit failed' v) (failedAfter reg unit failed v) := by
  intro id hid
  unfold failedAfter
  rw [h _ hq]
  split
  · exact h id hid
  · split
    · rw [List.contains_cons, List.contains_cons, h id hid]
    · exact h id hid

/-- Leaving out the visits of some rules leaves out what they find and nothing else. What is known
of their failures before does not matter. -/
theorem signed_filter (agree : AgreeOn q failed' failed) :
    reg.signed unit failed' (visits.filter fun v => q v.rule.id) =
      (reg.signed unit failed visits).filter fun m => q m.1 := by
  induction visits generalizing failed failed' with
  | nil => rfl
  | cons v rest ih =>
    rw [signed, List.filter_append]
    cases hq : q v.rule.id with
    | false =>
      have hnone : (yield reg unit failed v).filter (fun m => q m.1) = [] := by
        rw [List.filter_eq_nil_iff]
        intro m hm
        simp [(mem_yield hm).1, hq]
      rw [List.filter_cons_of_neg (by simp [hq]), hnone, List.nil_append]
      exact ih (agree.skip hq)
    | true =>
      have hall : (yield reg unit failed v).filter (fun m => q m.1) = yield reg unit failed v := by
        rw [List.filter_eq_self]
        intro m hm
        rw [(mem_yield hm).1, hq]
      rw [List.filter_cons_of_pos (by simp [hq]), signed, hall, yield_congr (agree _ hq)]
      exact congrArg _ (ih (agree.visit hq))

theorem run_filter_escape (agree : AgreeOn q failed' failed)
    (h : (reg.run unit failed visits).escape = none) :
    (reg.run unit failed' (visits.filter fun v => q v.rule.id)).escape = none := by
  induction visits generalizing failed failed' with
  | nil => rfl
  | cons v rest ih =>
    obtain ⟨hgoes, hrest⟩ := run_cons_escape.mp h
    cases hq : q v.rule.id with
    | false =>
      rw [List.filter_cons_of_neg (by simp [hq])]
      exact ih (agree.skip hq) hrest
    | true =>
      rw [List.filter_cons_of_pos (by simp [hq])]
      exact run_cons_escape.mpr ⟨agree _ hq ▸ hgoes, ih (agree.visit hq) hrest⟩

theorem run_escape_of_calm (calm : ∀ v ∈ visits, ∀ e, reg.inspect unit v ≠ .escape e) :
    (reg.run unit failed visits).escape = none := by
  induction visits generalizing failed with
  | nil => rfl
  | cons v rest ih =>
    obtain ⟨hv, hrest⟩ := List.forall_mem_cons.mp calm
    exact run_cons_escape.mpr ⟨fun _ => hv, ih hrest⟩

theorem inspect_escape {e : Escape} (h : reg.inspect unit v = .escape e) :
    ∃ predicate, v.rule.predicate = some predicate ∧
      predicate v.node (reg.context unit v.rule) = .escape e := by
  simp only [inspect] at h
  split at h
  · cases h
  rename_i predicate hpredicate
  refine ⟨predicate, hpredicate, ?_⟩
  split at h
  case h_3 e' he =>
    cases h
    exact he
  case h_5 =>
    split at h
    · cases h
    · cases h
  all_goals cases h

theorem run_congr {other : Registry} {unit' : SourceUnit}
    (h : ∀ v ∈ visits, other.inspect unit' v = reg.inspect unit v) :
    other.run unit' failed visits = reg.run unit failed visits := by
  induction visits generalizing failed with
  | nil => rfl
  | cons v rest ih =>
    obtain ⟨hv, hrest⟩ := List.forall_mem_cons.mp h
    simp only [run, hv, ih hrest]

/-- A sound unit has a result exactly if none of its visits breaks off the evaluation. -/
theorem evaluate_sound (sound : unit.fault? = none) {result : UnitResult} :
    (reg.evaluate unit).outcome = .ok result ↔
      (reg.run unit [] (reg.visits unit)).escape = none ∧ result = {
        unit := unit.path
        findings := (reg.run unit [] (reg.visits unit)).findings
        suppressions := unit.suppressions } := by
  simp only [evaluate, sound]
  cases (reg.run unit [] (reg.visits unit)).escape with
  | none => simp [eq_comm]
  | some e => simp

end Visits

section Built
variable {rules rules' : List (Draft × Value)} {config : Config} {reg reg' : Registry}
variable (built : ofRules rules config = .ok reg) (built' : ofRules rules' config = .ok reg')
include built built'

/-- What a rule says of a node depends on the registry only through its configuration. -/
theorem inspect_eq (unit : SourceUnit) (v : Visit) : reg'.inspect unit v = reg.inspect unit v := by
  have hcontext : reg'.context unit v.rule = reg.context unit v.rule := by
    rw [context, context, config_eq built, config_eq built']
  have hfailure (fault : Fault) :
      reg'.failureFinding unit v fault = reg.failureFinding unit v fault := by
    have hmem : Rule.ruleFailure ∈ Rule.engineRules := by simp [Rule.engineRules]
    rw [failureFinding, failureFinding, engineSeverity_eq built hmem, engineSeverity_eq built' hmem]
  simp only [inspect, hcontext, hfailure]

end Built

section Packs
variable {permissive : Value} {packs : List Pack} {reg : Registry}
variable (built : ofPacks packs { permissive } = .ok reg)
include built

theorem exists_pack_of_mem_visits {unit : SourceUnit} {v : Visit} (hv : v ∈ reg.visits unit) :
    ∃ p ∈ packs, p.names v.rule.id = true ∧ ∃ d ∈ p.rules, d.predicate = v.rule.predicate := by
  obtain ⟨hrule, hown, _⟩ := mem_rulesFor.mp (mem_visits.mp hv).2
  obtain ⟨d, hd, heq⟩ := (mem_rules_own (ofPacks_eq_ok_iff.mp built) hown).mp hrule
  obtain ⟨p, hp, hdp, hname⟩ := mem_draftsOf.mp hd
  have hmem : d ∈ draftsOf [p] := mem_draftsOf.mpr ⟨p, List.mem_singleton_self p, hdp, hname⟩
  refine ⟨p, hp, (names_iff built hp).mpr ⟨d, hmem, ?_⟩, d.1, hdp, ?_⟩
  · rw [← heq]
    rfl
  · rw [← heq]
    rfl

/-- The run over the rules of one pack alone is the part of the run over all rules that they
have. -/
theorem run_alone {p : Pack} (hp : p ∈ packs) {single : Registry}
    (alone : ofPacks [p] { permissive } = .ok single) {unit : SourceUnit}
    (h : (reg.run unit [] (reg.visits unit)).escape = none) :
    (single.run unit [] (single.visits unit)).escape = none ∧
      (single.run unit [] (single.visits unit)).findings =
        p.share (reg.signed unit [] (reg.visits unit)) := by
  have hrun : single.run unit [] (single.visits unit) =
      reg.run unit [] ((reg.visits unit).filter fun v => p.names v.rule.id) := by
    rw [visits_alone built hp alone]
    exact run_congr fun v _ =>
      inspect_eq (ofPacks_eq_ok_iff.mp built) (ofPacks_eq_ok_iff.mp alone) unit v
  have agree : AgreeOn p.names [] [] := fun _ _ => rfl
  have hescape := run_filter_escape agree h
  rw [hrun, run_findings hescape, signed_filter agree]
  exact ⟨hescape, rfl⟩

theorem exists_singles :
    ∃ singles,
      List.Forall₂ (fun p single => ofPacks [p] { permissive } = .ok single) packs singles := by
  have halone : ∀ p ∈ packs, ∃ single, ofPacks [p] { permissive } = .ok single := fun p hp =>
    exists_alone built hp
  clear built
  induction packs with
  | nil => exact ⟨[], .nil⟩
  | cons p rest ih =>
    obtain ⟨⟨single, hsingle⟩, hrest⟩ := List.forall_mem_cons.mp halone
    obtain ⟨singles, hsingles⟩ := ih hrest
    exact ⟨single :: singles, .cons hsingle hsingles⟩

omit built in
theorem exists_of_mem_singles {singles : List Registry}
    (h : List.Forall₂ (fun p single => ofPacks [p] { permissive } = .ok single) packs singles)
    {r : Registry} (hr : r ∈ singles) : ∃ p, ofPacks [p] { permissive } = .ok r := by
  induction h with
  | nil => cases hr
  | @cons p single _ _ hsingle _ ih =>
    rcases List.mem_cons.mp hr with rfl | hr
    · exact ⟨p, hsingle⟩
    · exact ih hr

/-- The result for a unit that is not sound depends on no pack. -/
theorem evaluate_unsound {unit : SourceUnit} {e : ModelError} (he : unit.fault? = some e) :
    (reg.evaluate unit).outcome = match e.written with
      | .ok detail => .ok {
          unit := unit.path
          findings := [{
            rule := Rule.modelError.id, severity := .error, unit := unit.path
            span := .origin, message := Rule.modelErrorText detail }]
          skipped := true }
      | .error cause => .error (.crash (.unwritable cause)) := by
  have hseverity : reg.engineSeverity Rule.modelError = .error :=
    engineSeverity_eq (ofPacks_eq_ok_iff.mp built) List.mem_cons_self
  simp only [evaluate, he]
  cases e.written with
  | ok detail => simp only [modelErrorResult, hseverity]
  | error cause => rfl

theorem exists_parts {unit : SourceUnit} (sound : unit.fault? = none)
    (h : (reg.run unit [] (reg.visits unit)).escape = none) {chosen : List Pack}
    (hchosen : chosen ⊆ packs) {singles : List Registry}
    (alone : List.Forall₂ (fun p single => ofPacks [p] { permissive } = .ok single)
      chosen singles) :
    ∃ parts,
      List.Forall₂ (fun single part => (single.evaluate unit).outcome = .ok part) singles parts ∧
      parts.map (·.findings) = chosen.map (·.share (reg.signed unit [] (reg.visits unit))) := by
  induction alone with
  | nil => exact ⟨[], .nil, rfl⟩
  | @cons p single ps singles hsingle _ ih =>
    obtain ⟨hp, hps⟩ := List.cons_subset.mp hchosen
    obtain ⟨parts, hparts, hfindings⟩ := ih hps
    obtain ⟨hescape, hfound⟩ := run_alone built hp hsingle h
    refine ⟨_ :: parts, .cons ((evaluate_sound sound).mpr ⟨hescape, rfl⟩) hparts, ?_⟩
    rw [List.map_cons, List.map_cons, hfindings, hfound]

theorem signed_perm (unit : SourceUnit) :
    ((reg.signed unit [] (reg.visits unit)).map Prod.snd).Perm
      ((packs.map (·.share (reg.signed unit [] (reg.visits unit)))).flatten) := by
  have hperm : (reg.signed unit [] (reg.visits unit)).Perm (packs.flatMap fun p =>
      (reg.signed unit [] (reg.visits unit)).filter fun m => p.names m.1) := by
    apply perm_flatMap_filter
    · intro m hm
      obtain ⟨v, hv, hid, _⟩ := mem_signed hm
      obtain ⟨p, hp, hnames, _⟩ := exists_pack_of_mem_visits built hv
      exact ⟨p, hp, hid ▸ hnames⟩
    · exact (names_apart built).imp fun h (m : String × Finding) => h m.1
  have hmap := hperm.map Prod.snd
  rwa [List.map_flatMap, List.flatMap_def] at hmap

/-- The findings that all packs give for a sound unit are those that each of them gives alone: the
same findings, with the order of every pack kept, whichever rules fail. For a unit that is not sound
all the registries give the same model error, provided that its text can be written, and none a
result otherwise. -/
theorem evaluate_packs_independent :
    ∃ singles,
      List.Forall₂ (fun p single => ofPacks [p] { permissive } = .ok single) packs singles ∧
      ∀ unit : SourceUnit,
        (unit.fault? = none →
          ((∀ p ∈ packs, p.Steady) → ∃ whole, (reg.evaluate unit).outcome = .ok whole) ∧
          ∀ whole, (reg.evaluate unit).outcome = .ok whole →
            ∃ parts,
              List.Forall₂ (fun single part => (single.evaluate unit).outcome = .ok part)
                singles parts ∧
              whole.findings.Perm (parts.flatMap (·.findings)) ∧
              Interleaves packs (parts.map (·.findings)) whole.findings) ∧
        ∀ e, unit.fault? = some e → ∀ r ∈ reg :: singles,
          (r.evaluate unit).outcome = match e.written with
            | .ok detail => .ok {
                unit := unit.path
                findings := [{
                  rule := Rule.modelError.id, severity := .error, unit := unit.path
                  span := .origin, message := Rule.modelErrorText detail }]
                skipped := true }
            | .error cause => .error (.crash (.unwritable cause)) := by
  obtain ⟨singles, hsingles⟩ := exists_singles built
  refine ⟨singles, hsingles, fun unit => ⟨fun sound => ⟨?_, ?_⟩, ?_⟩⟩
  · intro steady
    refine ⟨_, (evaluate_sound sound).mpr ⟨run_escape_of_calm ?_, rfl⟩⟩
    intro v hv e he
    obtain ⟨predicate, hpredicate, hescape⟩ := inspect_escape he
    obtain ⟨p, hp, _, d, hd, hsame⟩ := exists_pack_of_mem_visits built hv
    exact steady p hp d hd predicate (hsame.trans hpredicate) _ _ e hescape
  · intro whole hwhole
    obtain ⟨hescape, rfl⟩ := (evaluate_sound sound).mp hwhole
    obtain ⟨parts, hparts, hfindings⟩ :=
      exists_parts built sound hescape (List.Subset.refl packs) hsingles
    refine ⟨parts, hparts, ?_, _, run_findings hescape, hfindings, ?_⟩
    · rw [List.flatMap_def, hfindings, run_findings hescape]
      exact signed_perm built unit
    · intro m hm
      obtain ⟨v, _, hid, hfound | hfailed⟩ := mem_signed hm
      · exact Or.inl (hid ▸ (inspect_finding hfound).1)
      · obtain ⟨fault, hfault⟩ := inspect_failure hfailed
        rw [hfault, hid]
        exact Or.inr ⟨rfl, _, rfl⟩
  · intro e he r hr
    rcases List.mem_cons.mp hr with rfl | hr
    · exact evaluate_unsound built he
    · obtain ⟨p, hp⟩ := exists_of_mem_singles hsingles hr
      exact evaluate_unsound hp he

end Packs

/-- A pack whose rule matches next to a pack whose rule fails. -/
theorem evaluate_packs_independent_oneType :
    let loud : Pack := { name := .str "loud", rules := [everyType.toDraft] }
    let broken : Pack := {
      name := .str "broken"
      rules := [{ everyType.toDraft with
        id := .str "naming/broken", predicate := some fun _ _ => .fault .notPattern }] }
    let unit := oneType "A" []
    ∃ reg, ofPacks [loud, broken] {} = .ok reg ∧ unit.fault? = none ∧
      ∃ (whole : UnitResult) (parts : List UnitResult),
        (reg.evaluate unit).outcome = .ok whole ∧ whole.findings ≠ [] ∧
        whole.findings.Perm (parts.flatMap (·.findings)) ∧
        Interleaves [loud, broken] (parts.map (·.findings)) whole.findings := by
  intro loud broken unit
  obtain ⟨reg, built⟩ : ∃ reg, ofPacks [loud, broken] {} = .ok reg := ⟨_, rfl⟩
  have sound : unit.fault? = none := by
    rw [SourceUnit.fault?, SourceUnit.firstFault?, walk_oneType]
    rfl
  have steady : ∀ p ∈ [loud, broken], p.Steady := by
    intro p hp d hd predicate hpredicate node context e
    rcases List.mem_pair.mp hp with rfl | rfl
    · cases List.mem_singleton.mp hd
      cases hpredicate
      intro h
      cases h
    · cases List.mem_singleton.mp hd
      cases hpredicate
      intro h
      cases h
  obtain ⟨singles, hsingles, hunits⟩ := evaluate_packs_independent built
  obtain ⟨hreturns, hparts⟩ := (hunits unit).1 sound
  obtain ⟨whole, hwhole⟩ := hreturns steady
  obtain ⟨parts, hparts, hperm, hinterleaves⟩ := hparts whole hwhole
  refine ⟨reg, built, sound, whole, parts, hwhole, ?_, hperm, hinterleaves⟩
  obtain ⟨single, _, hloud, _, rfl⟩ := List.forall₂_cons_left_iff.mp hsingles
  obtain ⟨part, rest, hpart, _, rfl⟩ := List.forall₂_cons_left_iff.mp hparts
  rw [evaluate_oneType (ofPacks_eq_ok_iff.mp hloud) sound] at hpart
  cases hpart
  intro hnil
  rw [hnil] at hperm
  cases hperm.symm.eq_nil

/-- A unit that is not sound gives no finding if the text of its model error has too long a
number. -/
theorem evaluate_unwritable_fault :
    let unit : SourceUnit := {
      path := "A", package := "", lineLengths := [(Decimal.tenTo digitLimit : Int) - 1]
      imports := [], suppressions := [⟨"disable all", .ofInts 2 1 2 2⟩], declarations := [] }
    ∃ reg, ofPacks [{ name := .str "loud", rules := [everyType.toDraft] }] {} = .ok reg ∧
      unit.fault? ≠ none ∧ ∀ result, (reg.evaluate unit).outcome ≠ .ok result := by
  intro unit
  have hfault : unit.fault? = some (unit.modelError
      (.spanFault "suppression 'disable all'" (.ofInts 2 1 2 2) (.outsideUnit unit.span))) := rfl
  have hlong : ¬ ∃ detail, (unit.modelError (.spanFault "suppression 'disable all'"
      (.ofInts 2 1 2 2) (.outsideUnit unit.span))).written = .ok detail := by
    rw [ModelError.written_ok_iff]
    intro hshort
    have hmem (last : Int) : last + 1 ∈ (ModelFault.spanFault "suppression 'disable all'"
        (.ofInts 2 1 2 2) (.outsideUnit (.ofInts 1 1 1 (last + 1)))).integers := by
      simp [ModelFault.integers, ModelFault.integers.spanIntegers, Span.ofInts]
    have hlast := hshort _ (hmem ((Decimal.tenTo digitLimit : Int) - 1))
    rw [Int.sub_add_cancel, IsShort, Int.natAbs_natCast] at hlast
    exact lt_irrefl _ hlast
  obtain ⟨reg, built⟩ : ∃ reg, ofPacks [{ name := .str "loud", rules := [everyType.toDraft] }] {} =
    .ok reg := ⟨_, rfl⟩
  refine ⟨reg, built, by rw [hfault]; nofun, fun result hresult => ?_⟩
  rw [evaluate_unsound built hfault] at hresult
  split at hresult
  · rename_i detail hdetail
    exact hlong ⟨detail, hdetail⟩
  · cases hresult

end Registry

end Conformance
