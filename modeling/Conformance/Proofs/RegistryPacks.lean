import Conformance.Proofs.SeverityStamps
import Mathlib.Data.String.Basic

/-!
# Registries of packs

What enrolment accepts has identifiers that are texts and differ, so the earlier search for clashes
among packs refuses nothing more. With a configuration that only sets the permissive switch, packs
can therefore be registered together only if each can be registered alone, and the rules that the
registry of one pack shows to a node are those that the registry of all packs shows to it, less the
rules of the other packs.
-/

namespace Conformance

/-- Whether a rule of the pack has the identifier. -/
def Pack.names (p : Pack) (id : String) : Bool := p.rules.any (·.id.isText id)

namespace Registry

/-- The rules of packs, each with the name of its pack. -/
def draftsOf (packs : List Pack) : List (Draft × Value) :=
  packs.flatMap fun p => p.rules.map fun r => (r, p.name)

theorem mem_draftsOf {packs : List Pack} {d : Draft × Value} :
    d ∈ draftsOf packs ↔ ∃ p ∈ packs, d.1 ∈ p.rules ∧ d.2 = p.name := by
  simp only [draftsOf, List.mem_flatMap, List.mem_map]
  constructor
  · rintro ⟨p, hp, r, hr, rfl⟩
    exact ⟨p, hp, hr, rfl⟩
  · rintro ⟨p, hp, hr, hname⟩
    exact ⟨p, hp, d.1, hr, Prod.ext rfl hname.symm⟩

theorem draftsOf_sublist {packs : List Pack} {p : Pack} (hp : p ∈ packs) :
    (draftsOf [p]).Sublist (draftsOf packs) := by
  obtain ⟨before, after, rfl⟩ := List.append_of_mem hp
  have happend : draftsOf (before ++ p :: after) =
      draftsOf before ++ draftsOf [p] ++ draftsOf after := by
    simp [draftsOf]
  rw [happend]
  exact (List.infix_append _ _ _).sublist

theorem checkClashes_of_distinct {seen : Entries} {drafts : List (Draft × Value)}
    (rules : ∀ d ∈ drafts, d.1.toRule = .ok (entryOf d).1)
    (distinct : (drafts.map fun d => (entryOf d).1.id).Nodup)
    (fresh : ∀ d ∈ drafts, ∀ s ∈ seen, s.1.sameKey d.1.id = false) :
    checkClashes seen drafts = .ok () := by
  induction drafts generalizing seen with
  | nil => rfl
  | cons d rest ih =>
    obtain ⟨hd, hrest⟩ := List.forall_mem_cons.mp rules
    obtain ⟨hother, hdistinct⟩ := List.nodup_cons.mp distinct
    have hid := Draft.toRule_id hd
    have hfind : Entries.find? seen d.1.id = none := by
      rw [Entries.find?, Option.map_eq_none_iff, List.find?_eq_none]
      intro s hs
      simp [fresh d List.mem_cons_self s hs]
    have hlater : checkClashes ((d.1.id, d.2) :: seen) rest = .ok () := by
      apply ih hrest hdistinct
      intro e he s hs
      rcases List.mem_cons.mp hs with rfl | hs
      · rw [hid, Draft.toRule_id (hrest e he)]
        have hne : (entryOf d).1.id ≠ (entryOf e).1.id := fun heq =>
          hother (List.mem_map.mpr ⟨e, he, heq.symm⟩)
        exact beq_eq_false_iff_ne.mpr hne
      · exact fresh e (List.mem_cons_of_mem d he) s hs
    have hkey : checkKey d.1.id = .ok () := by rw [hid]; rfl
    rw [checkClashes, hkey, hfind]
    exact hlater

/-- Packs make a registry exactly if their rules do. -/
theorem ofPacks_eq_ok_iff {packs : List Pack} {config : Config} {reg : Registry} :
    ofPacks packs config = .ok reg ↔ ofRules (draftsOf packs) config = .ok reg := by
  constructor
  · intro h
    obtain ⟨_, _, h⟩ := bind_ok h
    exact h
  · intro h
    obtain ⟨entries, henrol, _⟩ := rules_perm h
    obtain ⟨hrules, hnodup, _⟩ := (enrol_eq_ok_iff (by decide)).mp henrol
    rw [List.map_append, List.map_map] at hnodup
    have hclash : checkClashes [] (draftsOf packs) = .ok () :=
      checkClashes_of_distinct hrules hnodup.of_append_right fun _ _ => List.forall_mem_nil _
    change (checkClashes [] (draftsOf packs) >>= fun _ => ofRules (draftsOf packs) config) = _
    rw [hclash]
    exact h

instance : Std.Irrefl fun a b : Rule => Text.codes a.id < Text.codes b.id where
  irrefl a := lt_irrefl (Text.codes a.id)

instance : Std.Antisymm fun a b : Rule => Text.codes a.id < Text.codes b.id where
  antisymm _ _ hab hba := absurd (hab.trans hba) (lt_irrefl _)

section Rules
variable {rules : List (Draft × Value)} {config : Config} {reg : Registry}
variable (built : ofRules rules config = .ok reg)
include built

/-- The rules are in the order of their identifiers, which differ. -/
theorem entries_ordered :
    reg.entries.Pairwise fun a b => Text.codes a.1.id < Text.codes b.1.id := by
  have hle : reg.entries.Pairwise fun a b => Text.atMost a.1.id b.1.id = true := by
    obtain ⟨_, _, _, _, rfl⟩ := ofRules_eq_ok_iff.mp built
    exact Text.pairwise_mergeSort_atMost (fun e : Rule × Value => e.1.id) _
  have hne : reg.entries.Pairwise fun a b => a.1.id ≠ b.1.id := by
    have hnodup := ids_nodup built
    rw [Registry.rules, List.map_map] at hnodup
    exact List.pairwise_map.mp hnodup
  exact (hle.and hne).imp fun h => Text.codes_lt_of_atMost h.1 h.2

theorem rulesFor_ordered (kind : NodeKind) :
    (reg.rulesFor kind).Pairwise fun a b => Text.codes a.id < Text.codes b.id := by
  have hrules : reg.rules.Pairwise fun a b => Text.codes a.id < Text.codes b.id :=
    List.pairwise_map.mpr (entries_ordered built)
  exact hrules.sublist List.filter_sublist

/-- The rules that are not of the engine are those of the drafts, with their severities. -/
theorem mem_rules_own {r : Rule} (own : r.isEngine = false) :
    r ∈ reg.rules ↔ ∃ d ∈ rules, (entryOf d).1.withOverride config = r := by
  obtain ⟨entries, henrol, hperm⟩ := rules_perm built
  obtain ⟨_, _, rfl⟩ := (enrol_eq_ok_iff (by decide)).mp henrol
  have hengine : ¬ ∃ e ∈ engineEntries, e.1.withOverride config = r := by
    rintro ⟨e, he, rfl⟩
    have hall : ∀ e ∈ engineEntries, e.1.isEngine = true := by decide
    have hown : e.1.isEngine = false := own
    rw [hall e he] at hown
    cases hown
  rw [hperm.mem_iff, List.map_append, List.mem_append, List.mem_map, or_iff_right hengine]
  simp

end Rules

/-- The registry can be built exactly if every rule makes sense and all identifiers differ. -/
theorem ofRules_plain_iff {permissive : Value} {drafts : List (Draft × Value)} :
    (∃ reg, ofRules drafts { permissive } = .ok reg) ↔
      (∀ d ∈ drafts, d.1.toRule = .ok (entryOf d).1) ∧
        ((engineEntries ++ drafts.map entryOf).map (·.1.id)).Nodup := by
  constructor
  · rintro ⟨reg, built⟩
    obtain ⟨entries, henrol, _⟩ := bind_ok built
    obtain ⟨hrules, hnodup, _⟩ := (enrol_eq_ok_iff (by decide)).mp henrol
    exact ⟨hrules, hnodup⟩
  · rintro ⟨hrules, hnodup⟩
    rw [ofRules, (enrol_eq_ok_iff (by decide)).mpr ⟨hrules, hnodup, rfl⟩]
    exact ⟨_, rfl⟩

section Packs
variable {permissive : Value} {packs : List Pack} {reg : Registry}
variable (built : ofPacks packs { permissive } = .ok reg)
include built

theorem toRule_of_mem_draftsOf {d : Draft × Value} (hd : d ∈ draftsOf packs) :
    d.1.toRule = .ok (entryOf d).1 :=
  (ofRules_plain_iff.mp ⟨reg, ofPacks_eq_ok_iff.mp built⟩).1 d hd

theorem draftsOf_distinct : ((engineEntries ++ (draftsOf packs).map entryOf).map (·.1.id)).Nodup :=
  (ofRules_plain_iff.mp ⟨reg, ofPacks_eq_ok_iff.mp built⟩).2

theorem exists_alone {p : Pack} (hp : p ∈ packs) :
    ∃ single, ofPacks [p] { permissive } = .ok single := by
  have hsub := draftsOf_sublist hp
  obtain ⟨single, halone⟩ := ofRules_plain_iff.mpr
    ⟨fun d hd => toRule_of_mem_draftsOf built (hsub.subset hd),
      (draftsOf_distinct built).sublist (((hsub.map entryOf).append_left engineEntries).map _)⟩
  exact ⟨single, ofPacks_eq_ok_iff.mpr halone⟩

theorem names_iff {p : Pack} (hp : p ∈ packs) {id : String} :
    p.names id = true ↔ ∃ d ∈ draftsOf [p], (entryOf d).1.id = id := by
  have hid {d : Draft} (hd : d ∈ p.rules) : d.id = .str d.id.ownText :=
    have hmem : (d, p.name) ∈ draftsOf packs := mem_draftsOf.mpr ⟨p, hp, hd, rfl⟩
    Draft.toRule_id (toRule_of_mem_draftsOf built hmem)
  simp only [Pack.names, List.any_eq_true]
  constructor
  · rintro ⟨d, hd, htext⟩
    refine ⟨(d, p.name), mem_draftsOf.mpr ⟨p, List.mem_singleton_self p, hd, rfl⟩, ?_⟩
    rw [hid hd] at htext
    exact beq_iff_eq.mp htext
  · rintro ⟨⟨d, name⟩, hd, rfl⟩
    obtain ⟨q, hq, hd, _⟩ := mem_draftsOf.mp hd
    cases List.mem_singleton.mp hq
    refine ⟨d, hd, ?_⟩
    rw [hid hd]
    simp [entryOf]

/-- No identifier is in two packs. -/
theorem names_apart :
    packs.Pairwise fun p p' => ∀ id, p.names id = true → p'.names id = false := by
  let ids (p : Pack) : List String := (draftsOf [p]).map fun d => (entryOf d).1.id
  have hids : (packs.flatMap ids).Nodup := by
    have hnodup := draftsOf_distinct built
    rw [List.map_append, List.map_map] at hnodup
    convert hnodup.of_append_right using 1
    simp [ids, draftsOf, List.map_flatMap, Function.comp_def]
  have hmem {p : Pack} (hp : p ∈ packs) {id : String} (h : p.names id = true) : id ∈ ids p := by
    obtain ⟨d, hd, hid⟩ := (names_iff built hp).mp h
    exact List.mem_map.mpr ⟨d, hd, hid⟩
  refine (List.nodup_flatMap.mp hids).2.imp_of_mem ?_
  intro p p' hp hp' hdisjoint id hid
  by_contra hboth
  exact hdisjoint (hmem hp hid) (hmem hp' (eq_true_of_ne_false hboth))

section Alone
variable {p : Pack} (hp : p ∈ packs) {single : Registry}
variable (alone : ofPacks [p] { permissive } = .ok single)
include hp alone

/-- Among others, a pack shows a node the rules that it shows alone. -/
theorem rulesFor_alone (kind : NodeKind) :
    single.rulesFor kind = (reg.rulesFor kind).filter fun r => p.names r.id := by
  have hrules := ofPacks_eq_ok_iff.mp built
  have hrules' := ofPacks_eq_ok_iff.mp alone
  apply (rulesFor_ordered hrules' kind).eq_of_mem_iff
    ((rulesFor_ordered hrules kind).sublist List.filter_sublist)
  intro r
  rw [List.mem_filter, mem_rulesFor, mem_rulesFor, config_eq hrules, config_eq hrules']
  constructor
  · rintro ⟨hfrom, hown, hrest⟩
    obtain ⟨d, hd, rfl⟩ := (mem_rules_own hrules' hown).mp hfrom
    have hnames := (names_iff built hp).mpr ⟨d, hd, rfl⟩
    have hmem := (mem_rules_own hrules hown).mpr ⟨d, (draftsOf_sublist hp).subset hd, rfl⟩
    exact ⟨⟨hmem, hown, hrest⟩, hnames⟩
  · rintro ⟨⟨hfrom, hown, hrest⟩, hnames⟩
    obtain ⟨d, hd, rfl⟩ := (mem_rules_own hrules hown).mp hfrom
    obtain ⟨e, he, hid⟩ := (names_iff built hp).mp hnames
    have hmem {d : Draft × Value} (hd : d ∈ draftsOf packs) :
        entryOf d ∈ engineEntries ++ (draftsOf packs).map entryOf :=
      List.mem_append_right _ (List.mem_map_of_mem hd)
    have hsame : entryOf e = entryOf d := List.inj_on_of_nodup_map (draftsOf_distinct built)
      (hmem ((draftsOf_sublist hp).subset he)) (hmem hd) hid
    exact ⟨(mem_rules_own hrules' hown).mpr ⟨e, he, by rw [hsame]⟩, hown, hrest⟩

theorem visits_alone (unit : SourceUnit) :
    single.visits unit = (reg.visits unit).filter fun v => p.names v.rule.id := by
  simp only [visits, rulesFor_alone built hp alone, List.filter_flatMap, List.filter_map]
  rfl

end Alone

end Packs

end Registry

end Conformance
