import Conformance.Proofs.DirectiveGrammar
import Conformance.Proofs.RegistryAdmission
import Mathlib.Data.List.Nodup

/-!
# Naming rules in directives

A registry takes any identifier that is not blank. A directive divides its text at commas, trims the
parts, allows few characters in them and reads one word as all rules. So there are rules that no
directive names, and a rule whose own directive stands for all rules.
-/

namespace Conformance

namespace Directive
open Text

/-- What a directive can give as the name of a rule. -/
structure IsNameable (id : String) : Prop where
  name : IsName id.toList
  plain : SpellsAll id.toList → id = "all"

theorem isNameable_iff {id : String} :
    IsNameable id ↔ IsName id.toList ∧ (SpellsAll id.toList → id = "all") :=
  ⟨fun h => ⟨h.name, h.plain⟩, fun h => ⟨h.1, h.2⟩⟩

instance (id : String) : Decidable (IsNameable id) := decidable_of_iff _ isNameable_iff.symm

theorem isName_all : IsName "all".toList := by
  decide

theorem isName_of_spellsAll {t : List Char} (h : SpellsAll t) : IsName t := by
  refine ⟨fun hnil => ?_, fun c hc => ?_⟩
  · rw [hnil] at h
    cases h
  · have hlower : c.toLower ∈ "all".toList := h ▸ List.mem_map_of_mem hc
    unfold Char.toLower at hlower
    split at hlower
    · rename_i hupper
      exact .inl hupper
    · exact isName_all.chars c hlower

theorem isNameable_meaning {t : List Char} (h : IsName t) : IsNameable (meaning t) := by
  unfold meaning
  split_ifs with hall
  · exact ⟨isName_all, fun _ => rfl⟩
  · rw [isNameable_iff, String.toList_ofList]
    exact ⟨h, fun hspells => absurd hspells hall⟩

theorem IsNameable.meaning_eq {id : String} (h : IsNameable id) : meaning id.toList = id := by
  unfold meaning
  split_ifs with hall
  · exact (h.plain hall).symm
  · exact String.ofList_toList

/-- A lone reference after the word. -/
theorem spells_lone {reg : Registry} {id : String} (h : IsReference reg id.toList) :
    Spells reg [id.toList] ("disable " ++ id) := by
  have hline : '\n' ∉ id.toList := fun hmem => absurd (h.chars _ hmem) (by decide)
  have hframes : Frames id.toList ("disable " ++ id).toList := by
    refine ⟨[], "disable".toList, [' '], [], [], [], ?_, by decide, by decide, by decide, by decide,
      by decide +kernel, by decide⟩
    rw [String.toList_append, List.append_nil]
    rfl
  exact ⟨⟨id.toList, hframes, .last _, hline⟩, List.forall_mem_singleton.mpr h⟩

end Directive

namespace Registry
open Directive

section Naming
variable {reg : Registry}

theorem isNameable_of_mem {text : String} {names : List String}
    (h : reg.parseDirective text = .ok names) {name : String} (hname : name ∈ names) :
    IsNameable name := by
  obtain ⟨refs, hspells⟩ := spells_of_parseDirective h
  rw [parseDirective_of_spells hspells] at h
  cases h
  obtain ⟨t, ht, rfl⟩ := List.mem_map.mp (List.mem_eraseDups.mp hname)
  exact isNameable_meaning (hspells.references t ht).toIsName

theorem parseDirective_lone {id : String} (h : IsReference reg id.toList) :
    reg.parseDirective ("disable " ++ id) = .ok [meaning id.toList] :=
  parseDirective_of_spells (spells_lone h)

end Naming

theorem trim_ne_empty_of_contains {drafts : List (Draft × Value)} {config : Config} {reg : Registry}
    (built : ofRules drafts config = .ok reg) {id : String} (h : reg.contains id = true) :
    Text.trim id ≠ "" := by
  obtain ⟨r, hr, rfl⟩ := contains_iff.mp h
  obtain ⟨entries, henrol, hperm⟩ := rules_perm built
  obtain ⟨hrules, -, rfl⟩ := (enrol_eq_ok_iff (by decide)).mp henrol
  obtain ⟨e, he, rfl⟩ := List.mem_map.mp (hperm.mem_iff.mp hr)
  rcases List.mem_append.mp he with he | he
  · have hengine : ∀ e ∈ engineEntries, Text.trim e.1.id ≠ "" := by decide +kernel
    exact hengine e he
  · obtain ⟨d, hd, rfl⟩ := List.mem_map.mp he
    have hblank := (Draft.toRule_ok (hrules d hd)).1
    intro hempty
    rw [show Text.trim d.1.id.ownText = "" from hempty] at hblank
    cases hblank

theorem exists_contains_of_trim {id : String} (h : Text.trim id ≠ "") :
    ∃ drafts config reg, ofRules drafts config = .ok reg ∧ reg.contains id = true := by
  by_cases hengine : id ∈ Rule.engineIds
  · obtain ⟨r, hr, rfl⟩ := List.mem_map.mp hengine
    obtain ⟨reg, built⟩ : ∃ reg, ofRules [] {} = .ok reg := ⟨_, rfl⟩
    exact ⟨[], {}, reg, built, Option.isSome_iff_exists.mpr ⟨_, get?_engine built hr⟩⟩
  · have hvalid : (namingDraft id .type).IsValid :=
      namingDraft_valid (by simpa using h) (by decide)
    have hkey : Value.str id ∉ engineKeys := by
      intro hmem
      obtain ⟨key, hkey, heq⟩ := List.mem_map.mp hmem
      cases heq
      exact hengine hkey
    let d : Draft × Value := (namingDraft id .type, inlineOrigin)
    have admissible : Admissible ([d].map Prod.fst) {} := {
      valid := List.forall_mem_singleton.mpr hvalid
      distinct := List.nodup_singleton _
      unreserved := List.forall_mem_singleton.mpr hkey
      overrides := fun _ ho => absurd ho List.not_mem_nil
      disabled := fun _ hid => absurd hid List.not_mem_nil
      spared := fun _ hid => absurd hid List.not_mem_nil }
    obtain ⟨reg, built⟩ := ofRules_ok_iff.mpr admissible
    have hr := (mem_rules_own built (r := (entryOf d).1.withOverride {}) rfl).mpr
      ⟨d, List.mem_singleton_self d, rfl⟩
    exact ⟨[d], {}, reg, built, contains_iff.mpr ⟨_, hr, rfl⟩⟩

/-- Every identifier that is not blank can be registered. The directive with a registered identifier
alone gives that identifier exactly if it is nameable. Otherwise no directive at all gives it, and
if it spells the word for all rules, its own directive gives that word. -/
theorem lone_directive_names_iff (id : String) :
    ((∃ drafts config reg, ofRules drafts config = .ok reg ∧ reg.contains id = true) ↔
      Text.trim id ≠ "") ∧
    ∀ reg : Registry, reg.contains id = true →
      (reg.parseDirective ("disable " ++ id) = .ok [id] ↔ IsNameable id) ∧
      (SpellsAll id.toList → reg.parseDirective ("disable " ++ id) = .ok ["all"]) ∧
      (¬ IsNameable id → ∀ text names, reg.parseDirective text = .ok names → id ∉ names) := by
  refine ⟨⟨?_, exists_contains_of_trim⟩, fun reg known => ⟨⟨?_, ?_⟩, ?_, ?_⟩⟩
  · rintro ⟨drafts, config, reg, built, known⟩
    exact trim_ne_empty_of_contains built known
  · intro h
    exact isNameable_of_mem h (List.mem_singleton_self id)
  · intro h
    have hnamed : ∃ r ∈ reg.rules, r.id = String.ofList id.toList := by
      rw [String.ofList_toList]
      exact contains_iff.mp known
    rw [parseDirective_lone ⟨h.name, .inr hnamed⟩, h.meaning_eq]
  · intro hall
    rw [parseDirective_lone ⟨isName_of_spellsAll hall, .inl hall⟩, meaning, if_pos hall]
  · intro h text names hnames hmem
    exact h (isNameable_of_mem hnames hmem)

def teamDrafts : List (Draft × Value) :=
  [(namingDraft "team/größe" .type, inlineOrigin), (namingDraft "All" .type, inlineOrigin)]

theorem contains_teamDrafts {reg : Registry} (built : ofRules teamDrafts {} = .ok reg)
    {d : Draft × Value} (hd : d ∈ teamDrafts) (own : (entryOf d).1.isEngine = false) :
    reg.contains (entryOf d).1.id = true :=
  contains_iff.mpr ⟨_, (mem_rules_own built own).mpr ⟨d, hd, rfl⟩, rfl⟩

/-- Of three registered rules one is named by its directive, one by none, and the directive of the
third names all rules. -/
theorem lone_directive_names_teamDrafts :
    ∃ reg, ofRules teamDrafts {} = .ok reg ∧
      reg.parseDirective ("disable " ++ "engine/rule-failure") = .ok ["engine/rule-failure"] ∧
      (∀ text names, reg.parseDirective text = .ok names → "team/größe" ∉ names) ∧
      reg.parseDirective ("disable " ++ "All") = .ok ["all"] := by
  obtain ⟨reg, built⟩ : ∃ reg, ofRules teamDrafts {} = .ok reg := ⟨_, rfl⟩
  have hrule : Rule.ruleFailure ∈ Rule.engineRules := by simp [Rule.engineRules]
  have hengine : reg.contains "engine/rule-failure" = true :=
    Option.isSome_iff_exists.mpr ⟨_, get?_engine built hrule⟩
  have hteam : reg.contains "team/größe" = true :=
    contains_teamDrafts built List.mem_cons_self rfl
  have hword : reg.contains "All" = true :=
    contains_teamDrafts built (List.mem_cons_of_mem _ List.mem_cons_self) rfl
  refine ⟨reg, built, ?_, ?_, ?_⟩
  · exact ((lone_directive_names_iff _).2 reg hengine).1.mpr (by decide)
  · exact ((lone_directive_names_iff _).2 reg hteam).2.2 (by decide)
  · exact ((lone_directive_names_iff _).2 reg hword).2.1 (by decide)

/-- Two registered rules whose own directives do not name them. -/
theorem registered_rule_unnamed :
    ∃ reg, ofRules teamDrafts {} = .ok reg ∧
      reg.contains "team/größe" = true ∧
      reg.parseDirective ("disable " ++ "team/größe") = .error (.badReference "team/größe") ∧
      reg.contains "All" = true ∧ reg.parseDirective ("disable " ++ "All") = .ok ["all"] := by
  obtain ⟨reg, built⟩ : ∃ reg, ofRules teamDrafts {} = .ok reg := ⟨_, rfl⟩
  refine ⟨reg, built, contains_teamDrafts built List.mem_cons_self rfl, ?_,
    contains_teamDrafts built (List.mem_cons_of_mem _ List.mem_cons_self) rfl, ?_⟩
  · rfl
  · rfl

end Registry

end Conformance
