import Conformance.Registry
import Mathlib.Data.List.Nodup

/-!
# The rules of a built registry

Rules are enrolled one after another, each only if its identifier is new, starting from those of the
engine. So no two rules of a registry share an identifier, the engine's identifiers are always
registered, and looking up the identifier of a registered rule gives that rule back.
-/

namespace Conformance

theorem bind_ok {ε α β : Type} {x : Except ε α} {f : α → Except ε β} {b : β}
    (h : (x >>= f) = .ok b) : ∃ a, x = .ok a ∧ f a = .ok b := by
  cases x with
  | error e => cases h
  | ok a => exact ⟨a, rfl, h⟩

theorem Value.eq_str_of_ownText {v : Value} (h : v.ownText ≠ "") : v = .str v.ownText := by
  cases v with
  | str s => rfl
  | _ => exact absurd rfl h

theorem Draft.toRule_ok {d : Draft} {r : Rule} (h : d.toRule = .ok r) :
    (Text.trim d.id.ownText).isEmpty = false ∧
      r = { toRuleBody := d.toRuleBody, id := d.id.ownText, message := d.message.ownText } := by
  simp only [toRule] at h
  split at h
  · cases h
  rename_i hblank
  refine ⟨by simpa using hblank, ?_⟩
  repeat' (split at h; · cases h)
  cases h
  rfl

/-- Only a draft whose identifier is text makes a rule, and the rule keeps it. -/
theorem Draft.toRule_id {d : Draft} {r : Rule} (h : d.toRule = .ok r) : d.id = .str r.id := by
  obtain ⟨hblank, rfl⟩ := Draft.toRule_ok h
  apply Value.eq_str_of_ownText
  intro hempty
  rw [hempty] at hblank
  cases hblank

namespace Registry

theorem originIn_eq_none_iff {entries : List (Rule × Value)} {id : String} :
    originIn entries id = none ↔ ∀ e ∈ entries, e.1.id ≠ id := by
  simp [originIn]

theorem clash_ne_ok (id first second : Value) (u : Unit) : clash id first second ≠ .ok u := by
  intro h
  obtain ⟨_, _, h⟩ := bind_ok h
  obtain ⟨_, _, h⟩ := bind_ok h
  obtain ⟨_, _, h⟩ := bind_ok h
  cases h

/-- What a registry holds for a draft and the name of its pack. -/
def entryOf (d : Draft × Value) : Rule × Value :=
  ({ toRuleBody := d.1.toRuleBody, id := d.1.id.ownText, message := d.1.message.ownText },
    if d.2.isTruthy then d.2 else inlineOrigin)

theorem toRule_eq_entryOf {d : Draft × Value} {r : Rule} (h : d.1.toRule = .ok r) :
    r = (entryOf d).1 :=
  (Draft.toRule_ok h).2

theorem enrol_cons_of_new {known : List (Rule × Value)} {d : Draft × Value}
    {rest : List (Draft × Value)} (hrule : d.1.toRule = .ok (entryOf d).1)
    (hnew : ∀ e ∈ known, e.1.id ≠ (entryOf d).1.id) :
    enrol known (d :: rest) = enrol (known ++ [entryOf d]) rest := by
  have horigin := originIn_eq_none_iff.mpr hnew
  rw [enrol, hrule, Draft.toRule_id hrule]
  simp only [horigin]
  rfl

/-- One more rule is enrolled only under a new identifier. -/
theorem enrol_cons_iff {known entries : List (Rule × Value)} {d : Draft × Value}
    {rest : List (Draft × Value)} :
    enrol known (d :: rest) = .ok entries ↔
      d.1.toRule = .ok (entryOf d).1 ∧ (∀ e ∈ known, e.1.id ≠ (entryOf d).1.id) ∧
        enrol (known ++ [entryOf d]) rest = .ok entries := by
  constructor
  · intro h
    have hparts : d.1.toRule = .ok (entryOf d).1 ∧ ∀ e ∈ known, e.1.id ≠ (entryOf d).1.id := by
      rw [enrol] at h
      obtain ⟨_, _, h⟩ := bind_ok h
      cases hid : d.1.id with
      | str id =>
        simp only [hid] at h
        cases horigin : originIn known id with
        | some first =>
          simp only [horigin] at h
          obtain ⟨_, hclash, _⟩ := bind_ok h
          exact absurd hclash (clash_ne_ok _ _ _ _)
        | none =>
          simp only [horigin] at h
          obtain ⟨r, hr, h⟩ := bind_ok h
          cases toRule_eq_entryOf hr
          have hsame := Value.str.inj (hid.symm.trans (Draft.toRule_id hr))
          exact ⟨hr, originIn_eq_none_iff.mp (hsame ▸ horigin)⟩
      | _ =>
        simp only [hid] at h
        obtain ⟨r, hr, _⟩ := bind_ok h
        cases hid.symm.trans (Draft.toRule_id hr)
    exact ⟨hparts.1, hparts.2, enrol_cons_of_new hparts.1 hparts.2 ▸ h⟩
  · rintro ⟨hrule, hnew, h⟩
    rw [enrol_cons_of_new hrule hnew, h]

/-- Rules can be enrolled exactly if each makes sense and all identifiers differ. -/
theorem enrol_eq_ok_iff {known entries : List (Rule × Value)} {drafts : List (Draft × Value)}
    (distinct : (known.map (·.1.id)).Nodup) :
    enrol known drafts = .ok entries ↔
      (∀ d ∈ drafts, d.1.toRule = .ok (entryOf d).1) ∧
        ((known ++ drafts.map entryOf).map (·.1.id)).Nodup ∧
        entries = known ++ drafts.map entryOf := by
  induction drafts generalizing known with
  | nil => simp [enrol, distinct, eq_comm]
  | cons d rest ih =>
    have happend : known ++ (d :: rest).map entryOf = known ++ [entryOf d] ++ rest.map entryOf := by
      simp
    have hsnoc : ((known ++ [entryOf d]).map (·.1.id)).Nodup ↔
        ∀ e ∈ known, e.1.id ≠ (entryOf d).1.id := by
      rw [((List.perm_append_singleton (entryOf d) known).map _).nodup_iff, List.map_cons,
        List.nodup_cons, and_iff_left distinct, List.mem_map, not_exists]
      exact forall_congr' fun _ => not_and
    rw [enrol_cons_iff, List.forall_mem_cons, happend]
    constructor
    · rintro ⟨hrule, hnew, h⟩
      obtain ⟨hrest, hnodup, rfl⟩ := (ih (hsnoc.mpr hnew)).mp h
      exact ⟨⟨hrule, hrest⟩, hnodup, rfl⟩
    · rintro ⟨⟨hrule, hrest⟩, hnodup, rfl⟩
      have hd : ((known ++ [entryOf d]).map (·.1.id)).Nodup := by
        rw [List.map_append] at hnodup
        exact hnodup.of_append_left
      exact ⟨hrule, hsnoc.mp hd, (ih hd).mpr ⟨hrest, hnodup, rfl⟩⟩

/-- A registry is built exactly if the rules can be enrolled and the configuration names rules that
are known; it holds them sorted, under the severities of the configuration. -/
theorem ofRules_eq_ok_iff {rules : List (Draft × Value)} {config : Config} {reg : Registry} :
    ofRules rules config = .ok reg ↔
      ∃ entries, enrol engineEntries rules = .ok entries ∧
        checkOverrides entries config.overrides = .ok () ∧
        checkDisabled entries config.disabled = .ok () ∧
        reg = {
          config
          entries := (entries.map fun e => (e.1.withOverride config, e.2)).mergeSort
            fun a b => Text.atMost a.1.id b.1.id } := by
  constructor
  · intro built
    obtain ⟨entries, henrol, built⟩ := bind_ok built
    obtain ⟨_, hoverrides, built⟩ := bind_ok built
    obtain ⟨_, hdisabled, built⟩ := bind_ok built
    cases built
    exact ⟨entries, henrol, hoverrides, hdisabled, rfl⟩
  · rintro ⟨entries, henrol, hoverrides, hdisabled, rfl⟩
    rw [ofRules, henrol]
    change (checkOverrides entries config.overrides >>= fun _ => _) = _
    rw [hoverrides]
    change (checkDisabled entries config.disabled >>= fun _ => _) = _
    rw [hdisabled]
    rfl

section Built
variable {rules : List (Draft × Value)} {config : Config} {reg : Registry}
variable (built : ofRules rules config = .ok reg)
include built

/-- The rules of a registry are those enrolled, under the severities of its configuration. -/
theorem rules_perm :
    ∃ entries, enrol engineEntries rules = .ok entries ∧
      reg.rules.Perm (entries.map fun e => e.1.withOverride config) := by
  obtain ⟨entries, henrol, _, _, rfl⟩ := ofRules_eq_ok_iff.mp built
  refine ⟨entries, henrol, ?_⟩
  unfold Registry.rules
  have hsort := List.mergeSort_perm (entries.map fun e => (e.1.withOverride config, e.2))
    fun a b => Text.atMost a.1.id b.1.id
  simpa [Function.comp_def] using hsort.map Prod.fst

theorem config_eq : reg.config = config := by
  obtain ⟨_, _, _, _, rfl⟩ := ofRules_eq_ok_iff.mp built
  rfl

theorem ids_nodup : (reg.rules.map (·.id)).Nodup := by
  obtain ⟨entries, henrol, hperm⟩ := rules_perm built
  obtain ⟨_, hd, rfl⟩ := (enrol_eq_ok_iff (by decide)).mp henrol
  refine (hperm.map (·.id)).nodup_iff.mpr ?_
  simpa [Function.comp_def, Rule.withOverride] using hd

theorem get?_id {r : Rule} (hr : r ∈ reg.rules) : reg.get? r.id = some r := by
  obtain ⟨s, hs⟩ : ∃ s, reg.get? r.id = some s :=
    Option.isSome_iff_exists.mp (List.find?_isSome.mpr ⟨r, hr, by simp⟩)
  have hid : s.id = r.id := by simpa using List.find?_some hs
  have heq := List.inj_on_of_nodup_map (ids_nodup built) (List.mem_of_find?_eq_some hs) hr hid
  rw [hs, heq]

theorem get?_eq_some_iff {id : String} {r : Rule} :
    reg.get? id = some r ↔ r ∈ reg.rules ∧ r.id = id := by
  constructor
  · intro h
    exact ⟨List.mem_of_find?_eq_some h, by simpa using List.find?_some h⟩
  · rintro ⟨hr, rfl⟩
    exact get?_id built hr

theorem mem_rules_iff {entries : List (Rule × Value)}
    (henrol : enrol engineEntries rules = .ok entries) {r : Rule} :
    r ∈ reg.rules ↔ ∃ e ∈ entries, e.1.withOverride config = r := by
  obtain ⟨entries', henrol', hperm⟩ := rules_perm built
  cases henrol.symm.trans henrol'
  rw [hperm.mem_iff, List.mem_map]

/-- The engine's identifiers are always registered, with the severity of the configuration. -/
theorem get?_engine {r : Rule} (hr : r ∈ Rule.engineRules) :
    reg.get? r.id = some (r.withOverride config) := by
  obtain ⟨entries, henrol, hperm⟩ := rules_perm built
  have hentry : (r, enginePack) ∈ engineEntries := List.mem_map.mpr ⟨r, hr, rfl⟩
  obtain ⟨_, _, rfl⟩ := (enrol_eq_ok_iff (by decide)).mp henrol
  have hmem : r.withOverride config ∈ reg.rules :=
    hperm.mem_iff.mpr (List.mem_map.mpr ⟨_, List.mem_append_left _ hentry, rfl⟩)
  exact get?_id built hmem

theorem engineSeverity_eq {r : Rule} (hr : r ∈ Rule.engineRules) :
    reg.engineSeverity r = (r.withOverride config).severity := by
  rw [engineSeverity, get?_engine built hr, Option.getD_some]

/-- A rule that is not of the engine has none of its identifiers. -/
theorem id_ne_engine {r : Rule} (hr : r ∈ reg.rules) (hown : r.isEngine = false) {e : Rule}
    (he : e ∈ Rule.engineRules) : r.id ≠ e.id := by
  intro hid
  have hget := get?_id built hr
  rw [hid, get?_engine built he] at hget
  have hengine : ∀ e ∈ Rule.engineRules, e.isEngine = true := by decide
  have hsame : r.isEngine = e.isEngine := by rw [← Option.some.inj hget]; rfl
  rw [hengine e he, hown] at hsame
  cases hsame

end Built

end Registry

end Conformance
