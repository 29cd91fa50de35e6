import Conformance.Pack.Basic
import Conformance.Proofs.Failures
import Conformance.Proofs.Writing

/-!
# The errors of reading a pack

Whatever is wrong with the document of a pack is an error of a definition. Values that cannot be
written count against the rule that has them, but not everywhere: the name and the version of the
pack, and the identifier, the check and the message of a rule, are written before anything takes the
blame.
-/

namespace Conformance

/-- The error of a definition, of a pack that cannot be loaded, or of rules that share an
identifier. -/
def PolicyError.IsDefinition (e : PolicyError) : Prop :=
  e.family = .definition ∨ e.family = .duplicate ∨ e.family = .load

/-- The keys of a rule whose values are written before the rule takes any blame. -/
def Entries.ruleTexts : List String := ["id", "check", "message"]

/-- The values in the document of a pack that are written while no rule takes the blame. -/
inductive Entries.Writes (m : Entries) : Value → Prop where
  | name {v : Value} (hv : m.get? "name" = some v) (given : v.isTruthy = true) : Writes m v
  | version {v : Value} (hv : m.get? "version" = some v) : Writes m v
  | rule {rules : List Value} {entry : Value} {q : Entries} {key : String} {v : Value}
      (hrules : ((m.get? "rules").getD .null).bare = .list rules) (hentry : entry ∈ rules)
      (hq : entry.bare = .map q) (hkey : key ∈ ruleTexts)
      (hv : q.get? key = some v) : Writes m v

namespace PolicyError

/-- The error of a definition, or of a value that cannot be written. -/
def IsBlamable (e : PolicyError) : Prop := e.IsDefinition ∨ ∃ cause, e = unwritable cause

theorem written_failsOnly {P : PolicyError → Prop} {v : Value}
    (h : ∀ cause, v.text = .error cause → P (unwritable cause)) :
    FailsOnly P (written v.text) := by
  cases hv : v.text with
  | ok text => exact .ok text
  | error cause => exact .error (h cause hv)

theorem written_blamable (x : Except Unwritable String) : FailsOnly IsBlamable (written x) := by
  cases x with
  | ok text => exact .ok text
  | error cause => exact .error (Or.inr ⟨cause, rfl⟩)

/-- What cannot be written counts against the rule. -/
theorem IsBlamable.blame {e : PolicyError} (h : e.IsBlamable) (id pack : String) :
    (Pack.blame id pack e).IsDefinition := by
  rcases h with h | ⟨cause, rfl⟩
  · unfold Pack.blame
    split
    · exact Or.inr (Or.inr rfl)
    · exact h
  · exact Or.inr (Or.inr rfl)

end PolicyError

open PolicyError

namespace AnnotationTable

theorem tierOf_blamable (name : String) (given : Option Value) :
    FailsOnly IsBlamable (tierOf name given) := by
  apply (written_blamable _).seq
  intro text
  split
  · exact .ok _
  · apply (written_blamable _).seq
    intro shown
    exact .error (Or.inl (Or.inl rfl))

theorem requiresOf_blamable (name : String) (given : Value) :
    FailsOnly IsBlamable (requiresOf name given) := by
  unfold requiresOf
  split
  · split
    · exact .ok _
    · exact .error (Or.inl (Or.inl rfl))
  · exact .ok _

theorem entryOf_blamable (name : String) (v : Value) : FailsOnly IsBlamable (entryOf name v) := by
  unfold entryOf
  split
  · exact .error (Or.inl (Or.inl rfl))
  · apply (tierOf_blamable _ _).seq
    intro tier
    apply (requiresOf_blamable _ _).seq
    intro requires
    apply (written_blamable _).seq
    intro reason
    exact .ok _

theorem ofEntries_blamable (table : AnnotationTable) (m : Entries) :
    FailsOnly IsBlamable (ofEntries table m) := by
  induction m generalizing table with
  | nil => exact .ok _
  | cons entry rest ih =>
    apply (written_blamable _).seq
    intro name
    apply (entryOf_blamable _ _).seq
    intro found
    exact ih _

theorem ofValue_blamable (v : Value) : FailsOnly IsBlamable (ofValue v) := by
  unfold ofValue
  split
  · exact ofEntries_blamable [] _
  · exact .error (Or.inl (Or.inl rfl))

end AnnotationTable

theorem Check.prepare_blamable (check : Check) (m : Entries) :
    FailsOnly IsBlamable (check.prepare m) := by
  unfold Check.prepare
  dsimp only
  split
  · apply (AnnotationTable.ofValue_blamable _).seq
    intro table
    exact .ok _
  · exact .ok _

theorem Check.find_failsOnly (name : String) : FailsOnly IsDefinition (Check.find name) := by
  unfold Check.find
  split
  · exact .ok _
  · exact .error (Or.inl rfl)

theorem Draft.ofValues_id {id category target severity message description : Value}
    {predicate : Option Predicate} {params : Params} {d : Draft}
    (h : ofValues id category target severity message predicate description params = .ok d) :
    d.id = id := by
  unfold ofValues at h
  obtain ⟨_, _, h⟩ := bind_ok h
  dsimp only at h
  split at h
  · obtain ⟨_, _, h⟩ := bind_ok h
    split at h
    · cases h
      rfl
    · obtain ⟨_, _, h⟩ := bind_ok h
      cases h
      rfl
  · cases h

namespace Pack

theorem checkTemplate_failsOnly (id message : String) (values : List String) :
    FailsOnly IsDefinition (checkTemplate id message values) := by
  unfold checkTemplate
  split
  · exact .error (Or.inr (Or.inr rfl))
  · dsimp only
    split
    · exact .ok _
    · exact .error (Or.inr (Or.inr rfl))

/-- Past its identifier, check and message, whatever is wrong with a rule is an error of its
definition. -/
theorem draftOf_failsOnly (id pack message : String) (m : Entries) (check : Check)
    (params : Entries) : FailsOnly IsDefinition (draftOf id pack message m check params) := by
  have htext (v : Value) : FailsOnly IsDefinition ((written v.text).mapError (blame id pack)) :=
    (written_blamable _).mapError fun e he => he.blame id pack
  apply (htext _).seq
  intro category
  apply (htext _).seq
  intro target
  apply (htext _).seq
  intro severity
  apply (htext _).seq
  intro description
  apply ((Check.prepare_blamable _ _).mapError fun e he => he.blame id pack).seq
  intro params
  split
  · exact .ok _
  · exact .error (Or.inr (Or.inr rfl))

theorem draftOf_id {id pack message : String} {m : Entries} {check : Check} {params : Entries}
    {d : Draft} (h : draftOf id pack message m check params = .ok d) : d.id = .str id := by
  obtain ⟨_, _, h⟩ := bind_ok h
  obtain ⟨_, _, h⟩ := bind_ok h
  obtain ⟨_, _, h⟩ := bind_ok h
  obtain ⟨_, _, h⟩ := bind_ok h
  obtain ⟨_, _, h⟩ := bind_ok h
  split at h
  · rename_i hvalues
    cases h
    exact Draft.ofValues_id hvalues
  · cases h

section Documents
variable {P : PolicyError → Prop} (hdef : ∀ e, e.IsDefinition → P e)
include hdef

section Rules
variable {q : Entries} (hwrites : ∀ key ∈ Entries.ruleTexts, ∀ v, q.get? key = some v →
  ∀ cause, v.text = .error cause → P (unwritable cause))
include hwrites

omit hdef in
theorem written_get_failsOnly {key : String} (hkey : key ∈ Entries.ruleTexts) :
    FailsOnly P (written ((q.get? key).getD .null).text) := by
  apply written_failsOnly
  cases hv : q.get? key with
  | none => nofun
  | some v => exact hwrites key hkey v hv

theorem ruleWith_failsOnly (pack : String) (params : Entries) :
    FailsOnly P (ruleWith pack q params) := by
  have hwritten {key : String} (hkey : key ∈ Entries.ruleTexts) :=
    written_get_failsOnly hwrites hkey
  apply (hwritten (by decide)).seq
  intro name
  apply ((Check.find_failsOnly name).mono hdef).seq
  intro check
  apply FailsOnly.seq
  · unfold messageOf
    dsimp only
    split
    · exact hwritten (by decide)
    · exact .ok _
  intro message
  apply (hwritten (by decide)).seq
  intro id
  apply ((checkTemplate_failsOnly _ _ _).mono hdef).seq
  intro _
  exact (draftOf_failsOnly _ _ _ _ _ _).mono hdef

theorem ruleOfEntries_failsOnly (pack : String) : FailsOnly P (ruleOfEntries pack q) := by
  have hload {e : PolicyError} (h : e.family = .load) : P e := hdef e (Or.inr (Or.inr h))
  unfold ruleOfEntries
  dsimp only
  split
  · exact .error (hload rfl)
  · split
    · exact ruleWith_failsOnly hdef hwrites pack []
    · split
      · exact ruleWith_failsOnly hdef hwrites pack _
      · apply (written_get_failsOnly hwrites (by decide)).seq
        intro id
        exact .error (hload rfl)

end Rules

theorem ofEntries_failsOnly {m : Entries}
    (hwrites : ∀ v, m.Writes v → ∀ cause, v.text = .error cause → P (unwritable cause)) :
    FailsOnly P (ofEntries m) := by
  have hload {e : PolicyError} (h : e.family = .load) : P e := hdef e (Or.inr (Or.inr h))
  apply FailsOnly.seq
  · unfold nameOf
    dsimp only
    split
    · rename_i hgiven
      apply written_failsOnly
      cases hname : m.get? "name" with
      | none => nofun
      | some v =>
        rw [hname] at hgiven
        exact hwrites v (.name hname hgiven)
    · exact .ok _
  intro name
  dsimp only
  split
  · exact .error (hload rfl)
  unfold ofNamed
  split
  · rename_i first rest hrules
    apply FailsOnly.seq
    · apply FailsOnly.mapM
      intro v hv
      unfold ruleOfValue
      split
      · rename_i q hq
        apply ruleOfEntries_failsOnly hdef
        intro key hkey w hw
        exact hwrites w (.rule hrules hv hq hkey hw)
      · exact .error (hload rfl)
    intro rules
    apply FailsOnly.seq
    · apply written_failsOnly
      cases hversion : m.get? "version" with
      | none => nofun
      | some v => exact hwrites v (.version hversion)
    intro version
    exact .ok _
  · exact .error (hload rfl)

end Documents

/-- The name of the pack and the identifiers of its rules are texts. -/
structure IsNamed (p : Pack) : Prop where
  name : ∃ s, p.name = .str s
  ids : ∀ d ∈ p.rules, ∃ s, d.id = .str s

theorem ruleWith_id {pack : String} {q params : Entries} {d : Draft}
    (h : ruleWith pack q params = .ok d) : ∃ s, d.id = .str s := by
  obtain ⟨_, _, h⟩ := bind_ok h
  obtain ⟨_, _, h⟩ := bind_ok h
  obtain ⟨_, _, h⟩ := bind_ok h
  obtain ⟨id, _, h⟩ := bind_ok h
  obtain ⟨_, _, h⟩ := bind_ok h
  exact ⟨id, draftOf_id h⟩

theorem ruleOfValue_id {pack : String} {v : Value} {d : Draft} (h : ruleOfValue pack v = .ok d) :
    ∃ s, d.id = .str s := by
  unfold ruleOfValue ruleOfEntries at h
  dsimp only at h
  split at h
  · split at h
    · cases h
    · split at h
      · exact ruleWith_id h
      · split at h
        · exact ruleWith_id h
        · obtain ⟨_, _, h⟩ := bind_ok h
          cases h
  · cases h

theorem ofEntries_named {m : Entries} {p : Pack} (h : ofEntries m = .ok p) : p.IsNamed := by
  obtain ⟨name, _, h⟩ := bind_ok h
  dsimp only at h
  split at h
  · cases h
  unfold ofNamed at h
  split at h
  · obtain ⟨rules, hrules, h⟩ := bind_ok h
    obtain ⟨_, _, h⟩ := bind_ok h
    cases h
    refine ⟨⟨_, rfl⟩, fun d hd => ?_⟩
    obtain ⟨v, _, hv⟩ := exists_of_mem_mapM hrules hd
    exact ruleOfValue_id hv
  · cases h

end Pack

end Conformance
