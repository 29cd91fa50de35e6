import Conformance.Pack.Standard
import Conformance.Proofs.AddedFields
import Conformance.Proofs.DirectiveGrammar
import Conformance.Proofs.RuleFindings

/-!
# Locks that guard annotations name

A guard annotation is well if it names the instance, a class literal, or a field of a type around
the declaration that it stands on, by the last segment of a dotted name. One more field can only
make a lock known, so a unit that gains a field gains no finding.
-/

namespace Conformance

namespace Text

/-- What follows the last separator is the last of the pieces between separators. -/
theorem getLast?_splitChars (sep : Char) (cs : List Char) :
    (splitChars sep cs).getLast? = some (cs.reverse.takeWhile (· != sep)).reverse := by
  by_cases h : sep ∈ cs
  · obtain ⟨before, rest, hcs, hbefore⟩ := List.eq_append_cons_of_mem h
    have hshorter : rest.length < cs.length := by
      rw [hcs, List.length_append, List.length_cons]
      omega
    have hlast := getLast?_splitChars sep rest
    rw [hcs, splitChars_append hbefore, List.getLast?_cons, hlast, Option.getD_some,
      List.reverse_append, List.reverse_cons, List.append_assoc, List.takeWhile_append]
    split
    · rename_i hall
      rw [List.singleton_append, List.takeWhile_cons_of_neg (by simp), List.append_nil,
        (List.takeWhile_prefix _).eq_of_length hall]
    · rfl
  · have hall : ∀ c ∈ cs.reverse, (c != sep) = true := by
      intro c hc
      rw [bne_iff_ne]
      rintro rfl
      exact h (List.mem_reverse.mp hc)
    rw [splitChars_of_not_mem h, List.takeWhile_eq_self_iff.mpr hall, List.reverse_reverse]
    rfl
termination_by cs.length

theorem getLast?_split (s : String) : (split '.' s).getLast? = some (simpleName s) := by
  rw [split, List.getLast?_map, getLast?_splitChars]
  rfl

end Text

/-- The value of the annotation names a lock that is there, for a declaration inside of the given
types. -/
def Annotation.NamesLock (a : Annotation) (around : List TypeDeclaration) : Prop :=
  ∃ v text, a.arguments.get? "value" = some v ∧ v ≠ .null ∧ v.text = .ok text ∧
    Text.trim text ≠ "" ∧
    (Text.trim text = "this" ∨ ".class".toList <:+ (Text.trim text).toList ∨
      ∃ t ∈ around, ∃ f ∈ t.members, f.kind = .field ∧
        (Text.split '.' (Text.trim text)).getLast? = some f.name)

namespace Check

theorem lockOf_eq_ok_iff {a : Annotation} {lock : String} (named : lock ≠ "") :
    lockOf a = .ok lock ↔ ∃ v text, a.arguments.get? "value" = some v ∧ v ≠ .null ∧
      v.text = .ok text ∧ Text.trim text = lock := by
  rw [lockOf]
  split
  case h_1 hget => simp [hget, named.symm]
  case h_2 hget => simp [hget, named.symm]
  case h_3 v hnull hget =>
    have hv : v ≠ .null := hnull
    simp only [hget, Value.written, Option.some.injEq]
    cases htext : v.text with
    | ok text => simp [Template.written, bind, Except.bind, pure, Except.pure, hv, htext]
    | error cause => simp [Template.written, bind, Except.bind, htext]

theorem isImplicitLock_iff {lock : String} :
    isImplicitLock lock = true ↔ lock = "this" ∨ ".class".toList <:+ lock.toList := by
  rw [isImplicitLock, Bool.or_eq_true, beq_iff_eq, List.isSuffixOf_iff_suffix]

/-- Whether one of the types has a field of the name. -/
def hasField (around : List TypeDeclaration) (name : String) : Bool :=
  around.any fun t => (t.memberNames .field).contains name

theorem hasField_iff {around : List TypeDeclaration} {name : String} :
    hasField around name = true ↔
      ∃ t ∈ around, ∃ f ∈ t.members, f.kind = .field ∧ f.name = name := by
  simp only [hasField, List.any_eq_true, List.contains_iff_mem, TypeDeclaration.mem_memberNames]

theorem hasField_widens {around wide : List TypeDeclaration}
    (h : List.Forall₂ TypeDeclaration.Widens around wide) {name : String}
    (known : hasField around name = true) : hasField wide name = true := by
  induction h with
  | nil => exact known
  | cons hwide _ ih =>
    rw [hasField, List.any_cons, Bool.or_eq_true] at known ⊢
    refine known.imp (fun hfield => ?_) ih
    rw [List.contains_iff_mem] at hfield ⊢
    exact hwide.fields hfield

/-- What is said of a lock that is no field of the types around. -/
def lockFault (around : List TypeDeclaration) (lock : String) : String :=
  match around with
  | [] => "is not inside a type"
  | owner :: _ => s!"names '{lock}', which is not a field of {owner.header.name}"

theorem lockFault_widens {around wide : List TypeDeclaration}
    (h : List.Forall₂ TypeDeclaration.Widens around wide) (lock : String) :
    lockFault wide lock = lockFault around lock := by
  cases h with
  | nil => rfl
  | cons hwide _ => rw [lockFault, lockFault, hwide.header]

theorem lockDetail?_eq (s : Site) (lock : String) :
    lockDetail? (some s) lock =
      if isImplicitLock lock || hasField s.enclosing (Text.simpleName lock) then none
      else some (lockFault s.enclosing lock) := by
  rw [lockDetail?, Option.map_some, Option.getD_some]
  cases isImplicitLock lock with
  | true => rfl
  | false =>
    rw [Bool.false_or]
    cases s.enclosing with
    | nil => rfl
    | cons owner outer => rfl

theorem lockDetail?_eq_none_iff {s : Site} {lock : String} :
    lockDetail? (some s) lock = none ↔
      lock = "this" ∨ ".class".toList <:+ lock.toList ∨
        ∃ t ∈ s.enclosing, ∃ f ∈ t.members, f.kind = .field ∧
          (Text.split '.' lock).getLast? = some f.name := by
  have hlast (name : String) : name = Text.simpleName lock ↔
      (Text.split '.' lock).getLast? = some name := by
    rw [Text.getLast?_split, Option.some.injEq, eq_comm]
  simp only [lockDetail?_eq, ite_eq_left_iff, reduceCtorEq, imp_false, not_not, Bool.or_eq_true,
    isImplicitLock_iff, hasField_iff, hlast, or_assoc]

theorem lockDetail?_widens {s wide : Site} (h : s.Widens wide) (lock : String) :
    lockDetail? (some wide) lock = none ∨
      lockDetail? (some wide) lock = lockDetail? (some s) lock := by
  rw [lockDetail?_eq, lockDetail?_eq, lockFault_widens h.enclosing]
  by_cases known : hasField s.enclosing (Text.simpleName lock) = true
  · rw [hasField_widens h.enclosing known, Bool.or_true]
    exact .inl rfl
  · rw [Bool.not_eq_true] at known
    rw [known, Bool.or_false]
    cases hasField wide.enclosing (Text.simpleName lock) with
    | true => simp
    | false => simp

/-- What is wrong with the lock of an annotation, empty if it names none. -/
def lockComplaint? (target : Option Site) (lock : String) : Option String :=
  if lock = "" then some "names no lock" else lockDetail? target lock

theorem lockComplaint?_widens {s wide : Site} (h : s.Widens wide) (lock : String) :
    lockComplaint? (some wide) lock = none ∨
      lockComplaint? (some wide) lock = lockComplaint? (some s) lock := by
  rw [lockComplaint?, lockComplaint?]
  split
  · exact .inr rfl
  · exact lockDetail?_widens h lock

/-- The match that a complaint about a lock makes. -/
def lockMatch (lock detail : String) : Match where
  values := [("lock", .str lock), ("detail", .str detail)]

section Guards
variable {context : Context}
variable (default : context.params.valueOr "annotation" (.str guardName) = .str guardName)
include default

theorem guardedByUnknownLock_eq (target : Option Site) (a : Annotation) :
    guardedByUnknownLock (.mark target a) context =
      if a.simpleName = guardName then
        (lockOf a).map fun lock => (lockComplaint? target lock).map (lockMatch lock)
      else .ok none := by
  have hguard : (Value.str guardName).isText a.simpleName = decide (a.simpleName = guardName) := by
    rw [Value.isText_str, Bool.eq_iff_iff, beq_iff_eq, decide_eq_true_eq, eq_comm]
  simp only [guardedByUnknownLock, Node.asMark, bind, Except.bind, default, hguard]
  by_cases h : a.simpleName = guardName
  · cases lockOf a with
    | error fault => simp [h, Except.map]
    | ok lock =>
      by_cases hempty : lock = ""
      · simp [h, hempty, Except.map, lockComplaint?, lockMatch, pure, Except.pure]
      · cases hdetail : lockDetail? target lock <;>
          simp [h, hempty, Except.map, lockComplaint?, lockMatch, pure, Except.pure, hdetail]
  · simp [h, pure, Except.pure]

theorem guardedByUnknownLock_eq_none_iff {s : Site} {a : Annotation}
    (guard : a.simpleName = guardName) :
    guardedByUnknownLock (.mark (some s) a) context = .ok none ↔ a.NamesLock s.enclosing := by
  have hpass : guardedByUnknownLock (.mark (some s) a) context = .ok none ↔
      ∃ lock, lock ≠ "" ∧ lockOf a = .ok lock ∧ lockDetail? (some s) lock = none := by
    rw [guardedByUnknownLock_eq default, if_pos guard]
    cases lockOf a with
    | error fault => simp [Except.map]
    | ok lock => by_cases hempty : lock = "" <;> simp [Except.map, lockComplaint?, hempty]
  rw [hpass]
  constructor
  · rintro ⟨lock, named, hlock, hdetail⟩
    obtain ⟨v, text, hget, hnull, htext, rfl⟩ := (lockOf_eq_ok_iff named).mp hlock
    exact ⟨v, text, hget, hnull, htext, named, lockDetail?_eq_none_iff.mp hdetail⟩
  · rintro ⟨v, text, hget, hnull, htext, named, hknown⟩
    exact ⟨_, named, (lockOf_eq_ok_iff named).mpr ⟨v, text, hget, hnull, htext, rfl⟩,
      lockDetail?_eq_none_iff.mpr hknown⟩

end Guards

end Check

/-! ### The rule -/

namespace Standard

def defaultConcurrencyRules : List Rule :=
  concurrencyRules (Check.threadSafeMarkers.map .str) (.str Check.guardName)

theorem rules_of_build_concurrency {p : Pack} (h : build "concurrency" [] = .ok p) :
    p.rules = defaultConcurrencyRules.map Rule.toDraft := by
  cases h
  rfl

/-- The rule that guard annotations name a lock that is there. -/
def lockRule : Rule := defaultConcurrencyRules.get ⟨0, by decide⟩

theorem lockRule_mem : lockRule ∈ defaultConcurrencyRules := List.get_mem _ _

theorem render_lockMatch (config : Config) (node : Node) (unit : SourceUnit)
    (lock detail : String) :
    (lockRule.withOverride config).render node unit (Check.lockMatch lock detail).values =
      .ok ("@" ++ node.name ++ " " ++ detail) := by
  have hjoin : String.join ["@", node.name, " ", detail] = "@" ++ node.name ++ " " ++ detail := by
    simp [String.join]
  have hmessage : (lockRule.withOverride config).message = "@\x7bname\x7d \x7bdetail\x7d" := rfl
  rw [← hjoin, Rule.render, hmessage]
  rfl

end Standard

namespace Registry
open Standard

/-- What the rule says of an annotation; the unit has no part in it. -/
def lockAnswer (target : Option Site) (a : Annotation) : Answer :=
  if a.simpleName = Check.guardName then
    match Check.lockOf a with
    | .error fault => .raises fault
    | .ok lock =>
      (Check.lockComplaint? target lock).elim .passes fun detail =>
        .matched a.span ("@" ++ a.name ++ " " ++ detail)
  else .passes

/-- With more fields around an annotation, a match of the rule may go and none may come. -/
theorem lockAnswer_eases {s wide : Site} (h : s.Widens wide) (a : Annotation) :
    (lockAnswer (some s) a).Eases (lockAnswer (some wide) a) := by
  rw [lockAnswer, lockAnswer]
  split
  · cases Check.lockOf a with
    | error fault => exact .same _
    | ok lock =>
      rcases Check.lockComplaint?_widens h lock with hnone | hsame
      · simp only [hnone, Option.elim_none]
        cases Check.lockComplaint? (some s) lock with
        | none => exact .same _
        | some detail => exact .settled _ _
      · simp only [hsame]
        exact .same _
  · exact .same _

section Locks
variable (reg : Registry)

theorem answer_lockRule (unit : SourceUnit) (target : Option Site) (a : Annotation) :
    reg.answer unit (lockRule.withOverride reg.config) (.mark target a) = lockAnswer target a := by
  have hcheck : Check.guardedByUnknownLock (.mark target a)
      (reg.context unit (lockRule.withOverride reg.config)) =
        if a.simpleName = Check.guardName then (Check.lockOf a).map fun lock =>
          (Check.lockComplaint? target lock).map (Check.lockMatch lock)
        else .ok none := Check.guardedByUnknownLock_eq rfl target a
  rw [lockAnswer]
  by_cases guard : a.simpleName = Check.guardName
  · rw [if_pos guard] at hcheck ⊢
    cases hlock : Check.lockOf a with
    | error fault =>
      rw [hlock] at hcheck
      exact answer_of_fault rfl hcheck
    | ok lock =>
      simp only [hlock, Except.map] at hcheck
      cases hcomplaint : Check.lockComplaint? target lock with
      | none =>
        rw [hcomplaint] at hcheck
        simp only [hcomplaint]
        exact answer_of_pass rfl hcheck
      | some detail =>
        rw [hcomplaint] at hcheck
        simp only [hcomplaint]
        exact answer_of_match rfl hcheck (render_lockMatch _ _ _ _ _)
  · rw [if_neg guard] at hcheck ⊢
    exact answer_of_pass rfl hcheck

theorem eased_of_gainsField {u : SourceUnit} {grown : List Declaration}
    (gains : GainsField u.declarations grown) :
    List.Forall₂ (fun node node' =>
        (reg.answer u (lockRule.withOverride reg.config) node).Eases
          (reg.answer { u with declarations := grown } (lockRule.withOverride reg.config) node'))
      (u.sequence.filter fun node => (lockRule.withOverride reg.config).looksAt node.kind)
      ({ u with declarations := grown }.sequence.filter fun node =>
        (lockRule.withOverride reg.config).looksAt node.kind) := by
  have hlooks (unit : SourceUnit) :
      (unit.sequence.filter fun node => (lockRule.withOverride reg.config).looksAt node.kind) =
        Declaration.marks [] unit.declarations := by
    rw [← unit.sequence_filter_mark]
    refine List.filter_congr fun node _ => ?_
    rw [Bool.eq_iff_iff, Rule.looksAt_of_target rfl NodeKind.noConfusion, beq_iff_eq]
  rw [hlooks, hlooks]
  refine (gains.marks .nil).imp fun node node' h => ?_
  cases h with
  | intro h a =>
    rw [answer_lockRule, answer_lockRule]
    exact lockAnswer_eases h a

end Locks

/-- A guard annotation passes exactly if it names a lock that is there, by the types that the
declaration with the annotation is written in. A field without annotations, added to a type of the
unit, creates no finding. -/
theorem guarded_locks_known {packs : List Pack} {config : Config} {reg : Registry} {p : Pack}
    (built : ofPacks packs config = .ok reg) (pack : build "concurrency" [] = .ok p)
    (hp : p ∈ packs) (enabled : reg.isEnabled lockRule.id = true) (u : SourceUnit) :
    (∀ target a, Node.mark target a ∈ u.nodes ↔ ∃ around d, u.Nests around d ∧
      a ∈ d.header.annotations ∧ target = some ⟨around, d⟩) ∧
    (∀ around d, u.Nests around d → ∀ a ∈ d.header.annotations, a.simpleName = Check.guardName →
      ∀ context : Context,
        context.params.valueOr "annotation" (.str Check.guardName) = .str Check.guardName →
        (Check.guardedByUnknownLock (.mark (some ⟨around, d⟩) a) context = .ok none ↔
          a.NamesLock around)) ∧
    ∀ grown, GainsField u.declarations grown →
      ((∀ r ∈ reg.rules, r.isEngine = false → r.Steady) →
        { u with declarations := grown }.fault? = none →
        (∃ result, (reg.evaluate u).outcome = .ok result) ∧
          ∃ result', (reg.evaluate { u with declarations := grown }).outcome = .ok result') ∧
      ∀ result result', (reg.evaluate u).outcome = .ok result →
        (reg.evaluate { u with declarations := grown }).outcome = .ok result' →
        (result'.findings.filter fun f => f.rule == lockRule.id).Sublist
          (result.findings.filter fun f => f.rule == lockRule.id) := by
  refine ⟨?nodes, ?locks, ?gains⟩
  case nodes => exact fun target a => SourceUnit.mark_mem_nodes_iff
  case locks =>
    intro around d _ a _ guard context default
    exact Check.guardedByUnknownLock_eq_none_iff default guard
  case gains =>
    intro grown gains
    constructor
    · intro steady sound
      have hresult {unit : SourceUnit} (h : unit.fault? = none) :
          ∃ result, (reg.evaluate unit).outcome = .ok result :=
        ⟨_, (evaluate_sound h).mpr ⟨run_escape_of_steady unit steady, rfl⟩⟩
      exact ⟨hresult (gains.fault?_eq_none sound), hresult sound⟩
    · intro result result' evaluated evaluated'
      have hmem := mem_rules_of_pack built hp (rules_of_build_concurrency pack) lockRule_mem rfl
      have path : { u with declarations := grown }.path = u.path := rfl
      exact findings_eased (ofPacks_eq_ok_iff.mp built) hmem rfl enabled path
        gains.fault?_eq_none (eased_of_gainsField reg gains) evaluated evaluated'

/-- An annotation that names a lock. -/
def lockMark (lock : String) : Annotation :=
  ⟨"javax.GuardedBy", .ofInts 3 1 3 2, [(.str "value", .str lock)]⟩

/-- A method that names a field of the outer type, and then one that is not there. -/
def lockedMethod : Declaration :=
  .method ⟨"open", .ofInts 3 1 3 9, .pub, [], [lockMark " Vault.this.bolt ", lockMark "latch"],
    none⟩ {
      parameters := [], returnType := .null, throws := [], handlers := [], resourceScopes := [] }

/-- The inner type, with the given fields before the method. -/
def drawer (fields : List Declaration) : TypeDeclaration :=
  ⟨⟨"Drawer", .ofInts 2 1 4 2, .pub, [], [], none⟩, "class", [], fields ++ [lockedMethod]⟩

/-- The outer type. -/
def vault (fields : List Declaration) : TypeDeclaration :=
  ⟨⟨"Vault", .ofInts 1 1 5 2, .pub, [], [], none⟩, "class", [], [
    .field ⟨"bolt", .ofInts 1 3 1 9, .pub, [], [], none⟩ "Object", (drawer fields).toDeclaration]⟩

def latchField : Declaration := .field ⟨"latch", .ofInts 2 3 2 9, .pub, [], [], none⟩ "Object"

def vaultUnit (fields : List Declaration) : SourceUnit where
  path := "Vault"
  package := ""
  lineLengths := [20, 20, 20, 20, 20]
  imports := []
  suppressions := []
  declarations := [(vault fields).toDeclaration]

theorem guarded_locks_known_vault :
    ∃ (p : Pack) (reg : Registry) (result result' : UnitResult),
      build "concurrency" [] = .ok p ∧ ofPacks [p] {} = .ok reg ∧
      reg.isEnabled lockRule.id = true ∧
      Check.guardedByUnknownLock
        (.mark (some ⟨[drawer [], vault []], lockedMethod⟩) (lockMark " Vault.this.bolt "))
        (reg.context (vaultUnit []) lockRule) = .ok none ∧
      (reg.evaluate (vaultUnit [])).outcome = .ok result ∧
      (reg.evaluate (vaultUnit [latchField])).outcome = .ok result' ∧
      (result.findings.filter fun f => f.rule == lockRule.id).map (·.message) =
        ["@javax.GuardedBy names 'latch', which is not a field of Drawer"] ∧
      (result'.findings.filter fun f => f.rule == lockRule.id).Sublist
        (result.findings.filter fun f => f.rule == lockRule.id) := by
  obtain ⟨p, pack⟩ : ∃ p, build "concurrency" [] = .ok p := ⟨_, rfl⟩
  have rules := rules_of_build_concurrency pack
  obtain ⟨reg, built⟩ : ∃ reg, ofPacks [p] {} = .ok reg := by
    cases pack
    exact ⟨_, rfl⟩
  have checks : ∀ r ∈ defaultConcurrencyRules,
      ∃ check : Inspection, r.predicate = some check.toPredicate := by
    simp only [defaultConcurrencyRules, concurrencyRules, List.forall_mem_cons]
    exact ⟨⟨_, rfl⟩, ⟨_, rfl⟩, List.forall_mem_nil _⟩
  have steady := steady_of_checks rules built checks
  have enabled := isEnabled_of_default rules built lockRule_mem rfl
  have sound : (vaultUnit [latchField]).fault? = none := by
    rw [SourceUnit.fault?, SourceUnit.firstFault?, SourceUnit.walk_eq_preorder]
    rfl
  have gains : GainsField (vaultUnit []).declarations (vaultUnit [latchField]).declarations :=
    .inside [] [] _ _ _ (.inside [.field _ _] [] _ _ _ (.here [] [lockedMethod] _ rfl))
  have nests : (vaultUnit []).Nests [drawer [], vault []] lockedMethod :=
    .member (.member (.top List.mem_cons_self) (List.mem_cons_of_mem _ List.mem_cons_self))
      List.mem_cons_self
  have names : (lockMark " Vault.this.bolt ").NamesLock [drawer [], vault []] :=
    ⟨_, _, rfl, Value.noConfusion, rfl, by decide, .inr (.inr ⟨vault [], List.mem_cons_of_mem _
      List.mem_cons_self, _, List.mem_cons_self, rfl, rfl⟩)⟩
  obtain ⟨-, hlocks, hgains⟩ :=
    guarded_locks_known built pack List.mem_cons_self enabled (vaultUnit [])
  obtain ⟨⟨result, evaluated⟩, result', evaluated'⟩ := (hgains _ gains).1 steady sound
  refine ⟨p, reg, result, result', pack, built, enabled,
    (hlocks _ _ nests _ List.mem_cons_self rfl _ rfl).mpr names, evaluated, evaluated', ?_,
    (hgains _ gains).2 _ _ evaluated evaluated'⟩
  have hmem := mem_rules_of_pack built List.mem_cons_self rules lockRule_mem rfl
  have hfindings := findings_of_rule (ofPacks_eq_ok_iff.mp built) hmem rfl enabled
    (gains.fault?_eq_none sound) evaluated
  let site : Site := ⟨[drawer [], vault []], lockedMethod⟩
  have hshown : ((vaultUnit []).sequence.filter fun node =>
      (lockRule.withOverride reg.config).looksAt node.kind) =
        [.mark (some site) (lockMark " Vault.this.bolt "), .mark (some site) (lockMark "latch")] :=
    rfl
  have hid : lockRule.id = (lockRule.withOverride reg.config).id := rfl
  rw [hid, hfindings, hshown, ownFindings, answer_lockRule, ownFindings, answer_lockRule]
  rfl

end Registry

end Conformance
