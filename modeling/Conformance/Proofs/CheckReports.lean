import Conformance.Proofs.StandardChecks
import Conformance.Proofs.WellFormed

/-!
# What checks report

On nodes of every kind, and whatever its parameters are, each match of a check gives texts under
exactly the names that the catalogue lists for the check, and points at the node or at a part of it:
a tag of a comment, a handler of a method. Values that are not texts make a check fail before it
matches.
-/

namespace Conformance

/-- The spans of the parts of a node that a check may report. -/
def Node.partSpans : Node → List Span
  | declaration site => site.declaration.bodySpans
  | mark .. => []
  | doc _ comment => comment.tags.map (·.span)

theorem texts_of_filterNamed {test : String → Bool} {items found : List Value}
    (h : filterNamed test items = .ok found) : ∀ v ∈ found, ∃ s, v = .str s := by
  induction items generalizing found with
  | nil =>
    cases h
    exact List.forall_mem_nil _
  | cons v rest ih =>
    obtain ⟨name, hname, h⟩ := bind_ok h
    obtain ⟨more, hmore, h⟩ := bind_ok h
    have hv : ∃ s, v = .str s := by
      cases v with
      | str s => exact ⟨s, rfl⟩
      | _ => cases hname
    split at h
    · cases h
      exact List.forall_mem_cons.mpr ⟨hv, ih hmore⟩
    · cases h
      exact ih hmore

namespace Check

theorem texts_of_carriedMarkers {node : Node} {markers : Value} {found : List Value}
    (h : carriedMarkers node markers = .ok found) : ∀ v ∈ found, ∃ s, v = .str s := by
  obtain ⟨items, _, h⟩ := bind_ok h
  split at h
  · cases h
    exact List.forall_mem_nil _
  · obtain ⟨site, _, h⟩ := bind_ok h
    exact texts_of_filterNamed h

theorem text_of_matchesPattern {pattern : Value} {name : String} {isMatch : Bool}
    (h : matchesPattern pattern name = .ok isMatch) : ∃ s, pattern = .str s := by
  unfold matchesPattern at h
  split at h
  · exact ⟨_, rfl⟩
  · split at h <;> cases h
  · split at h <;> cases h

theorem mem_of_firstMisplaced {order single : List Value} {progress : TagProgress}
    {tags : List DocTag} {tag : DocTag} {kind detail : String}
    (h : firstMisplaced order single progress tags = some (tag, kind, detail)) : tag ∈ tags := by
  induction tags generalizing progress with
  | nil => cases h
  | cons first rest ih =>
    rw [firstMisplaced] at h
    split at h
    · exact List.mem_cons_of_mem first (ih h)
    split at h
    · cases h
      exact List.mem_cons_self
    · exact List.mem_cons_of_mem first (ih h)

theorem handler_mem_partSpans {node : Node} {feature : String} {site : Site} {header : Header}
    {signature : Signature} (hmethod : node.asMethod feature = .ok (site, header, signature))
    {handler : Handler} (h : handler ∈ signature.handlers) : handler.span ∈ node.partSpans := by
  cases node with
  | declaration site' =>
    simp only [Node.asMethod] at hmethod
    split at hmethod
    · rename_i hdeclaration
      cases hmethod
      rw [Node.partSpans, hdeclaration]
      exact List.mem_append_left _ (List.mem_map_of_mem h)
    · cases hmethod
  | mark target a => cases hmethod
  | doc owner comment => cases hmethod

/-- A match gives texts under the names, and has no span of its own or one of the given ones. -/
def Reports (names : List String) (spans : List Span) (answer : Except Fault (Option Match)) :
    Prop :=
  ∀ m, answer = .ok (some m) →
    Template.AreTexts names m.values ∧ ∀ s, m.span = some s → s ∈ spans

namespace Reports
variable {names : List String} {spans : List Span} {values : Template.Fields}

theorem nothing : Reports names spans (pure none) := by
  intro m h
  cases h

theorem whole (texts : Template.AreTexts names values) :
    Reports names spans (pure (some { values })) := by
  intro m h
  cases h
  refine ⟨texts, fun s hs => ?_⟩
  cases hs

theorem part {s : Span} (hs : s ∈ spans) (texts : Template.AreTexts names values) :
    Reports names spans (pure (some { span := s, values })) := by
  intro m h
  cases h
  refine ⟨texts, fun s' hs' => ?_⟩
  cases hs'
  exact hs

theorem bind {α : Type} {x : Except Fault α} {f : α → Except Fault (Option Match)}
    (h : ∀ a, x = .ok a → Reports names spans (f a)) : Reports names spans (x >>= f) := by
  intro m hm
  obtain ⟨a, ha, hfa⟩ := bind_ok hm
  exact h a ha m hfa

/-- A step whose value does not matter for what is reported. -/
theorem seq {α : Type} {x : Except Fault α} {f : α → Except Fault (Option Match)}
    (h : ∀ a, Reports names spans (f a)) : Reports names spans (x >>= f) :=
  bind fun a _ => h a

end Reports

section Whole
variable {spans : List Span} (node : Node) (context : Context)

theorem bannedMark_reports : Reports ["annotation", "reason"] spans (bannedMark node context) := by
  refine .seq fun (_, a) => .seq fun hit => ?_
  cases hit with
  | none => exact .nothing
  | some hit =>
    refine .seq fun e => ?_
    split
    · exact .whole ⟨rfl, by simp⟩
    · exact .nothing

theorem unlistedMark_reports : Reports ["annotation"] spans (unlistedMark node context) := by
  unfold unlistedMark
  split
  · exact .nothing
  · refine .seq fun (_, a) => .seq fun hit => ?_
    cases hit with
    | none => exact .whole ⟨rfl, by simp⟩
    | some _ => exact .nothing

theorem cautionArguments_reports :
    Reports ["annotation", "missing", "reason", "target"] spans
      (cautionArguments node context) := by
  refine .seq fun (target, a) => .seq fun hit => ?_
  cases hit with
  | none => exact .nothing
  | some hit =>
    refine .seq fun e => ?_
    split
    · exact .nothing
    -- The three ways to decide whether the entry applies go on in the same way.
    extract_lets finish
    have hfinish (applies : Bool) :
        Reports ["annotation", "missing", "reason", "target"] spans (finish applies) := by
      simp only [finish]
      split
      · exact .nothing
      refine .seq fun missing => ?_
      split
      · exact .nothing
      · exact .whole ⟨rfl, by simp⟩
    split
    · cases target with
      | none => exact .seq hfinish
      | some site => exact .seq hfinish
    · exact .seq hfinish

theorem conflictingNullness_reports :
    Reports ["nullable", "non_null"] spans (conflictingNullness node context) := by
  refine .bind fun nullable hnullable => .bind fun nonNull hnonNull => ?_
  split
  · rename_i first _ second _
    have hfirst := texts_of_carriedMarkers hnullable first List.mem_cons_self
    have hsecond := texts_of_carriedMarkers hnonNull second List.mem_cons_self
    exact .whole ⟨rfl, by simp [hfirst, hsecond]⟩
  · exact .nothing

theorem deprecationMismatch_reports :
    Reports ["detail"] spans (deprecationMismatch node context) := by
  refine .seq fun site => .seq fun name => ?_
  extract_lets annotated tagged
  split
  · exact .nothing
  · exact .whole ⟨rfl, by simp⟩

theorem summaryPeriod_reports : Reports ["owner", "detail"] spans (summaryPeriod node context) := by
  refine .seq fun (owner, comment) => ?_
  dsimp only
  split
  · exact .nothing
  · exact .whole ⟨rfl, by simp⟩

theorem missingPublicDoc_reports : Reports [] spans (missingPublicDoc node context) := by
  refine .seq fun site => .seq fun wanted => ?_
  split
  · exact .whole ⟨rfl, List.forall_mem_nil _⟩
  · exact .nothing

theorem closeThrows_reports :
    Reports ["owner", "capability", "throws"] spans (closeThrows node context) := by
  refine .seq fun name => ?_
  split
  · exact .nothing
  refine .seq fun (site, _, signature) => ?_
  dsimp only
  split
  · exact .nothing
  split
  · exact .nothing
  refine .seq fun capabilities => .seq fun found => ?_
  cases found with
  | none => exact .nothing
  | some capability =>
    dsimp only
    split
    · exact .nothing
    · exact .whole ⟨rfl, by simp⟩

theorem guardedByUnknownLock_reports :
    Reports ["lock", "detail"] spans (guardedByUnknownLock node context) := by
  refine .seq fun (target, a) => ?_
  dsimp only
  split
  · exact .nothing
  refine .seq fun lock => ?_
  split
  · exact .whole ⟨rfl, by simp⟩
  split
  · exact .nothing
  · exact .whole ⟨rfl, by simp⟩

theorem immutableMutableField_reports :
    Reports ["owner", "marker"] spans (immutableMutableField node context) := by
  refine .seq fun site => ?_
  split
  · exact .nothing
  refine .seq fun markers => .seq fun found => ?_
  cases found with
  | none => exact .nothing
  | some marker =>
    dsimp only
    split
    · exact .nothing
    split
    · exact .nothing
    · exact .whole ⟨rfl, by simp⟩

theorem nameMatchesPattern_reports :
    Reports ["pattern"] spans (nameMatchesPattern node context) := by
  refine .seq fun pattern => .seq fun name => .bind fun isMatch hmatches => ?_
  split
  · exact .nothing
  · obtain ⟨s, rfl⟩ := text_of_matchesPattern hmatches
    exact .whole ⟨rfl, by simp⟩

theorem constantName_reports : Reports ["pattern"] spans (constantName node context) := by
  refine .seq fun site => ?_
  split
  · exact nameMatchesPattern_reports node context
  · exact .nothing

end Whole

section Parts
variable (node : Node) (context : Context)

theorem tagOrder_reports :
    Reports ["tag", "detail"] node.partSpans (tagOrder node context) := by
  refine .seq fun order => .seq fun single => .seq fun keys => .bind fun (owner, comment) hdoc => ?_
  cases node with
  | doc owner' comment' =>
    cases hdoc
    dsimp only
    split
    · exact .nothing
    · rename_i tag kind detail hfirst
      exact .part (List.mem_map_of_mem (mem_of_firstMisplaced hfirst)) ⟨rfl, by simp⟩
  | declaration site => cases hdoc
  | mark target a => cases hdoc

theorem emptyHandler_reports : Reports ["caught"] node.partSpans (emptyHandler node context) := by
  refine .bind fun (site, header, signature) hmethod => ?_
  dsimp only
  split
  · exact .nothing
  · rename_i handler hfind
    exact .part (handler_mem_partSpans hmethod (List.mem_of_find?_eq_some hfind)) ⟨rfl, by simp⟩

theorem broadCatch_reports : Reports ["caught"] node.partSpans (broadCatch node context) := by
  refine .seq fun broad => .bind fun (site, header, signature) hmethod => ?_
  dsimp only
  split
  · exact .nothing
  · rename_i handler name hfind
    obtain ⟨h, hh, hpair⟩ := List.mem_flatMap.mp (List.mem_of_find?_eq_some hfind)
    obtain ⟨_, _, heq⟩ := List.mem_map.mp hpair
    cases heq
    exact .part (handler_mem_partSpans hmethod hh) ⟨rfl, by simp⟩

/-- Every check of the catalogue reports what is listed for it, at the node or at a part of it. -/
theorem reports_listed {check : Check} (h : check ∈ catalogue) :
    Reports check.values node.partSpans (check.inspection node context) := by
  revert check
  simp only [catalogue, List.forall_mem_cons]
  exact ⟨bannedMark_reports node context, unlistedMark_reports node context,
    cautionArguments_reports node context, conflictingNullness_reports node context,
    tagOrder_reports node context, deprecationMismatch_reports node context,
    summaryPeriod_reports node context, missingPublicDoc_reports node context,
    closeThrows_reports node context, guardedByUnknownLock_reports node context,
    immutableMutableField_reports node context, nameMatchesPattern_reports node context,
    constantName_reports node context, emptyHandler_reports node context,
    broadCatch_reports node context, List.forall_mem_nil _⟩

end Parts

end Check

end Conformance
