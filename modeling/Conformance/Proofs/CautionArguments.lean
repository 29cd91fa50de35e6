import Conformance.Proofs.AnnotationPolicy
import Conformance.Proofs.UnitDocuments
import Conformance.Proofs.ValueEquality
import Mathlib.Data.List.Forall2
import Mathlib.Data.String.Basic
import Mathlib.Tactic.Push

/-!
# Arguments that caution entries require

An annotation of the caution tier has to have the arguments that its entry requires, with values
that are equal to the required ones or written alike. An annotation that gives the required values
themselves passes, except where null is required: an argument that is null counts as absent.
-/

namespace Conformance

/-! ### Meeting a requirement -/

theorem Template.written_eq_ok_iff {x : Except Unwritable String} {text : String} :
    Template.written x = .ok text ↔ x = .ok text := by
  cases x <;> simp [Template.written]

namespace Value

/-- The values are written alike but for letter case and the blanks around. -/
def SameText (v x : Value) : Prop :=
  ∃ given wanted, v.text = .ok given ∧ x.text = .ok wanted ∧
    Text.lower (Text.trim given) = Text.lower (Text.trim wanted)

/-- A value that can be asked for: it is there, and it is equal to itself or can be written. -/
def IsObeyable (x : Value) : Prop :=
  x ≠ null ∧ (x.IsExact ∨ x.IsUntied ∧ ∀ n ∈ x.integers, IsShort n)

theorem ne_null_of_unmarked {v x : Value} (same : v.unmarked = x.unmarked) (h : x ≠ null) :
    v ≠ null := by
  rintro rfl
  cases x with
  | null => exact h rfl
  | _ => cases same

theorem same_ok {v : Value} (h : v.IsUntied) (x : Value) : ∃ b, v.same x = .ok b := by
  cases v with
  | nan mark => exact ⟨false, rfl⟩
  | _ => exact equal_ok [] _ h x

theorem same_self {v : Value} (h : v.IsExact) : v.same v = .ok true := by
  cases v with
  | nan mark => exact absurd (mem_parts_self _) (h.unmarked mark)
  | _ => exact equal_self [] _ h

end Value

namespace Annotation

/-- An argument that is not null is equal to the required value, or is written like it. -/
def Meets (a : Annotation) (r : Value × Value) : Prop :=
  ∃ v, a.arguments.find? r.1 = some v ∧ v ≠ .null ∧ (v.same r.2 = .ok true ∨ v.SameText r.2)

/-- The required value itself is an argument, whatever marks it has there. -/
def Obeys (a : Annotation) (r : Value × Value) : Prop :=
  ∃ v, a.arguments.find? r.1 = some v ∧ v.unmarked = r.2.unmarked

end Annotation

namespace Check

/-- How a requirement that is not met is shown. -/
def Shows (r : Value × Value) (shown : String) : Prop :=
  ∃ key wanted, r.1.text = .ok key ∧ r.2.literal = .ok wanted ∧ shown = key ++ "=" ++ wanted

section Literal
variable {v x : Value} (present : v ≠ .null)
include present

theorem sameLiteral_of_same (h : v.same x = .ok true) : sameLiteral (some v) x = .ok true := by
  cases v with
  | null => exact absurd rfl present
  | _ => simp only [sameLiteral, h]

theorem sameLiteral_of_differs (h : v.same x = .ok false) :
    sameLiteral (some v) x = do
      let given ← v.written
      let wanted ← x.written
      return Text.lower (Text.trim given) == Text.lower (Text.trim wanted) := by
  cases v with
  | null => exact absurd rfl present
  | _ => simp only [sameLiteral, h]

theorem sameLiteral_of_endless {e : Value.Endless} (h : v.same x = .error e) :
    sameLiteral (some v) x = .error .endless := by
  cases v with
  | null => exact absurd rfl present
  | _ => simp only [sameLiteral, h]

end Literal

/-- Where the comparison of an argument ends, it says whether the requirement is met. -/
theorem sameLiteral_iff {a : Annotation} {r : Value × Value} {b : Bool}
    (h : sameLiteral (a.arguments.find? r.1) r.2 = .ok b) : b = true ↔ a.Meets r := by
  unfold Annotation.Meets
  cases hfind : a.arguments.find? r.1 with
  | none =>
    rw [hfind] at h
    cases h
    simp
  | some v =>
    rw [hfind] at h
    by_cases present : v = .null
    · subst present
      cases h
      simp
    · cases hsame : v.same r.2 with
      | error e =>
        rw [sameLiteral_of_endless present hsame] at h
        cases h
      | ok c =>
        cases c with
        | true =>
          rw [sameLiteral_of_same present hsame] at h
          cases h
          exact iff_of_true rfl ⟨v, rfl, present, .inl hsame⟩
        | false =>
          rw [sameLiteral_of_differs present hsame] at h
          obtain ⟨given, hgiven, h⟩ := bind_ok h
          obtain ⟨wanted, hwanted, h⟩ := bind_ok h
          have htext := Template.written_eq_ok_iff.mp hgiven
          have htext' := Template.written_eq_ok_iff.mp hwanted
          rw [← Except.ok.inj h, beq_iff_eq]
          constructor
          · intro heq
            exact ⟨v, rfl, present, .inr ⟨given, wanted, htext, htext', heq⟩⟩
          · rintro ⟨_, ⟨⟩, -, hequal | ⟨s, t, hs, ht, heq⟩⟩
            · rw [hsame] at hequal
              cases hequal
            · rw [htext] at hs
              rw [htext'] at ht
              cases hs
              cases ht
              exact heq

theorem sameLiteral_of_obeys {a : Annotation} {r : Value × Value} (obeyable : r.2.IsObeyable)
    (obeys : a.Obeys r) : sameLiteral (a.arguments.find? r.1) r.2 = .ok true := by
  obtain ⟨v, hfind, same⟩ := obeys
  obtain ⟨hnull, hsettled⟩ := obeyable
  have present := Value.ne_null_of_unmarked same hnull
  rw [hfind]
  rcases hsettled with hexact | ⟨huntied, hshort⟩
  · obtain rfl := Value.eq_of_unmarked same hexact.unmarked
    exact sameLiteral_of_same present (Value.same_self hexact)
  · obtain ⟨b, hsame⟩ := Value.same_ok (Value.isUntied_of_unmarked same huntied) r.2
    cases b with
    | true => exact sameLiteral_of_same present hsame
    | false =>
      -- Only the marks differ, so both are written alike.
      obtain ⟨text, htext⟩ := Value.written_ok hshort
      have hgiven : v.written = .ok text := by
        rw [Value.written, Value.text_eq_of_unmarked same]
        exact htext
      rw [sameLiteral_of_differs present hsame, hgiven, htext]
      simp [bind, Except.bind, pure, Except.pure]

/-! ### The requirements of an entry -/

section Requirements
variable {a : Annotation} {requires : Entries}

open Classical in
/-- What is listed are the requirements that are not met, in their order. -/
theorem unmet_lists {shown : List String} (h : unmet a.arguments requires = .ok shown) :
    List.Forall₂ Shows (requires.filter fun r => ¬ a.Meets r) shown := by
  induction requires generalizing shown with
  | nil =>
    cases h
    exact .nil
  | cons r rest ih =>
    obtain ⟨name, expected⟩ := r
    obtain ⟨b, hb, h⟩ := bind_ok h
    have hmeets := sameLiteral_iff (r := (name, expected)) hb
    cases b with
    | true =>
      rw [List.filter_cons_of_neg (by simpa using hmeets.mp rfl)]
      exact ih h
    | false =>
      obtain ⟨key, hkey, h⟩ := bind_ok h
      obtain ⟨wanted, hwanted, h⟩ := bind_ok h
      obtain ⟨more, hmore, h⟩ := bind_ok h
      cases h
      have hunmet : ¬ a.Meets (name, expected) := fun hmet => absurd (hmeets.mpr hmet) (by decide)
      rw [List.filter_cons_of_pos (by simpa using hunmet)]
      refine .cons ⟨key, wanted, ?_, ?_, rfl⟩ (ih hmore)
      · exact Template.written_eq_ok_iff.mp hkey
      · exact Template.written_eq_ok_iff.mp hwanted

theorem unmet_of_obeys (h : ∀ r ∈ requires, r.2.IsObeyable ∧ a.Obeys r) :
    unmet a.arguments requires = .ok [] := by
  induction requires with
  | nil => rfl
  | cons r rest ih =>
    obtain ⟨⟨obeyable, obeys⟩, hrest⟩ := List.forall_mem_cons.mp h
    obtain ⟨name, expected⟩ := r
    rw [unmet, sameLiteral_of_obeys (r := (name, expected)) obeyable obeys]
    exact ih hrest

end Requirements

end Check

/-- Whether the requirements of the entry hold for an annotation of the declaration: no marker is
asked for, or the declaration or a member of it carries the marker. -/
def TableEntry.IsFor (e : TableEntry) (target : Option Site) : Prop :=
  ∀ marker, e.whenMarked = .str marker → marker ≠ "" → ∃ site, target = some site ∧
    (site.header.carries marker = true ∨
      ∃ d ∈ site.declaration.members, d.header.carries marker = true)

namespace Check

theorem isMarked_str {site : Site} {marker : String} {b : Bool}
    (h : b = true ↔ site.header.carries marker = true ∨
      ∃ d ∈ site.declaration.members, d.header.carries marker = true) :
    isMarked site (.str marker) = .ok b := by
  have hmarked : isMarked site (.str marker) = .ok (site.header.carries marker ||
    site.declaration.members.any (·.header.carries marker)) := rfl
  rw [hmarked, Except.ok.injEq, Bool.eq_iff_iff, h, Bool.or_eq_true, List.any_eq_true]

/-- The complaint about the requirements that are listed. -/
def cautionMatch (target : Option Site) (a : Annotation) (e : TableEntry) (missing : List String) :
    Match where
  values := [
    ("annotation", .str a.name),
    ("missing", .str (", ".intercalate missing)),
    ("reason", .str (orElseText e.reason "caution-tier annotation")),
    ("target", .str ((target.map Site.name).getD "?"))]

/-- What is said of an annotation that the requirements are for. -/
def cautionAnswer (target : Option Site) (a : Annotation) (e : TableEntry) :
    Except Fault (Option Match) := do
  let missing ← unmet a.arguments e.requires
  return if missing.isEmpty then none else some (cautionMatch target a e missing)

open Classical in
theorem cautionAnswer_lists {target : Option Site} {a : Annotation} {e : TableEntry}
    {answer : Option Match} (h : cautionAnswer target a e = .ok answer) :
    ∃ shown, List.Forall₂ Shows (e.requires.filter fun r => ¬ a.Meets r) shown ∧
      answer = if shown.isEmpty then none else some (cautionMatch target a e shown) := by
  obtain ⟨shown, hshown, h⟩ := bind_ok h
  exact ⟨shown, unmet_lists hshown, (Except.ok.inj h).symm⟩

section Caution
variable {context : Context} {table : AnnotationTable} {a : Annotation} {e : TableEntry}
variable {target : Option Site}
variable (given : context.params.get? "table" = some (.table table))
variable (listed : table.entryFor context.unit a = some e) (tier : e.tier = .caution)
include given listed tier

theorem cautionArguments_of_applies
    (marker : e.whenMarked.isTruthy = true →
      ∃ site, target = some site ∧ isMarked site e.whenMarked = .ok true) :
    cautionArguments (.mark target a) context = cautionAnswer target a e := by
  have hanswer : cautionAnswer target a e = (do
      let missing ← unmet a.arguments e.requires
      if missing.isEmpty then return none else return some (cautionMatch target a e missing)) := by
    unfold cautionAnswer
    congr
    funext missing
    split <;> rfl
  have hnone (h : e.requires = []) : cautionAnswer target a e = .ok none := by
    rw [cautionAnswer, h]
    rfl
  simp only [cautionArguments, annotationOf, Node.named, Node.asMark, bind, Except.bind,
    hitFor_eq given, listed, Option.map_some, TableHit.asEntry, tier]
  split
  · rename_i hempty
    rw [hnone (by simpa using hempty)]
    rfl
  · rw [hanswer]
    split
    · rename_i truthy
      obtain ⟨site, rfl, hmarked⟩ := marker truthy
      simp only [hmarked]
      rfl
    · rfl

theorem cautionArguments_of_unmarked (truthy : e.whenMarked.isTruthy = true)
    (unmarked : ∀ site, target = some site → isMarked site e.whenMarked = .ok false) :
    cautionArguments (.mark target a) context = .ok none := by
  simp only [cautionArguments, annotationOf, Node.named, Node.asMark, bind, Except.bind,
    hitFor_eq given, listed, Option.map_some, TableHit.asEntry, tier, truthy, if_true]
  split
  · rfl
  · cases target with
    | none => rfl
    | some site =>
      simp only [unmarked site rfl]
      rfl

theorem cautionArguments_of_not_isFor (spared : ¬ e.IsFor target) :
    cautionArguments (.mark target a) context = .ok none := by
  unfold TableEntry.IsFor at spared
  push Not at spared
  obtain ⟨name, hname, hne, hunmarked⟩ := spared
  apply cautionArguments_of_unmarked given listed tier
  · rw [hname]
    simpa [Value.isTruthy] using hne
  · intro site htarget
    rw [hname]
    refine isMarked_str (iff_of_false Bool.false_ne_true ?_)
    rintro (hown | ⟨d, hd, hmember⟩)
    · exact absurd hown ((hunmarked site htarget).1)
    · exact absurd hmember ((hunmarked site htarget).2 d hd)

theorem cautionArguments_of_isFor
    (marker : e.whenMarked = .null ∨ ∃ name, e.whenMarked = .str name) (applies : e.IsFor target) :
    cautionArguments (.mark target a) context = cautionAnswer target a e := by
  refine cautionArguments_of_applies given listed tier fun truthy => ?_
  rcases marker with hnull | ⟨name, hname⟩
  · rw [hnull] at truthy
    cases truthy
  · have hne : name ≠ "" := by
      rw [hname] at truthy
      simpa [Value.isTruthy] using truthy
    obtain ⟨site, htarget, hmarked⟩ := applies name hname hne
    rw [hname]
    exact ⟨site, htarget, isMarked_str (iff_of_true rfl hmarked)⟩

end Caution

open Classical in
/-- An annotation that gives the required values themselves passes, if they can be asked for. A
complaint lists the requirements that are not met, in the order of the entry, and there is none only
if all are met. -/
theorem caution_satisfied_by_obeying {context : Context} {table : AnnotationTable}
    {target : Option Site} {a : Annotation} {e : TableEntry}
    (given : context.params.get? "table" = some (.table table))
    (listed : table.entryFor context.unit a = some e) (tier : e.tier = .caution)
    (marker : e.whenMarked = .null ∨ ∃ name, e.whenMarked = .str name) :
    ((∀ r ∈ e.requires, r.2.IsObeyable ∧ a.Obeys r) →
      cautionArguments (.mark target a) context = .ok none) ∧
    (∀ m, cautionArguments (.mark target a) context = .ok (some m) →
      e.IsFor target ∧ ∃ shown, m = cautionMatch target a e shown ∧
        List.Forall₂ Shows (e.requires.filter fun r => ¬ a.Meets r) shown) ∧
    (e.IsFor target → (∃ r ∈ e.requires, ¬ a.Meets r) →
      cautionArguments (.mark target a) context ≠ .ok none) := by
  by_cases applies : e.IsFor target
  · rw [cautionArguments_of_isFor given listed tier marker applies]
    refine ⟨fun h => ?_, fun m h => ?_, fun _ hunmet h => ?_⟩
    · rw [cautionAnswer, unmet_of_obeys h]
      rfl
    · obtain ⟨shown, hshown, hanswer⟩ := cautionAnswer_lists h
      split at hanswer
      · cases hanswer
      · exact ⟨applies, shown, Option.some.inj hanswer, hshown⟩
    · obtain ⟨r, hr, hr'⟩ := hunmet
      obtain ⟨shown, hshown, hanswer⟩ := cautionAnswer_lists h
      split at hanswer
      · rename_i hempty
        rw [List.isEmpty_iff.mp hempty, List.forall₂_nil_right_iff,
          List.filter_eq_nil_iff] at hshown
        exact hshown r hr (by simpa using hr')
      · cases hanswer
  · rw [cautionArguments_of_not_isFor given listed tier applies]
    refine ⟨fun _ => rfl, fun m h => ?_, fun h => absurd h applies⟩
    cases h

/-- What the check sees of a unit under a rule with the table. -/
def tableOnly (u : SourceUnit) (table : AnnotationTable) : Context where
  unit := u
  params := [(.str "table", .table table)]
  permissive := false

def retryMark (arguments : Entries) : Annotation := ⟨"Retry", .ofInts 1 12 1 30, arguments⟩

/-- A type that is remote, with the given arguments for its retries. -/
def remoteType (arguments : Entries) : Header where
  name := "Client"
  span := .ofInts 1 1 2 40
  visibility := .pub
  modifiers := []
  annotations := [⟨"net.Remote", .ofInts 1 1 1 10, []⟩, retryMark arguments]
  doc := none

def remoteSite (arguments : Entries) : Site where
  enclosing := []
  declaration := .type (remoteType arguments) "class" [] []

def remoteUnit (arguments : Entries) : SourceUnit where
  path := "Client"
  package := ""
  lineLengths := [40, 40]
  imports := []
  suppressions := []
  declarations := [.type (remoteType arguments) "class" [] []]

theorem walk_remoteUnit (arguments : Entries) :
    (remoteUnit arguments).walk = [remoteSite arguments] := by
  rw [SourceUnit.walk_eq_preorder]
  rfl

/-- Requires pauses of which the last is no number, and a mapping for the first of them. -/
def retryEntry : TableEntry where
  tier := .caution
  requires := [(.str "pauses", .list [.int 2, .nan 1]),
    (.str "first", .map [(.str "unit", .str "s"), (.str "count", .float 0.5)])]
  whenMarked := .str "Remote"

def obeyingArguments : Entries :=
  [(.str "first", .map [(.str "unit", .str "s"), (.str "count", .float 0.5)]),
    (.str "pauses", .list [.int 2, .nan 0])]

theorem isObeyable_retryEntry : ∀ r ∈ retryEntry.requires, r.2.IsObeyable := by
  refine List.forall_mem_cons.mpr ⟨⟨(by intro h; cases h), .inr ⟨?_, ?_⟩⟩,
    List.forall_mem_singleton.mpr ⟨(by intro h; cases h), .inl ?_⟩⟩
  · simp [Value.IsUntied, Value.parts, Value.itemParts]
  · simp only [Value.integers, Value.itemIntegers, List.append_nil, List.forall_mem_singleton]
    exact isShort_of_lt (by decide)
  · constructor
    · simp [Value.IsUntied, Value.parts, Value.entryParts]
    · simp [Value.parts, Value.entryParts]
    · intro x hx
      obtain rfl : x = 0.5 := by simpa [Value.parts, Value.entryParts] using hx
      decide
    · simp [Value.parts, Value.entryParts]
    · simp only [Value.parts, Value.entryParts, List.mem_cons, List.mem_append, List.not_mem_nil,
        Value.map.injEq, reduceCtorEq, or_false, forall_eq]
      rintro e (rfl | rfl) <;> rfl

theorem caution_satisfied_by_obeying_retryMark :
    cautionArguments (.mark (some (remoteSite obeyingArguments)) (retryMark obeyingArguments))
      (tableOnly (remoteUnit obeyingArguments) [("Retry", retryEntry)]) = .ok none ∧
    cautionArguments (.mark (some (remoteSite [])) (retryMark []))
      (tableOnly (remoteUnit []) [("Retry", retryEntry)]) ≠ .ok none := by
  have hobeys : ∀ r ∈ retryEntry.requires, (retryMark obeyingArguments).Obeys r :=
    List.forall_mem_cons.mpr ⟨⟨_, rfl, rfl⟩, List.forall_mem_singleton.mpr ⟨_, rfl, rfl⟩⟩
  have applies : retryEntry.IsFor (some (remoteSite [])) := by
    rintro marker ⟨⟩ -
    exact ⟨_, rfl, .inl (by decide)⟩
  have hunmet : ¬ (retryMark []).Meets (.str "pauses", .list [.int 2, .nan 1]) := by
    rintro ⟨v, hv, -⟩
    cases hv
  constructor
  · exact (caution_satisfied_by_obeying rfl rfl rfl (.inr ⟨"Remote", rfl⟩)).1 fun r hr =>
      ⟨isObeyable_retryEntry r hr, hobeys r hr⟩
  · exact (caution_satisfied_by_obeying rfl rfl rfl (.inr ⟨"Remote", rfl⟩)).2.2 applies
      ⟨_, List.mem_cons_self, hunmet⟩

theorem required_null_not_obeyed :
    ∃ u site a table e,
      SourceUnit.ofDocument (.map (remoteUnit [(.str "limit", .null)]).entries) = .ok u ∧
      site ∈ u.walk ∧ a ∈ site.header.annotations ∧
      AnnotationTable.ofValue (.map [(.str "Retry", .map [(.str "tier", .str "caution"),
        (.str "requires", .map [(.str "limit", .null)])])]) = .ok table ∧
      table.entryFor u a = some e ∧ e.tier = .caution ∧ e.whenMarked = .null ∧
      (∀ r ∈ e.requires, a.Obeys r) ∧
      ∃ m, cautionArguments (.mark (some site) a) (tableOnly u table) = .ok (some m) := by
  have hread : SourceUnit.ofDocument (.map (remoteUnit [(.str "limit", .null)]).entries) =
      .ok (remoteUnit [(.str "limit", .null)]) := by
    refine SourceUnit.ofDocument_undocumented (by decide : "Client" ≠ "") ?_
    rw [walk_remoteUnit]
    exact List.forall_mem_singleton.mpr rfl
  refine ⟨_, remoteSite [(.str "limit", .null)], retryMark [(.str "limit", .null)], _, _, hread,
    ?_, ?_, rfl, rfl, rfl, rfl, ?_, ⟨_, rfl⟩⟩
  · rw [walk_remoteUnit]
    exact List.mem_singleton_self _
  · exact List.mem_cons_of_mem _ List.mem_cons_self
  · exact List.forall_mem_singleton.mpr ⟨_, rfl, rfl⟩

end Check

end Conformance
