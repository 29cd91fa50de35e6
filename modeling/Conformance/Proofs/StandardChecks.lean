import Conformance.Pack.Standard
import Conformance.Proofs.Writing

/-!
# Checks that do not fail

On nodes of the kind it is made for, and with parameters of the kind it expects, a check does not
fail, and each of its matches gives a text under every name that its message may use. Only two
checks write values of the unit that are not texts: those of annotation arguments.
-/

namespace Conformance

/-- The values are texts under the given names. -/
def Template.AreTexts (names : List String) (values : Fields) : Prop :=
  values.map Prod.fst = names ∧ ∀ entry ∈ values, ∃ s, entry.2 = .str s

theorem Template.AreTexts.supplied {names : List String} {values : Fields}
    (h : AreTexts names values) : ∀ name ∈ names, Supplied values name := by
  intro name hname
  obtain ⟨rfl, htexts⟩ := h
  cases hlookup : values.lookup name with
  | none =>
    obtain ⟨entry, hentry, rfl⟩ := List.mem_map.mp hname
    have := List.lookup_eq_none_iff.mp hlookup entry hentry
    simp at this
  | some v =>
    obtain ⟨before, after, hvalues, _⟩ := List.lookup_eq_some_iff.mp hlookup
    obtain ⟨s, rfl⟩ := htexts (name, v) (by simp [hvalues])
    exact ⟨_, s, hlookup, rfl⟩

/-- The answer is no fault, and a match comes with texts under the names. -/
def Check.Answered (names : List String) : Except Fault (Option Match) → Prop
  | .ok none => True
  | .ok (some m) => Template.AreTexts names m.values
  | .error _ => False

namespace Value

theorem equal_bool (met : List (Nat × Nat)) (b : Bool) : (v : Value) →
    ∃ r, v.equal met (.bool b) = .ok r
  | knot _ v => by
    simp only [equal]
    exact equal_bool met b v
  | null => ⟨_, rfl⟩
  | bool _ => ⟨_, rfl⟩
  | int _ => ⟨_, rfl⟩
  | float _ => ⟨_, rfl⟩
  | nan _ => ⟨_, rfl⟩
  | str _ => ⟨_, rfl⟩
  | bytes _ => ⟨_, rfl⟩
  | date _ => ⟨_, rfl⟩
  | moment _ => ⟨_, rfl⟩
  | list _ => ⟨_, rfl⟩
  | tuple _ => ⟨_, rfl⟩
  | set _ => ⟨_, rfl⟩
  | map _ => ⟨_, rfl⟩

theorem same_bool (v : Value) (b : Bool) : ∃ r, v.same (.bool b) = .ok r := by
  cases v with
  | nan m => exact ⟨_, rfl⟩
  | _ => exact equal_bool [] b _

theorem firstKeyFault?_texts (texts : List String) : firstKeyFault? (texts.map .str) = none := by
  induction texts with
  | nil => rfl
  | cons s rest ih => exact ih

@[simp] theorem iterate_ofTexts (texts : List String) :
    (ofTexts texts).iterate = .ok (texts.map .str) := rfl

@[simp] theorem holds_ofTexts (texts : List String) (text : String) :
    (ofTexts texts).holds text = .ok ((texts.map .str).any (isText text)) := rfl

theorem keyItems_of_iterate {v : Value} {texts : List String}
    (h : v.iterate = .ok (texts.map .str)) : v.keyItems = .ok (texts.map .str) := by
  rw [keyItems, h]
  simp only [bind, Except.bind, firstKeyFault?_texts]
  rfl

@[simp] theorem keyItems_ofTexts (texts : List String) :
    (ofTexts texts).keyItems = .ok (texts.map .str) :=
  keyItems_of_iterate (iterate_ofTexts texts)

end Value

@[simp] theorem filterNamed_texts (test : String → Bool) (texts : List String) :
    filterNamed test (texts.map .str) = .ok ((texts.filter test).map .str) := by
  induction texts with
  | nil => rfl
  | cons s rest ih =>
    rw [List.map_cons, filterNamed, ih]
    simp only [Value.asName, bind, Except.bind, pure, Except.pure]
    cases h : test s <;> simp [h]

@[simp] theorem findNamed_texts (test : String → Bool) (texts : List String) :
    findNamed test (texts.map .str) = .ok (texts.find? test) := by
  induction texts with
  | nil => rfl
  | cons s rest ih =>
    rw [List.map_cons, findNamed, ih]
    simp only [Value.asName, bind, Except.bind, pure, Except.pure]
    cases h : test s <;> simp [h]

/-- The integers in the arguments are short. -/
def Annotation.IsWritable (a : Annotation) : Prop :=
  ∀ entry ∈ a.arguments, ∀ n ∈ entry.2.integers, IsShort n

namespace Check

theorem firstHit_eq (table : AnnotationTable) (names : List String) :
    firstHit (.table table) names =
      .ok ((names.findSome? fun name => table.lookup name).map .entry) := by
  induction names with
  | nil => rfl
  | cons name rest ih =>
    rw [firstHit, tableGet?, List.findSome?_cons]
    cases table.lookup name with
    | none => exact ih
    | some e => rfl

theorem firstHit_table (table : AnnotationTable) (names : List String) :
    ∃ found : Option TableEntry, firstHit (.table table) names = .ok (found.map .entry) ∧
      ∀ e, found = some e → ∃ name, (name, e) ∈ table := by
  refine ⟨_, firstHit_eq table names, fun e he => ?_⟩
  obtain ⟨name, _, hlookup⟩ := List.exists_of_findSome?_eq_some he
  obtain ⟨before, after, htable, _⟩ := List.lookup_eq_some_iff.mp hlookup
  exact ⟨name, by simp [htable]⟩

section Marks
variable {context : Context} {target : Option Site} {a : Annotation}

section Table
variable {table : AnnotationTable} (given : context.params.get? "table" = some (.table table))
include given

theorem hitFor_table :
    ∃ found : Option TableEntry, hitFor a context = .ok (found.map .entry) ∧
      ∀ e, found = some e → ∃ name, (name, e) ∈ table := by
  rw [hitFor, tableOf, given]
  exact firstHit_table table _

theorem bannedMark_answered :
    Answered ["annotation", "reason"] (bannedMark (.mark target a) context) := by
  obtain ⟨found, hfound, _⟩ := hitFor_table given (a := a)
  simp only [bannedMark, annotationOf, Node.named, Node.asMark, bind, Except.bind, hfound]
  cases found with
  | none => trivial
  | some e =>
    simp only [Option.map_some, TableHit.asEntry]
    split
    · exact ⟨rfl, by simp⟩
    · trivial

theorem unlistedMark_answered :
    Answered ["annotation"] (unlistedMark (.mark target a) context) := by
  obtain ⟨found, hfound, _⟩ := hitFor_table given (a := a)
  simp only [unlistedMark, annotationOf, Node.named, Node.asMark, bind, Except.bind, hfound]
  split
  · trivial
  · cases found with
    | none => exact ⟨rfl, by simp⟩
    | some e => trivial

end Table

theorem sameLiteral_bool {actual : Option Value}
    (short : ∀ v, actual = some v → ∀ n ∈ v.integers, IsShort n) (b : Bool) :
    ∃ r, sameLiteral actual (.bool b) = .ok r := by
  unfold sameLiteral
  split
  · exact ⟨_, rfl⟩
  · exact ⟨_, rfl⟩
  · rename_i v _
    obtain ⟨r, hr⟩ := v.same_bool b
    obtain ⟨text, htext⟩ := Value.written_ok (short v rfl)
    rw [hr, htext]
    cases r with
    | true => exact ⟨_, rfl⟩
    | false => exact ⟨_, rfl⟩

/-- The entry asks for truth values under names, and only where a marker with a name is found. -/
def IsModest (e : TableEntry) : Prop :=
  (e.whenMarked.isTruthy = true → ∃ marker, e.whenMarked = .str marker) ∧
    ∀ r ∈ e.requires, ∃ name b, r = (.str name, .bool b)

theorem unmet_ok (writable : a.IsWritable) {requires : Entries}
    (modest : ∀ r ∈ requires, ∃ name b, r = (.str name, .bool b)) :
    ∃ shown, unmet a.arguments requires = .ok shown := by
  induction requires with
  | nil => exact ⟨[], rfl⟩
  | cons r rest ih =>
    obtain ⟨⟨name, b, rfl⟩, hrest⟩ := List.forall_mem_cons.mp modest
    obtain ⟨shown, hshown⟩ := ih hrest
    have hshort : ∀ v, a.arguments.find? (.str name) = some v → ∀ n ∈ v.integers, IsShort n := by
      intro v hv
      obtain ⟨entry, hentry, rfl⟩ := Option.map_eq_some_iff.mp hv
      exact writable entry (List.mem_of_find?_eq_some hentry)
    obtain ⟨r, hr⟩ := sameLiteral_bool hshort b
    rw [unmet, hr, hshown]
    cases r with
    | true => exact ⟨_, rfl⟩
    | false => exact ⟨_, rfl⟩

section Caution
variable (writable : a.IsWritable) {e : TableEntry} (modest : IsModest e)
include writable modest

theorem unmet_answered (applies : Bool) :
    Answered ["annotation", "missing", "reason", "target"] (if !applies then return none
      else do
        let missing ← unmet a.arguments e.requires
        if missing.isEmpty then return none
        else
          return some { values := [
            ("annotation", .str a.name),
            ("missing", .str (", ".intercalate missing)),
            ("reason", .str (orElseText e.reason "caution-tier annotation")),
            ("target", .str ((target.map Site.name).getD "?"))] }) := by
  obtain ⟨shown, hshown⟩ := unmet_ok writable modest.2
  simp only [hshown, bind, Except.bind]
  split
  · trivial
  · split
    · trivial
    · exact ⟨rfl, by simp⟩

end Caution

theorem cautionArguments_answered {table : AnnotationTable}
    (given : context.params.get? "table" = some (.table table))
    (modest : ∀ entry ∈ table, IsModest entry.2) (writable : a.IsWritable) :
    Answered ["annotation", "missing", "reason", "target"]
      (cautionArguments (.mark target a) context) := by
  obtain ⟨found, hfound, hmem⟩ := hitFor_table given (a := a)
  simp only [cautionArguments, annotationOf, Node.named, Node.asMark, bind, Except.bind, hfound]
  cases found with
  | none => trivial
  | some e =>
    obtain ⟨name, hentry⟩ := hmem e rfl
    have hmodest : IsModest e := modest _ hentry
    simp only [Option.map_some, TableHit.asEntry]
    split
    · trivial
    · split
      · rename_i htruthy
        cases target with
        | none => trivial
        | some site =>
          obtain ⟨marker, hmarker⟩ := hmodest.1 htruthy
          rw [hmarker]
          exact unmet_answered writable hmodest _
      · exact unmet_answered writable hmodest true

theorem lockOf_ok (writable : a.IsWritable) : ∃ lock, lockOf a = .ok lock := by
  unfold lockOf
  split
  · exact ⟨_, rfl⟩
  · exact ⟨_, rfl⟩
  · rename_i v _ hv
    obtain ⟨entry, hentry, rfl⟩ := Option.map_eq_some_iff.mp hv
    obtain ⟨text, htext⟩ := Value.written_ok (writable entry (List.mem_of_find?_eq_some hentry))
    rw [htext]
    exact ⟨_, rfl⟩

theorem guardedByUnknownLock_answered (writable : a.IsWritable) :
    Answered ["lock", "detail"] (guardedByUnknownLock (.mark target a) context) := by
  obtain ⟨lock, hlock⟩ := lockOf_ok writable
  simp only [guardedByUnknownLock, Node.asMark, bind, Except.bind, hlock]
  split
  · trivial
  · split
    · exact ⟨rfl, by simp⟩
    · cases lockDetail? target lock with
      | none => trivial
      | some detail => exact ⟨rfl, by simp⟩

end Marks

section Docs
variable {context : Context} {owner : Option Site} {d : DocComment}

theorem tagOrder_answered {order single : List String}
    (horder : context.params.valueOr "order" (.ofTexts canonicalTagOrder) = .ofTexts order)
    (hsingle : context.params.valueOr "single" (.ofTexts singleTags) = .ofTexts single) :
    Answered ["tag", "detail"] (tagOrder (.doc owner d) context) := by
  have hkeys : (Value.list (order.map .str)).keyItems = .ok (order.map .str) :=
    Value.keyItems_ofTexts order
  simp only [tagOrder, horder, hsingle, Value.iterate_ofTexts, Value.keyItems_ofTexts, hkeys,
    Node.asDoc, bind, Except.bind]
  split
  · trivial
  · exact ⟨rfl, by simp⟩

theorem summaryPeriod_answered :
    Answered ["owner", "detail"] (summaryPeriod (.doc owner d) context) := by
  simp only [summaryPeriod, Node.asDoc, bind, Except.bind]
  cases summaryDetail? d with
  | none => trivial
  | some detail => exact ⟨rfl, by simp⟩

end Docs

section Declarations
variable {context : Context} {site : Site}

theorem carriedMarkers_texts (site : Site) (texts : List String) :
    carriedMarkers (.declaration site) (.ofTexts texts) =
      .ok ((texts.filter site.header.carries).map .str) := by
  cases texts with
  | nil => rfl
  | cons s rest => exact filterNamed_texts _ (s :: rest)

theorem conflictingNullness_answered {nullable nonNull : List String}
    (hnullable : context.params.valueOr "nullable" (.ofTexts nullableMarkers) = .ofTexts nullable)
    (hnonNull : context.params.valueOr "non_null" (.ofTexts nonNullMarkers) = .ofTexts nonNull) :
    Answered ["nullable", "non_null"] (conflictingNullness (.declaration site) context) := by
  simp only [conflictingNullness, hnullable, hnonNull, carriedMarkers_texts, bind, Except.bind]
  cases nullable.filter site.header.carries with
  | nil => trivial
  | cons first _ =>
    cases nonNull.filter site.header.carries with
    | nil => trivial
    | cons second _ => exact ⟨rfl, by simp⟩

theorem deprecationMismatch_answered {marker : String}
    (hmarker : context.params.valueOr "annotation" (.str "Deprecated") = .str marker) :
    Answered ["detail"] (deprecationMismatch (.declaration site) context) := by
  simp only [deprecationMismatch, hmarker, Node.asSite, Value.asName, bind, Except.bind]
  split
  · trivial
  · exact ⟨rfl, by simp⟩

theorem missingPublicDoc_answered {kinds : List String}
    (hkinds : context.params.valueOr "kinds" (.ofTexts documentedKinds) = .ofTexts kinds) :
    Answered [] (missingPublicDoc (.declaration site) context) := by
  simp only [missingPublicDoc, hkinds, Value.holds_ofTexts, Node.asSite, bind, Except.bind]
  split
  · exact ⟨rfl, nofun⟩
  · trivial

theorem immutableMutableField_answered {markers : List String}
    (hmarkers : context.params.valueOr "markers" (.ofTexts threadSafeMarkers) = .ofTexts markers) :
    Answered ["owner", "marker"] (immutableMutableField (.declaration site) context) := by
  simp only [immutableMutableField, hmarkers, Value.iterate_ofTexts, findNamed_texts, Node.asSite,
    bind, Except.bind]
  cases site.enclosing.head? with
  | none => trivial
  | some owner =>
    simp only
    split
    · trivial
    · split
      · trivial
      · split
        · trivial
        · exact ⟨rfl, by simp⟩

section Naming
variable {text : String} (given : context.params.get? "pattern" = some (.value (.str text)))
variable (parsed : (Pattern.parse text).isOk = true)
include given parsed

theorem nameMatchesPattern_answered :
    Answered ["pattern"] (nameMatchesPattern (.declaration site) context) := by
  have hvalue : context.params.valueOr "pattern" .null = .str text := by
    rw [Params.valueOr, given]
  simp only [nameMatchesPattern, patternOf, given, hvalue, Node.named, matchesPattern, bind,
    Except.bind]
  cases hpattern : Pattern.parse text with
  | error e =>
    rw [hpattern] at parsed
    cases parsed
  | ok pattern =>
    simp only
    split
    · trivial
    · exact ⟨rfl, by simp⟩

theorem constantName_answered :
    Answered ["pattern"] (constantName (.declaration site) context) := by
  simp only [constantName, Node.asSite, bind, Except.bind]
  split
  · exact nameMatchesPattern_answered given parsed
  · trivial

end Naming

section Methods
variable {header : Header} {signature : Signature}
variable (hmethod : site.declaration = .method header signature)
include hmethod

theorem asMethod_method (feature : String) :
    (Node.declaration site).asMethod feature = .ok (site, header, signature) := by
  rw [Node.asMethod, hmethod]

theorem closeThrows_answered {capabilities : List String}
    (hcapabilities : context.params.valueOr "capabilities" (.ofTexts autoClosingTypes) =
      .ofTexts capabilities) :
    Answered ["owner", "capability", "throws"] (closeThrows (.declaration site) context) := by
  simp only [closeThrows, hcapabilities, Value.iterate_ofTexts, findNamed_texts, Node.named,
    asMethod_method hmethod, bind, Except.bind]
  split
  · trivial
  · split
    · trivial
    · cases site.enclosing.head? with
      | none => trivial
      | some owner =>
        simp only
        split
        · trivial
        · split
          · trivial
          · exact ⟨rfl, by simp⟩

theorem emptyHandler_answered :
    Answered ["caught"] (emptyHandler (.declaration site) context) := by
  simp only [emptyHandler, asMethod_method hmethod, bind, Except.bind]
  cases signature.handlers.find? fun h => h.bodyEmpty && !h.hasComment with
  | none => trivial
  | some handler => exact ⟨rfl, by simp⟩

theorem broadCatch_answered {types : List String}
    (htypes : context.params.valueOr "types" (.ofTexts broadTypes) = .ofTexts types) :
    Answered ["caught"] (broadCatch (.declaration site) context) := by
  simp only [broadCatch, htypes, Value.keyItems_ofTexts, asMethod_method hmethod, bind, Except.bind]
  split
  · trivial
  · exact ⟨rfl, by simp⟩

end Methods

end Declarations

end Check

end Conformance
