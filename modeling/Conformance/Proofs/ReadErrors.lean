import Conformance.Proofs.Failures
import Conformance.Symbol.Reading
import Mathlib.Logic.Relation

/-!
# The errors of reading a document

Reading a document gives a unit, or a model error under the path of the document, with few
exceptions: the path cannot be written, a number that is asked for is infinite, there are too many
lines, or a declaration is a member of itself.
-/

namespace Conformance

/-- A number beyond all others. -/
def Value.IsInfinite (v : Value) : Prop :=
  ∃ x negative, v = .float x ∧ Decimal.Binary.ofFloat x = .infinite negative

/-- The values in a span that have to be integers. -/
def Value.corners (v : Value) : List Value :=
  match v.bare with
  | .map m => ["start_line", "start_column", "end_line", "end_column"].filterMap (Entries.get? m)
  | .list parts => parts
  | .tuple parts => parts
  | _ => []

namespace Entries

/-- The keys under which documents list parts that have spans. -/
def partKeys : List String :=
  ["imports", "suppressions", "declarations", "members", "annotations", "tags", "handlers",
    "resource_scopes"]

/-- A mapping has another as a part, among the items of a list or as its documentation. -/
inductive Holds (m q : Entries) : Prop where
  | item {key : String} {vs : List Value} {v : Value} (hkey : key ∈ partKeys)
      (hvs : Reading.itemsUnder m key = .ok vs) (hv : v ∈ vs) (hq : v.bare = .map q)
  | doc {v : Value} (hv : m.get? "doc" = some v) (hq : v.bare = .map q)

/-- The mapping, or a part of it however deep, has a span with the value in it. -/
def Places (m : Entries) (n : Value) : Prop :=
  ∃ q, Relation.ReflTransGen Holds m q ∧ ∃ s, q.get? "span" = some s ∧ n ∈ s.corners

/-- The lines of the document are given by their number alone. -/
def CountsLines (m : Entries) (n : Value) : Prop :=
  m.get? "line_lengths" = none ∧ m.get? "source" = none ∧ m.get? "line_count" = some n

/-- The values of a document that may be read as integers. -/
inductive Asks (m : Entries) : Value → Prop where
  | length {l n : Value} {ns : List Value} (hl : m.get? "line_lengths" = some l)
      (hns : Reading.items l = .ok ns) (hn : n ∈ ns) : Asks m n
  | width {count n : Value} (hcount : m.CountsLines count) (hn : m.get? "line_width" = some n) :
      Asks m n
  | count {n : Value} (hcount : m.CountsLines n) : Asks m n
  | corner {q : Entries} {n : Value} (hq : m.Holds q) (hn : q.Places n) : Asks m n

end Entries

/-- The declaration is met again among the members below it; `met` holds the names of the knots
around it. -/
inductive Value.Circular : List Nat → Value → Prop where
  | again {met : List Nat} {name : Nat} {v : Value} (h : name ∈ met) : Circular met (.knot name v)
  | inside {met : List Nat} {name : Nat} {v : Value} (h : Circular (name :: met) v) :
      Circular met (.knot name v)
  | member {met : List Nat} {m : Entries} {vs : List Value} {v : Value}
      (hvs : Reading.itemsUnder m "members" = .ok vs) (hv : v ∈ vs) (h : Circular met v) :
      Circular met (.map m)

/-- What keeps a document from being read other than a defect of the model in it, and the error
that comes of it. -/
inductive Entries.Unmanageable (m : Entries) : ReadError → Prop where
  | path {cause : Unwritable} (h : SourceUnit.pathOf m = .error cause) :
      Unmanageable m (.unwritablePath cause)
  | infinite {n : Value} (hn : m.Asks n) (h : n.IsInfinite) :
      Unmanageable m (.overflow IntegerError.infinite.message)
  | count {v : Value} {n : Int} (hv : m.CountsLines v) (hn : v.toInteger = .ok n)
      (h : n < -Reading.lineCountBound ∨ Reading.lineCountBound ≤ n) :
      Unmanageable m (.overflow "cannot fit 'int' into an index-sized integer")
  | lines {v : Value} {n : Int} (hv : m.CountsLines v) (hn : v.toInteger = .ok n)
      (h : Reading.lineCapacity ≤ n) : Unmanageable m .tooManyLines
  | circular {vs : List Value} {v : Value} (hvs : Reading.itemsUnder m "declarations" = .ok vs)
      (hv : v ∈ vs) (h : v.Circular []) : Unmanageable m .endless

theorem Text.readInteger_ne_infinite (base : Nat) (shown : String) (cs : List Char) :
    Text.readInteger base shown cs ≠ .error .infinite := by
  unfold Text.readInteger
  dsimp only
  split
  · nofun
  · split
    · nofun
    · split
      · nofun
      · nofun

/-- Only an infinite number is refused as an integer for being infinite. -/
theorem Value.infinite_of_toInteger {v : Value} (h : v.toInteger = .error .infinite) :
    v.IsInfinite := by
  cases v with
  | float x =>
    simp only [toInteger] at h
    split at h
    · cases h
    · rename_i negative hx
      exact ⟨x, negative, rfl, hx⟩
    · cases h
  | str s => exact absurd h (Text.readInteger_ne_infinite 10 _ _)
  | bytes bs => exact absurd h (Text.readInteger_ne_infinite 10 _ _)
  | _ => cases h

namespace Reading

section Values
variable {P : ReadError → Prop} (hmodel : ∀ cause, P (.model cause))
include hmodel

theorem required_failsOnly (m : Entries) (key : String) : FailsOnly P (required m key) := by
  unfold required
  split
  · exact .ok _
  · exact .error (hmodel _)

theorem textOfValue_failsOnly (v : Value) : FailsOnly P (textOfValue v) := by
  unfold textOfValue
  split
  · exact .ok _
  · exact .error (hmodel _)

theorem literalOf_failsOnly (v : Value) : FailsOnly P (literalOf v) := by
  unfold literalOf
  split
  · exact .ok _
  · exact .error (hmodel _)

theorem items_failsOnly (v : Value) : FailsOnly P (items v) := by
  unfold items
  split
  · exact .ok _
  · exact .ok _
  · exact .ok _
  · exact .error (hmodel _)

theorem textsUnder_failsOnly (m : Entries) (key : String) : FailsOnly P (textsUnder m key) := by
  apply (items_failsOnly hmodel _).seq
  intro vs
  exact .mapM fun v _ => textOfValue_failsOnly hmodel v

theorem textOf_failsOnly (m : Entries) (key : String) : FailsOnly P (textOf m key) := by
  apply (required_failsOnly hmodel m key).seq
  intro v
  exact textOfValue_failsOnly hmodel v

theorem textOr_failsOnly (m : Entries) (key default : String) :
    FailsOnly P (textOr m key default) :=
  textOfValue_failsOnly hmodel _

theorem mapping_failsOnly (what : String) (v : Value) : FailsOnly P (mapping what v) := by
  unfold mapping
  split
  · exact .ok _
  · exact .error (hmodel _)

theorem visibility_failsOnly (v : Value) : FailsOnly P (visibility v) := by
  apply (textOfValue_failsOnly hmodel v).seq
  intro text
  split
  · exact .ok _
  · apply (literalOf_failsOnly hmodel v).seq
    intro shown
    exact .error (hmodel _)

theorem rejectSpan_failsOnly (v : Value) : FailsOnly P (rejectSpan v) := by
  apply (literalOf_failsOnly hmodel v).seq
  intro shown
  exact .error (hmodel _)

theorem argumentsOf_failsOnly (m : Entries) : FailsOnly P (argumentsOf m) := by
  unfold argumentsOf
  dsimp only
  split
  · split
    · exact .ok _
    · apply (textOfValue_failsOnly hmodel _).seq
      intro name
      exact .error (hmodel _)
  · exact .ok _

theorem integer_failsOnly {v : Value}
    (h : v.IsInfinite → P (.overflow IntegerError.infinite.message)) :
    FailsOnly P (integer v) := by
  unfold integer
  split
  · exact .ok _
  · rename_i hv
    exact .error (h (Value.infinite_of_toInteger hv))
  · exact .error (hmodel _)

end Values

theorem mapping_eq {what : String} {v : Value} {m : Entries} (h : mapping what v = .ok m) :
    v.bare = .map m := by
  unfold mapping at h
  split at h
  · rename_i hv
    cases h
    exact hv
  · cases h

theorem required_eq {m : Entries} {key : String} {v : Value} (h : required m key = .ok v) :
    m.get? key = some v := by
  unfold required at h
  split at h
  · rename_i hget
    cases h
    exact hget
  · cases h

theorem integer_eq {v : Value} {n : Int} (h : integer v = .ok n) : v.toInteger = .ok n := by
  unfold integer at h
  split at h
  · rename_i hv
    cases h
    exact hv
  · cases h
  · cases h

theorem mapM_required_eq {m : Entries} {keys : List String} {vs : List Value}
    (h : keys.mapM (required m) = .ok vs) : vs = keys.filterMap m.get? := by
  induction keys generalizing vs with
  | nil =>
    cases h
    rfl
  | cons key rest ih =>
    rw [List.mapM_cons] at h
    obtain ⟨v, hv, h⟩ := bind_ok h
    obtain ⟨ws, hws, h⟩ := bind_ok h
    cases h
    rw [List.filterMap_cons, required_eq hv, ih hws]

theorem spanOfParts_failsOnly {P : ReadError → Prop} (hmodel : ∀ cause, P (.model cause))
    (v : Value) {parts : List Value}
    (h : ∀ n ∈ parts, n.IsInfinite → P (.overflow IntegerError.infinite.message)) :
    FailsOnly P (spanOfParts v parts) := by
  unfold spanOfParts
  split
  · apply (integer_failsOnly hmodel (h _ (by simp))).seq
    intro a
    apply (integer_failsOnly hmodel (h _ (by simp))).seq
    intro b
    apply (integer_failsOnly hmodel (h _ (by simp))).seq
    intro c
    apply (integer_failsOnly hmodel (h _ (by simp))).seq
    intro d
    exact .ok _
  · exact rejectSpan_failsOnly hmodel v

theorem span_failsOnly {P : ReadError → Prop} (hmodel : ∀ cause, P (.model cause)) {v : Value}
    (h : ∀ n ∈ v.corners, n.IsInfinite → P (.overflow IntegerError.infinite.message)) :
    FailsOnly P (span v) := by
  unfold Value.corners at h
  unfold span
  split
  · rename_i m hm
    rw [hm] at h
    apply FailsOnly.bind (.mapM fun key _ => required_failsOnly hmodel m key)
    intro parts hparts
    apply spanOfParts_failsOnly hmodel
    rw [mapM_required_eq hparts]
    exact h
  · rename_i parts hparts
    rw [hparts] at h
    exact spanOfParts_failsOnly hmodel v h
  · rename_i parts hparts
    rw [hparts] at h
    exact spanOfParts_failsOnly hmodel v h
  · exact rejectSpan_failsOnly hmodel v

/-- The class has the errors of all models, and of the infinite numbers in the spans of the
mapping. -/
structure Covers (P : ReadError → Prop) (m : Entries) : Prop where
  model : ∀ cause, P (.model cause)
  infinite : ∀ n, m.Places n → n.IsInfinite → P (.overflow IntegerError.infinite.message)

section Parts
variable {P : ReadError → Prop} {m : Entries} (h : Covers P m)
include h

theorem Covers.part {q : Entries} (hq : m.Holds q) : Covers P q := by
  refine ⟨h.model, ?_⟩
  rintro n ⟨r, hr, hn⟩
  exact h.infinite n ⟨r, .head hq hr, hn⟩

theorem spanOf_failsOnly : FailsOnly P (spanOf m) := by
  apply FailsOnly.bind (required_failsOnly h.model m "span")
  intro s hs
  apply span_failsOnly h.model
  intro n hn
  exact h.infinite n ⟨m, .refl, s, required_eq hs, hn⟩

end Parts

/-- Items are read one by one, and each is a part. -/
theorem itemsUnder_failsOnly {P : ReadError → Prop} (hmodel : ∀ cause, P (.model cause))
    {m : Entries} (hparts : ∀ q, m.Holds q → Covers P q) {α β : Type} {read : Value → Reading α}
    {next : List α → Reading β} {key : String} (hkey : key ∈ Entries.partKeys)
    (hread : ∀ v, (∀ q, v.bare = .map q → Covers P q) → FailsOnly P (read v))
    (hnext : ∀ found, FailsOnly P (next found)) :
    FailsOnly P (itemsUnder m key >>= fun vs => vs.mapM read >>= next) := by
  apply (items_failsOnly hmodel _).bind
  intro vs hvs
  apply FailsOnly.seq
  · apply FailsOnly.mapM
    intro v hv
    apply hread
    intro q hq
    exact hparts q (.item hkey hvs hv hq)
  · exact hnext

section Readers
variable {P : ReadError → Prop} (hmodel : ∀ cause, P (.model cause)) {v : Value}
  (h : ∀ q, v.bare = .map q → Covers P q)
include hmodel h

theorem mapping_seq {α : Type} (what : String) {next : Entries → Reading α}
    (hnext : ∀ m, Covers P m → FailsOnly P (next m)) :
    FailsOnly P (mapping what v >>= next) := by
  apply (mapping_failsOnly hmodel what v).bind
  intro m hm
  exact hnext m (h m (mapping_eq hm))

theorem importEntry_failsOnly : FailsOnly P (importEntry v) := by
  apply mapping_seq hmodel h
  intro m hm
  apply (textOf_failsOnly hmodel m "name").seq
  intro name
  apply (spanOf_failsOnly hm).seq
  intro span
  exact .ok _

theorem directive_failsOnly : FailsOnly P (directive v) := by
  apply mapping_seq hmodel h
  intro m hm
  apply (textOf_failsOnly hmodel m "text").seq
  intro text
  apply (spanOf_failsOnly hm).seq
  intro span
  exact .ok _

theorem annotationOf_failsOnly : FailsOnly P (annotationOf v) := by
  apply mapping_seq hmodel h
  intro m hm
  apply (argumentsOf_failsOnly hmodel m).seq
  intro arguments
  apply (textOf_failsOnly hmodel m "name").seq
  intro name
  apply (spanOf_failsOnly hm).seq
  intro span
  exact .ok _

theorem tag_failsOnly : FailsOnly P (tag v) := by
  apply mapping_seq hmodel h
  intro m hm
  apply (textOf_failsOnly hmodel m "kind").seq
  intro kind
  apply (textOr_failsOnly hmodel m "text" "").seq
  intro text
  apply (spanOf_failsOnly hm).seq
  intro span
  exact .ok _

theorem handler_failsOnly : FailsOnly P (handler v) := by
  apply mapping_seq hmodel h
  intro m hm
  apply (textsUnder_failsOnly hmodel m "caught").seq
  intro caught
  apply (spanOf_failsOnly hm).seq
  intro span
  exact .ok _

theorem scope_failsOnly : FailsOnly P (scope v) := by
  apply mapping_seq hmodel h
  intro m hm
  apply (textsUnder_failsOnly hmodel m "resources").seq
  intro resources
  apply (spanOf_failsOnly hm).seq
  intro span
  exact .ok _

theorem doc_failsOnly : FailsOnly P (doc v) := by
  apply mapping_seq hmodel h
  intro m hm
  apply itemsUnder_failsOnly hm.model (fun _ => hm.part) (by decide)
  · intro v hv
    exact tag_failsOnly hmodel hv
  intro tags
  apply (spanOf_failsOnly hm).seq
  intro span
  apply (textOr_failsOnly hmodel m "summary" "").seq
  intro summary
  exact .ok _

end Readers

theorem parameter_failsOnly {P : ReadError → Prop} (hmodel : ∀ cause, P (.model cause))
    (v : Value) : FailsOnly P (parameter v) := by
  unfold parameter
  split
  · exact .ok _
  · apply (mapping_failsOnly hmodel _ _).seq
    intro m
    apply (textOf_failsOnly hmodel m "name").seq
    intro name
    apply (textOr_failsOnly hmodel m "type" "").seq
    intro typeName
    exact .ok _

section Declarations
variable {P : ReadError → Prop} {m : Entries} (h : Covers P m)
include h

theorem header_failsOnly : FailsOnly P (header m) := by
  apply (textOf_failsOnly h.model m "name").seq
  intro name
  apply (spanOf_failsOnly h).seq
  intro span
  apply (visibility_failsOnly h.model _).seq
  intro visibility
  apply (textsUnder_failsOnly h.model m "modifiers").seq
  intro modifiers
  apply itemsUnder_failsOnly h.model (fun _ => h.part) (by decide)
  · intro v hv
    exact annotationOf_failsOnly h.model hv
  intro annotations
  dsimp only
  split
  · apply FailsOnly.seq
    · apply FailsOnly.map
      apply doc_failsOnly h.model
      intro q hq
      unfold optional at hq
      cases hdoc : m.get? "doc" with
      | none =>
        rw [hdoc] at hq
        cases hq
      | some v =>
        rw [hdoc] at hq
        exact h.part (.doc hdoc hq)
    · intro doc
      exact .ok _
  · exact .ok _

theorem signature_failsOnly : FailsOnly P (signature m) := by
  apply (items_failsOnly h.model _).seq
  intro vs
  apply (FailsOnly.mapM fun v _ => parameter_failsOnly h.model v).seq
  intro parameters
  apply (textsUnder_failsOnly h.model m "throws").seq
  intro throws
  apply itemsUnder_failsOnly h.model (fun _ => h.part) (by decide)
  · intro v hv
    exact handler_failsOnly h.model hv
  intro handlers
  apply itemsUnder_failsOnly h.model (fun _ => h.part) (by decide)
  · intro v hv
    exact scope_failsOnly h.model hv
  intro resourceScopes
  exact .ok _

end Declarations

theorem declarations_eq_mapM (met : List Nat) (vs : List Value) :
    declarations met vs = vs.mapM (declaration met) := by
  induction vs with
  | nil => rw [declarations]; rfl
  | cons v rest ih => rw [declarations, ih, List.mapM_cons]

theorem declaration_failsOnly {P : ReadError → Prop} (hmodel : ∀ cause, P (.model cause))
    (met : List Nat) (v : Value) (h : ∀ q, v.bare = .map q → Covers P q)
    (hcircular : v.Circular met → P .endless) : FailsOnly P (declaration met v) := by
  -- What is inside of a knot, and a member of a mapping, weighs less; and a member of a member is a
  -- part of the mapping as well, so the class covers it.
  induction hsize : sizeOf v using Nat.strongRecOn generalizing met v with
  | ind size ih =>
  subst hsize
  cases v with
  | knot name v =>
    rw [declaration]
    split
    · rename_i hmet
      exact .error (hcircular (.again (by simpa using hmet)))
    · refine ih _ ?_ (name :: met) v h (fun hv => hcircular (.inside hv)) rfl
      simp only [Value.knot.sizeOf_spec]
      omega
  | map m =>
    have hparts := h m rfl
    rw [declaration]
    apply (textOr_failsOnly hmodel m "kind" "").seq
    intro kind
    apply (header_failsOnly hparts).seq
    intro header
    split
    · apply (textOr_failsOnly hmodel m "type_kind" "class").seq
      intro typeKind
      apply (textsUnder_failsOnly hmodel m "supertypes").seq
      intro supertypes
      split
      · rename_i e he
        exact .error (items_failsOnly hmodel _ e he)
      · rename_i members hmembers
        rw [declarations_eq_mapM]
        apply FailsOnly.seq
        · apply FailsOnly.mapM
          intro v hv
          refine ih _ ?_ met v ?_ (fun hc => hcircular (.member hmembers hv hc)) rfl
          · have hle := List.sizeOf_lt_of_mem hv
            have hlt := sizeOf_itemsUnder_lt hmembers
            omega
          · intro q hq
            exact hparts.part (.item (by decide) hmembers hv hq)
        · intro found
          exact .ok _
    · split
      · apply (signature_failsOnly hparts).seq
        intro signature
        exact .ok _
      · split
        · apply (textOr_failsOnly hmodel m "type" "").seq
          intro typeName
          exact .ok _
        · apply (literalOf_failsOnly hmodel _).seq
          intro shown
          apply (textOfValue_failsOnly hmodel _).seq
          intro name
          exact .error (hmodel _)
  | _ =>
    rw [declaration]
    · exact .error (hmodel _)
    all_goals
      intros
      contradiction

theorem uniformLines_failsOnly {P : ReadError → Prop} {count : Int}
    (hbound : count < -lineCountBound ∨ lineCountBound ≤ count →
      P (.overflow "cannot fit 'int' into an index-sized integer"))
    (hroom : lineCapacity ≤ count → P .tooManyLines) (width : Int) :
    FailsOnly P (uniformLines width count) := by
  unfold uniformLines
  split
  · rename_i h
    exact .error (hbound (by simpa using h))
  · split
    · rename_i h
      exact .error (hroom h)
    · exact .ok _

/-- The errors of a document: those of its model, and those that it cannot be managed for. -/
def Expected (m : Entries) (e : ReadError) : Prop :=
  (∃ cause, e = .model cause) ∨ m.Unmanageable e

theorem Expected.model (m : Entries) (cause : ModelError) : Expected m (.model cause) :=
  Or.inl ⟨cause, rfl⟩

section Within
variable {α : Type} {path : String} {r : Reading α}

theorem within_failsOnly {P : ReadError → Prop} (hmodel : ∀ e, P (.model e)) (h : FailsOnly P r) :
    FailsOnly P (within path r) := by
  unfold within
  split
  · exact .error (hmodel _)
  · exact h

theorem unit_of_within {e : ModelError} (h : within path r = .error (.model e)) :
    e.unit = some path := by
  unfold within at h
  split at h
  · cases h
    rfl
  · rename_i hother
    exact absurd h (hother e)

end Within

theorem integer_expected {m : Entries} {n : Value} (hn : m.Asks n) :
    FailsOnly (Expected m) (integer n) :=
  integer_failsOnly (Expected.model m) fun h => Or.inr (.infinite hn h)

theorem lineLengths_expected (m : Entries) : FailsOnly (Expected m) (lineLengths m) := by
  have hmodel := Expected.model m
  unfold lineLengths
  split
  · rename_i l hl
    apply FailsOnly.bind (items_failsOnly hmodel l)
    intro ns hns
    exact .mapM fun n hn => integer_expected (.length hl hns hn)
  · rename_i hlengths
    split
    · apply (textOfValue_failsOnly hmodel _).seq
      intro text
      exact .ok _
    · rename_i hsource
      split
      · rename_i count hcount
        have hlines : m.CountsLines count := ⟨hlengths, hsource, hcount⟩
        apply FailsOnly.seq
        · unfold optional
          cases hwidth : m.get? "line_width" with
          | none => exact .ok _
          | some n => exact integer_expected (.width hlines hwidth)
        · intro width
          apply FailsOnly.bind (integer_expected (.count hlines))
          intro n hn
          apply uniformLines_failsOnly
          · exact fun h => Or.inr (.count hlines (integer_eq hn) h)
          · exact fun h => Or.inr (.lines hlines (integer_eq hn) h)
      · exact .error (hmodel _)

end Reading

namespace SourceUnit
open Reading

theorem packageOf_failsOnly {P : ReadError → Prop} (hmodel : ∀ cause, P (.model cause))
    (m : Entries) : FailsOnly P (packageOf m) := by
  unfold packageOf
  dsimp only
  split
  · exact textOfValue_failsOnly hmodel _
  · exact .ok _

theorem ofEntries_expected (path : String) (m : Entries) :
    FailsOnly (Expected m) (ofEntries path m) := by
  have hmodel := Expected.model m
  have hparts (q : Entries) (hq : m.Holds q) : Covers (Expected m) q :=
    ⟨hmodel, fun n hn hinf => Or.inr (.infinite (.corner hq hn) hinf)⟩
  apply within_failsOnly hmodel
  apply (packageOf_failsOnly hmodel m).seq
  intro package
  apply (lineLengths_expected m).seq
  intro lineLengths
  apply itemsUnder_failsOnly hmodel hparts (by decide)
  · intro v hv
    exact importEntry_failsOnly hmodel hv
  intro imports
  apply itemsUnder_failsOnly hmodel hparts (by decide)
  · intro v hv
    exact directive_failsOnly hmodel hv
  intro suppressions
  apply (items_failsOnly hmodel _).bind
  intro vs hvs
  rw [declarations_eq_mapM]
  apply FailsOnly.seq
  · apply FailsOnly.mapM
    intro v hv
    apply declaration_failsOnly hmodel [] v
    · intro q hq
      exact hparts q (.item (by decide) hvs hv hq)
    · exact fun h => Or.inr (.circular hvs hv h)
  intro declarations
  exact .ok _

/-- The path of a unit is the one it is read under, and its lines and declarations are those of its
entries. -/
theorem ofEntries_parts {path : String} {m : Entries} {unit : SourceUnit}
    (h : ofEntries path m = .ok unit) :
    unit.path = path ∧ Reading.lineLengths m = .ok unit.lineLengths ∧
      ∃ vs, itemsUnder m "declarations" = .ok vs ∧
        Reading.declarations [] vs = .ok unit.declarations := by
  obtain ⟨_, _, h⟩ := bind_ok (within_eq_ok_iff.mp h)
  obtain ⟨lengths, hlengths, h⟩ := bind_ok h
  obtain ⟨_, _, h⟩ := bind_ok h
  obtain ⟨_, _, h⟩ := bind_ok h
  obtain ⟨_, _, h⟩ := bind_ok h
  obtain ⟨_, _, h⟩ := bind_ok h
  obtain ⟨vs, hvs, h⟩ := bind_ok h
  obtain ⟨declarations, hdeclarations, h⟩ := bind_ok h
  cases h
  exact ⟨rfl, hlengths, vs, hvs, hdeclarations⟩

/-- What a mapping gives under a path. -/
theorem ofEntries_cases (path : String) (m : Entries) :
    (∃ unit, ofEntries path m = .ok unit ∧ unit.path = path) ∨
      (∃ e, ofEntries path m = .error (.model e) ∧ e.unit = some path) ∨
      ∃ e, m.Unmanageable e ∧ ofEntries path m = .error e := by
  cases h : ofEntries path m with
  | ok unit => exact Or.inl ⟨unit, rfl, (ofEntries_parts h).1⟩
  | error e =>
    rcases ofEntries_expected path m e h with ⟨cause, rfl⟩ | he
    · exact Or.inr (Or.inl ⟨cause, rfl, unit_of_within h⟩)
    · exact Or.inr (Or.inr ⟨e, he, rfl⟩)

/-- What a document gives: a unit with its path, or a model error that names its path; or it is a
mapping that cannot be managed, and the error says why. -/
theorem ofDocument_cases (v : Value) :
    (∃ unit, ofDocument v = .ok unit ∧ v.unitPath? = some unit.path) ∨
      (∃ e, ofDocument v = .error (.model e) ∧ e.unit = v.unitPath? ∧
        ∀ m, v.bare = .map m → ∃ path, pathOf m = .ok path ∧ e.unit = some path) ∨
      ∃ (m : Entries) (e : ReadError), v.bare = .map m ∧ m.Unmanageable e ∧
        ofDocument v = .error e := by
  unfold ofDocument Value.unitPath?
  split
  · rename_i m hm
    cases hpath : pathOf m with
    | error cause => exact Or.inr (Or.inr ⟨m, _, hm, .path hpath, rfl⟩)
    | ok path =>
      rcases ofEntries_cases path m with
        ⟨unit, hunit, rfl⟩ | ⟨e, herror, hnamed⟩ | ⟨e, he, herror⟩
      · exact Or.inl ⟨unit, hunit, rfl⟩
      · refine Or.inr (Or.inl ⟨e, herror, hnamed, fun m' hm' => ?_⟩)
        cases hm.symm.trans hm'
        exact ⟨path, hpath, hnamed⟩
      · exact Or.inr (Or.inr ⟨m, e, hm, he, herror⟩)
  · rename_i hforeign
    exact Or.inr (Or.inl ⟨_, rfl, rfl, fun m hm => absurd hm (hforeign m)⟩)

end SourceUnit

end Conformance
