import Conformance.Proofs.RegistryRules
import Mathlib.Data.List.TakeWhile

/-!
# What can be written

Only integers with too many digits cannot be written. So the literal form of a value exists if every
integer inside of it is short, and a message is filled if its fields are plain names whose values
can be written.
-/

namespace Conformance

theorem mapM_ok_iff {ε α β : Type} {f : α → Except ε β} {xs : List α} :
    (∃ ys, xs.mapM f = .ok ys) ↔ ∀ x ∈ xs, ∃ y, f x = .ok y := by
  induction xs with
  | nil => exact iff_of_true ⟨[], rfl⟩ nofun
  | cons x rest ih =>
    rw [List.forall_mem_cons, ← ih, List.mapM_cons]
    constructor
    · rintro ⟨_, h⟩
      obtain ⟨y, hy, h⟩ := bind_ok h
      obtain ⟨ys, hys, _⟩ := bind_ok h
      exact ⟨⟨y, hy⟩, ys, hys⟩
    · rintro ⟨⟨y, hy⟩, ys, hys⟩
      rw [hy, hys]
      exact ⟨_, rfl⟩

theorem exists_of_mem_mapM {ε α β : Type} {f : α → Except ε β} {xs : List α} {ys : List β}
    (h : xs.mapM f = .ok ys) {y : β} (hy : y ∈ ys) : ∃ x ∈ xs, f x = .ok y := by
  induction xs generalizing ys with
  | nil =>
    cases h
    cases hy
  | cons x rest ih =>
    rw [List.mapM_cons] at h
    obtain ⟨first, hfirst, h⟩ := bind_ok h
    obtain ⟨others, hothers, h⟩ := bind_ok h
    cases h
    rcases List.mem_cons.mp hy with rfl | hy
    · exact ⟨x, List.mem_cons_self, hfirst⟩
    · obtain ⟨x', hx', hf⟩ := ih hothers hy
      exact ⟨x', List.mem_cons_of_mem x hx', hf⟩

/-- An integer that has few enough digits to be written. -/
def IsShort (n : Int) : Prop := n.natAbs < Decimal.tenTo digitLimit

theorem isShort_of_lt {n : Int} (h : n.natAbs < 100) : IsShort n :=
  Nat.lt_of_lt_of_le h (by decide +kernel : 100 ≤ Decimal.tenTo digitLimit)

theorem integerText_ok_iff {n : Int} : (∃ text, integerText n = .ok text) ↔ IsShort n := by
  unfold integerText
  split
  · rename_i h
    exact iff_of_true ⟨_, rfl⟩ h
  · rename_i h
    exact iff_of_false nofun h

theorem ModelError.written_ok_iff {e : ModelError} :
    (∃ detail, e.written = .ok detail) ↔ ∀ n ∈ e.integers, IsShort n := by
  simp only [← integerText_ok_iff, ← mapM_ok_iff, written]
  cases e.integers.mapM integerText with
  | ok texts => exact iff_of_true ⟨_, rfl⟩ ⟨_, rfl⟩
  | error cause => exact iff_of_false nofun nofun

namespace Value

mutual

/-- The integers in a value, however deep. -/
def integers : Value → List Int
  | int n => [n]
  | list items => itemIntegers items
  | tuple items => itemIntegers items
  | set items => itemIntegers items
  | map entries => entryIntegers entries
  | knot _ v => integers v
  | _ => []

def itemIntegers : List Value → List Int
  | [] => []
  | v :: rest => integers v ++ itemIntegers rest

def entryIntegers : List (Value × Value) → List Int
  | [] => []
  | (key, value) :: rest => integers key ++ integers value ++ entryIntegers rest

end

mutual

theorem literalWithin_ok (met : List Nat) : (v : Value) → (∀ n ∈ v.integers, IsShort n) →
    ∃ text, v.literalWithin met = .ok text
  | null, _ => ⟨_, rfl⟩
  | bool _, _ => ⟨_, rfl⟩
  | int n, h => integerText_ok_iff.mpr (h n (List.mem_singleton_self n))
  | float _, _ => ⟨_, rfl⟩
  | nan _, _ => ⟨_, rfl⟩
  | str _, _ => ⟨_, rfl⟩
  | bytes _, _ => ⟨_, rfl⟩
  | date _, _ => ⟨_, rfl⟩
  | moment _, _ => ⟨_, rfl⟩
  | list items, h => by
    obtain ⟨texts, htexts⟩ := itemLiterals_ok met items h
    rw [literalWithin, htexts]
    exact ⟨_, rfl⟩
  | tuple items, h => by
    obtain ⟨texts, htexts⟩ := itemLiterals_ok met items h
    rw [literalWithin, htexts]
    match texts with
    | [] => exact ⟨_, rfl⟩
    | [_] => exact ⟨_, rfl⟩
    | _ :: _ :: _ => exact ⟨_, rfl⟩
  | set items, h => by
    obtain ⟨texts, htexts⟩ := itemLiterals_ok met items h
    rw [literalWithin, htexts]
    match texts with
    | [] => exact ⟨_, rfl⟩
    | _ :: _ => exact ⟨_, rfl⟩
  | map entries, h => by
    obtain ⟨texts, htexts⟩ := entryLiterals_ok met entries h
    rw [literalWithin, htexts]
    exact ⟨_, rfl⟩
  | knot name v, h => by
    rw [literalWithin]
    split
    · exact ⟨_, rfl⟩
    · exact literalWithin_ok (name :: met) v h

theorem itemLiterals_ok (met : List Nat) : (items : List Value) →
    (∀ n ∈ itemIntegers items, IsShort n) → ∃ texts, itemLiterals met items = .ok texts
  | [], _ => ⟨_, rfl⟩
  | v :: rest, h => by
    obtain ⟨hv, hrest⟩ := List.forall_mem_append.mp h
    obtain ⟨text, htext⟩ := literalWithin_ok met v hv
    obtain ⟨texts, htexts⟩ := itemLiterals_ok met rest hrest
    rw [itemLiterals, htext, htexts]
    exact ⟨_, rfl⟩

theorem entryLiterals_ok (met : List Nat) : (entries : List (Value × Value)) →
    (∀ n ∈ entryIntegers entries, IsShort n) → ∃ texts, entryLiterals met entries = .ok texts
  | [], _ => ⟨_, rfl⟩
  | (key, value) :: rest, h => by
    obtain ⟨hentry, hrest⟩ := List.forall_mem_append.mp h
    obtain ⟨hkey, hvalue⟩ := List.forall_mem_append.mp hentry
    obtain ⟨first, hfirst⟩ := literalWithin_ok met key hkey
    obtain ⟨second, hsecond⟩ := literalWithin_ok met value hvalue
    obtain ⟨texts, htexts⟩ := entryLiterals_ok met rest hrest
    rw [entryLiterals, hfirst, hsecond, htexts]
    exact ⟨_, rfl⟩

end

theorem text_ok {v : Value} (h : ∀ n ∈ v.integers, IsShort n) : ∃ text, v.text = .ok text := by
  cases v with
  | str s => exact ⟨s, rfl⟩
  | date d => exact ⟨_, rfl⟩
  | moment m => exact ⟨_, rfl⟩
  | _ => exact literalWithin_ok [] _ h

theorem written_ok {v : Value} (h : ∀ n ∈ v.integers, IsShort n) :
    ∃ text, v.written = .ok text := by
  obtain ⟨text, htext⟩ := text_ok h
  rw [written, htext]
  exact ⟨text, rfl⟩

end Value

namespace Template

/-- A field that is a name, with no accessor, conversion or format. -/
def Field.isPlain (f : Field) : Bool :=
  !f.path.isEmpty && (f.path.all fun c => c != '.' && c != '[') && f.conversion.isNone &&
    f.format.isEmpty && match indexNumber? f.path with
      | .ok none => true
      | _ => false

/-- Whether a template of these characters has no defect and its fields are plain names of the
list. -/
def usesOnly (cs : List Char) (names : List String) : Bool :=
  let parsed := parseChars (cs.length + 1) cs
  parsed.defect.isNone && parsed.segments.all fun
    | .literal _ => true
    | .field f => f.isPlain && names.contains (String.ofList f.path)

/-- The name has a value that can be written. -/
def Supplied (fields : Fields) (name : String) : Prop :=
  ∃ v text, fields.lookup name = some v ∧ v.text = .ok text

section Fields
variable {fields : Fields} {f : Field}

theorem resolve_plain (plain : f.isPlain = true) {v : Value}
    (h : fields.lookup (String.ofList f.path) = some v) :
    resolve fields f.path = .ok (.value v) := by
  simp only [Field.isPlain, Bool.and_eq_true, Bool.not_eq_true'] at plain
  obtain ⟨⟨⟨⟨hpath, hname⟩, _⟩, _⟩, hnumber⟩ := plain
  have hbase : (f.path.takeWhile fun c => c != '.' && c != '[') = f.path :=
    List.takeWhile_eq_self_iff.mpr (List.all_eq_true.mp hname)
  split at hnumber
  · rename_i hindex
    rw [resolve, hbase, hindex, List.drop_length]
    simp only [hpath, h]
    rfl
  · cases hnumber

/-- The text that a segment becomes. -/
def fill (fields : Fields) (depth : Nat) : Segment → Except Fault String
  | .literal text => .ok (String.ofList text)
  | .field f => do
    let t ← convert (← resolve fields f.path) f.conversion
    let format ←
      if f.format.contains '\x7b' then do pure (← renderChars fields depth f.format).toList
      else pure f.format
    layOutThing t format

theorem render_ofList (cs : List Char) :
    render (String.ofList cs) fields = (do
      let parts ← (parseChars (cs.length + 1) cs).segments.mapM (fill fields 1)
      match (parseChars (cs.length + 1) cs).defect with
      | some d => .error (.badTemplate d)
      | none => return String.join parts) := by
  rw [render, String.toList_ofList, renderChars]
  rfl

theorem fill_plain {depth : Nat} (plain : f.isPlain = true) {v : Value} {text : String}
    (hlookup : fields.lookup (String.ofList f.path) = some v) (htext : v.text = .ok text) :
    fill fields depth (.field f) = .ok text := by
  rw [fill, resolve_plain plain hlookup]
  simp only [Field.isPlain, Bool.and_eq_true, Option.isNone_iff_eq_none, List.isEmpty_iff] at plain
  obtain ⟨⟨⟨_, hconversion⟩, hformat⟩, _⟩ := plain
  rw [hconversion, hformat]
  change written v.text = _
  rw [htext]
  rfl

/-- A message is filled if it uses only names whose values can be written. -/
theorem render_ok {cs : List Char} {names : List String} (uses : usesOnly cs names = true)
    (supplied : ∀ name ∈ names, Supplied fields name) :
    ∃ text, render (String.ofList cs) fields = .ok text := by
  simp only [usesOnly, Bool.and_eq_true, Option.isNone_iff_eq_none, List.all_eq_true] at uses
  obtain ⟨hdefect, hsegments⟩ := uses
  have hfill : ∀ segment ∈ (parseChars (cs.length + 1) cs).segments,
      ∃ text, fill fields 1 segment = .ok text := by
    intro segment hsegment
    have huses := hsegments segment hsegment
    cases segment with
    | literal text => exact ⟨_, rfl⟩
    | field f =>
      simp only [Bool.and_eq_true, List.contains_iff_mem] at huses
      obtain ⟨v, text, hlookup, htext⟩ := supplied _ huses.2
      exact ⟨text, fill_plain huses.1 hlookup htext⟩
  obtain ⟨parts, hparts⟩ := mapM_ok_iff.mpr hfill
  rw [render_ofList, hparts, hdefect]
  exact ⟨_, rfl⟩

end Fields

end Template

end Conformance
