import Conformance.Proofs.Writing
import Mathlib.Data.String.Basic
import Mathlib.Data.Int.Order.Basic

/-!
# Values that are equal to themselves

Comparing a value with itself gives no for a value that is no number, and has no end for one that
holds itself. All other values that documents have are equal to themselves. Values that differ only
in the marks of what is no number are written alike.
-/

namespace Conformance

theorem Moment.sameInstant_self (m : Moment) : m.sameInstant m = true := by
  unfold sameInstant
  cases m.offset <;> simp

namespace Value

/-- Induction over a value and all that it holds. -/
@[elab_as_elim]
theorem nestedInduction {motive : Value → Prop} (null : motive null)
    (bool : ∀ b, motive (bool b)) (int : ∀ n, motive (int n)) (float : ∀ x, motive (float x))
    (nan : ∀ mark, motive (nan mark)) (str : ∀ s, motive (str s))
    (bytes : ∀ bs, motive (bytes bs)) (date : ∀ d, motive (date d))
    (moment : ∀ m, motive (moment m))
    (list : ∀ items, (∀ v ∈ items, motive v) → motive (list items))
    (tuple : ∀ items, (∀ v ∈ items, motive v) → motive (tuple items))
    (set : ∀ items, (∀ v ∈ items, motive v) → motive (set items))
    (map : ∀ entries : Entries, (∀ e ∈ entries, motive e.1 ∧ motive e.2) → motive (map entries))
    (knot : ∀ name v, motive v → motive (knot name v)) (v : Value) : motive v :=
  @Value.rec motive (fun items => ∀ v ∈ items, motive v)
    (fun entries => ∀ e ∈ entries, motive e.1 ∧ motive e.2) (fun e => motive e.1 ∧ motive e.2)
    null bool int float nan str bytes date moment list tuple set map knot
    (List.forall_mem_nil _) (fun _ _ hv hrest => List.forall_mem_cons.mpr ⟨hv, hrest⟩)
    (List.forall_mem_nil _) (fun _ _ he hrest => List.forall_mem_cons.mpr ⟨he, hrest⟩)
    (fun _ _ hkey hvalue => ⟨hkey, hvalue⟩) v

/-! ### Parts -/

mutual

/-- The value and all that it holds, however deep. -/
def parts : Value → List Value
  | list items => list items :: itemParts items
  | tuple items => tuple items :: itemParts items
  | set items => set items :: itemParts items
  | map entries => map entries :: entryParts entries
  | knot name v => knot name v :: parts v
  | v => [v]

def itemParts : List Value → List Value
  | [] => []
  | v :: rest => parts v ++ itemParts rest

def entryParts : List (Value × Value) → List Value
  | [] => []
  | (key, value) :: rest => parts key ++ parts value ++ entryParts rest

end

theorem mem_itemParts {p : Value} {items : List Value} :
    p ∈ itemParts items ↔ ∃ v ∈ items, p ∈ v.parts := by
  induction items with
  | nil => simp [itemParts]
  | cons v rest ih => simp [itemParts, ih]

theorem mem_entryParts {p : Value} {entries : Entries} :
    p ∈ entryParts entries ↔ ∃ e ∈ entries, p ∈ e.1.parts ∨ p ∈ e.2.parts := by
  induction entries with
  | nil => simp [entryParts]
  | cons e rest ih =>
    obtain ⟨key, value⟩ := e
    simp [entryParts, ih, or_assoc]

theorem mem_parts_self (v : Value) : v ∈ v.parts := by
  cases v <;> simp [parts]

section Subset
variable {v : Value} {items : List Value} {e : Value × Value} {entries : Entries}

theorem parts_subset_list (h : v ∈ items) : v.parts ⊆ (list items).parts := fun _ hp =>
  List.mem_cons_of_mem _ (mem_itemParts.mpr ⟨v, h, hp⟩)

theorem parts_subset_tuple (h : v ∈ items) : v.parts ⊆ (tuple items).parts := fun _ hp =>
  List.mem_cons_of_mem _ (mem_itemParts.mpr ⟨v, h, hp⟩)

theorem parts_subset_set (h : v ∈ items) : v.parts ⊆ (set items).parts := fun _ hp =>
  List.mem_cons_of_mem _ (mem_itemParts.mpr ⟨v, h, hp⟩)

theorem parts_subset_key (h : e ∈ entries) : e.1.parts ⊆ (map entries).parts := fun _ hp =>
  List.mem_cons_of_mem _ (mem_entryParts.mpr ⟨e, h, .inl hp⟩)

theorem parts_subset_value (h : e ∈ entries) : e.2.parts ⊆ (map entries).parts := fun _ hp =>
  List.mem_cons_of_mem _ (mem_entryParts.mpr ⟨e, h, .inr hp⟩)

theorem parts_subset_knot (name : Nat) (v : Value) : v.parts ⊆ (knot name v).parts :=
  List.subset_cons_self _ _

end Subset

/-! ### Marks -/

mutual

/-- The value with all that is no number under one mark. -/
def unmarked : Value → Value
  | nan _ => nan 0
  | list items => list (unmarkedItems items)
  | tuple items => tuple (unmarkedItems items)
  | set items => set (unmarkedItems items)
  | map entries => map (unmarkedEntries entries)
  | knot name v => knot name (unmarked v)
  | v => v

def unmarkedItems : List Value → List Value
  | [] => []
  | v :: rest => unmarked v :: unmarkedItems rest

def unmarkedEntries : List (Value × Value) → List (Value × Value)
  | [] => []
  | (key, value) :: rest => (unmarked key, unmarked value) :: unmarkedEntries rest

end

section Items
variable {items : List Value}

theorem itemParts_unmarked (h : ∀ v ∈ items, v.unmarked.parts = v.parts.map unmarked) :
    itemParts (unmarkedItems items) = (itemParts items).map unmarked := by
  induction items with
  | nil => rfl
  | cons v rest ih =>
    obtain ⟨hv, hrest⟩ := List.forall_mem_cons.mp h
    rw [unmarkedItems, itemParts, itemParts, hv, ih hrest, List.map_append]

theorem itemLiterals_unmarked {met : List Nat}
    (h : ∀ v ∈ items, v.unmarked.literalWithin met = v.literalWithin met) :
    itemLiterals met (unmarkedItems items) = itemLiterals met items := by
  induction items with
  | nil => rfl
  | cons v rest ih =>
    obtain ⟨hv, hrest⟩ := List.forall_mem_cons.mp h
    rw [unmarkedItems, itemLiterals, itemLiterals, hv, ih hrest]

theorem unmarkedItems_eq_self (h : ∀ v ∈ items, v.unmarked = v) : unmarkedItems items = items := by
  induction items with
  | nil => rfl
  | cons v rest ih =>
    obtain ⟨hv, hrest⟩ := List.forall_mem_cons.mp h
    rw [unmarkedItems, hv, ih hrest]

end Items

section Entries
variable {entries : Entries}

theorem entryParts_unmarked
    (h : ∀ e ∈ entries, e.1.unmarked.parts = e.1.parts.map unmarked ∧
      e.2.unmarked.parts = e.2.parts.map unmarked) :
    entryParts (unmarkedEntries entries) = (entryParts entries).map unmarked := by
  induction entries with
  | nil => rfl
  | cons e rest ih =>
    obtain ⟨⟨hkey, hvalue⟩, hrest⟩ := List.forall_mem_cons.mp h
    obtain ⟨key, value⟩ := e
    rw [unmarkedEntries, entryParts, entryParts, hkey, hvalue, ih hrest, List.map_append,
      List.map_append]

theorem entryLiterals_unmarked {met : List Nat}
    (h : ∀ e ∈ entries, e.1.unmarked.literalWithin met = e.1.literalWithin met ∧
      e.2.unmarked.literalWithin met = e.2.literalWithin met) :
    entryLiterals met (unmarkedEntries entries) = entryLiterals met entries := by
  induction entries with
  | nil => rfl
  | cons e rest ih =>
    obtain ⟨⟨hkey, hvalue⟩, hrest⟩ := List.forall_mem_cons.mp h
    obtain ⟨key, value⟩ := e
    rw [unmarkedEntries, entryLiterals, entryLiterals, hkey, hvalue, ih hrest]

theorem unmarkedEntries_eq_self (h : ∀ e ∈ entries, e.1.unmarked = e.1 ∧ e.2.unmarked = e.2) :
    unmarkedEntries entries = entries := by
  induction entries with
  | nil => rfl
  | cons e rest ih =>
    obtain ⟨⟨hkey, hvalue⟩, hrest⟩ := List.forall_mem_cons.mp h
    obtain ⟨key, value⟩ := e
    rw [unmarkedEntries, hkey, hvalue, ih hrest]

end Entries

theorem parts_unmarked (v : Value) : v.unmarked.parts = v.parts.map unmarked := by
  induction v using nestedInduction with
  | list items ih => rw [unmarked, parts, itemParts_unmarked ih, parts, List.map_cons, unmarked]
  | tuple items ih => rw [unmarked, parts, itemParts_unmarked ih, parts, List.map_cons, unmarked]
  | set items ih => rw [unmarked, parts, itemParts_unmarked ih, parts, List.map_cons, unmarked]
  | map entries ih => rw [unmarked, parts, entryParts_unmarked ih, parts, List.map_cons, unmarked]
  | knot name v ih => rw [unmarked, parts, ih, parts, List.map_cons, unmarked]
  | _ => rfl

theorem ellipsis_unmarked (v : Value) : v.unmarked.ellipsis = v.ellipsis := by
  cases v <;> rfl

theorem literalWithin_unmarked (v : Value) (met : List Nat) :
    v.unmarked.literalWithin met = v.literalWithin met := by
  induction v using nestedInduction generalizing met with
  | list items ih =>
    rw [unmarked, literalWithin, itemLiterals_unmarked fun v hv => ih v hv met, literalWithin]
  | tuple items ih =>
    rw [unmarked, literalWithin, itemLiterals_unmarked fun v hv => ih v hv met, literalWithin]
  | set items ih =>
    rw [unmarked, literalWithin, itemLiterals_unmarked fun v hv => ih v hv met, literalWithin]
  | map entries ih =>
    rw [unmarked, literalWithin,
      entryLiterals_unmarked fun e he => ⟨(ih e he).1 met, (ih e he).2 met⟩, literalWithin]
  | knot name v ih => rw [unmarked, literalWithin, ellipsis_unmarked, ih, literalWithin]
  | _ => rfl

theorem text_unmarked (v : Value) : v.unmarked.text = v.text := by
  cases v with
  | list items => exact literalWithin_unmarked (list items) []
  | tuple items => exact literalWithin_unmarked (tuple items) []
  | set items => exact literalWithin_unmarked (set items) []
  | map entries => exact literalWithin_unmarked (map entries) []
  | knot name v => exact literalWithin_unmarked (knot name v) []
  | _ => rfl

/-- A value with numbers only has no marks to lose. -/
theorem unmarked_eq_self (v : Value) (h : ∀ mark, nan mark ∉ v.parts) : v.unmarked = v := by
  have hsub {u w : Value} (hparts : u.parts ⊆ w.parts) (hw : ∀ mark, nan mark ∉ w.parts) :
      ∀ mark, nan mark ∉ u.parts := fun mark hmem => hw mark (hparts hmem)
  induction v using nestedInduction with
  | nan mark => exact absurd (mem_parts_self _) (h mark)
  | list items ih =>
    rw [unmarked, unmarkedItems_eq_self fun v hv => ih v hv (hsub (parts_subset_list hv) h)]
  | tuple items ih =>
    rw [unmarked, unmarkedItems_eq_self fun v hv => ih v hv (hsub (parts_subset_tuple hv) h)]
  | set items ih =>
    rw [unmarked, unmarkedItems_eq_self fun v hv => ih v hv (hsub (parts_subset_set hv) h)]
  | map entries ih =>
    rw [unmarked, unmarkedEntries_eq_self fun e he =>
      ⟨(ih e he).1 (hsub (parts_subset_key he) h), (ih e he).2 (hsub (parts_subset_value he) h)⟩]
  | knot name v ih => rw [unmarked, ih (hsub (parts_subset_knot name v) h)]
  | _ => rfl

/-! ### Comparing -/

/-- The value does not hold itself, nor does anything in it. -/
def IsUntied (v : Value) : Prop := ∀ name w, knot name w ∉ v.parts

theorem IsUntied.of_parts {v w : Value} (h : v.IsUntied) (hparts : w.parts ⊆ v.parts) :
    w.IsUntied := fun name u hmem => h name u (hparts hmem)

/-- The value is made of numbers that are numbers, and every item and entry in it is found where it
is looked for. -/
structure IsExact (v : Value) : Prop where
  untied : v.IsUntied
  unmarked : ∀ mark, nan mark ∉ v.parts
  numbers : ∀ x, float x ∈ v.parts → (x == x) = true
  items : ∀ xs, set xs ∈ v.parts → ∀ x ∈ xs, x.sameKey x = true
  entries : ∀ es, map es ∈ v.parts → ∀ e ∈ es,
    List.find? (fun other => e.1.sameKey other.1) es = some e

theorem IsExact.of_parts {v w : Value} (h : v.IsExact) (hparts : w.parts ⊆ v.parts) :
    w.IsExact where
  untied := h.untied.of_parts hparts
  unmarked mark hmem := h.unmarked mark (hparts hmem)
  numbers x hmem := h.numbers x (hparts hmem)
  items xs hmem := h.items xs (hparts hmem)
  entries es hmem := h.entries es (hparts hmem)

section Comparing
variable {met : List (Nat × Nat)}

theorem equalItems_ok {xs : List Value} (h : ∀ x ∈ xs, ∀ y, ∃ b, equal met x y = .ok b)
    (ys : List Value) : ∃ b, equalItems met xs ys = .ok b := by
  induction xs generalizing ys with
  | nil => exact ⟨true, by simp [equalItems]⟩
  | cons x rest ih =>
    obtain ⟨hx, hrest⟩ := List.forall_mem_cons.mp h
    cases ys with
    | nil => exact ⟨true, by simp [equalItems]⟩
    | cons y ys =>
      obtain ⟨b, hb⟩ := hx y
      rw [equalItems, hb]
      cases b with
      | true => exact ih hrest ys
      | false => exact ⟨false, rfl⟩

theorem equalEntries_ok {entries : List (Value × Value)}
    (h : ∀ e ∈ entries, ∀ w, ∃ b, equal met e.2 w = .ok b) (others : List (Value × Value)) :
    ∃ b, equalEntries met entries others = .ok b := by
  induction entries with
  | nil => exact ⟨true, by rw [equalEntries]⟩
  | cons e rest ih =>
    obtain ⟨he, hrest⟩ := List.forall_mem_cons.mp h
    obtain ⟨key, value⟩ := e
    rw [equalEntries]
    cases others.find? fun other => key.sameKey other.1 with
    | none => exact ⟨false, rfl⟩
    | some other =>
      obtain ⟨b, hb⟩ := he other.2
      dsimp only at hb ⊢
      rw [hb]
      cases b with
      | true => exact ih hrest
      | false => exact ⟨false, rfl⟩

theorem equalItems_self {xs : List Value} (h : ∀ x ∈ xs, equal met x x = .ok true) :
    equalItems met xs xs = .ok true := by
  induction xs with
  | nil => simp [equalItems]
  | cons x rest ih =>
    obtain ⟨hx, hrest⟩ := List.forall_mem_cons.mp h
    rw [equalItems, hx]
    exact ih hrest

theorem equalEntries_self {entries others : List (Value × Value)}
    (h : ∀ e ∈ entries, equal met e.2 e.2 = .ok true)
    (found : ∀ e ∈ entries, others.find? (fun other => e.1.sameKey other.1) = some e) :
    equalEntries met entries others = .ok true := by
  induction entries with
  | nil => rw [equalEntries]
  | cons e rest ih =>
    obtain ⟨he, hrest⟩ := List.forall_mem_cons.mp h
    obtain ⟨hfound, hothers⟩ := List.forall_mem_cons.mp found
    obtain ⟨key, value⟩ := e
    rw [equalEntries, hfound]
    dsimp only at he ⊢
    rw [he]
    exact ih hrest hothers

end Comparing

/-- Comparing ends if the left side does not hold itself. -/
theorem equal_ok (met : List (Nat × Nat)) (v : Value) (h : v.IsUntied) (w : Value) :
    ∃ b, equal met v w = .ok b := by
  induction v using nestedInduction generalizing w with
  | knot name v ih => exact absurd (mem_parts_self _) (h name v)
  | list items ih =>
    rw [equal]
    split
    · split
      · exact equalItems_ok (fun v hv => ih v hv (h.of_parts (parts_subset_list hv))) _
      · exact ⟨false, rfl⟩
    · exact ⟨false, rfl⟩
  | tuple items ih =>
    rw [equal]
    split
    · split
      · exact equalItems_ok (fun v hv => ih v hv (h.of_parts (parts_subset_tuple hv))) _
      · exact ⟨false, rfl⟩
    · exact ⟨false, rfl⟩
  | set items ih =>
    rw [equal]
    split
    · exact ⟨_, rfl⟩
    · exact ⟨false, rfl⟩
  | map entries ih =>
    rw [equal]
    split
    · split
      · exact equalEntries_ok (fun e he => (ih e he).2 (h.of_parts (parts_subset_value he))) _
      · exact ⟨false, rfl⟩
    · exact ⟨false, rfl⟩
  | _ =>
    simp only [equal]
    exact ⟨_, rfl⟩

theorem equal_self (met : List (Nat × Nat)) (v : Value) (h : v.IsExact) :
    equal met v v = .ok true := by
  induction v using nestedInduction with
  | knot name v ih => exact absurd (mem_parts_self _) (h.untied name v)
  | nan mark => exact absurd (mem_parts_self _) (h.unmarked mark)
  | float x =>
    have hx := h.numbers x (mem_parts_self _)
    simp only [equal, bare, sameScalar, hx]
  | list items ih =>
    simp only [equal, bare, BEq.rfl, if_true]
    exact equalItems_self fun v hv => ih v hv (h.of_parts (parts_subset_list hv))
  | tuple items ih =>
    simp only [equal, bare, BEq.rfl, if_true]
    exact equalItems_self fun v hv => ih v hv (h.of_parts (parts_subset_tuple hv))
  | set items ih =>
    have hitems : (items.all fun x => items.any x.sameKey) = true :=
      List.all_eq_true.mpr fun x hx =>
        List.any_eq_true.mpr ⟨x, hx, h.items items (mem_parts_self _) x hx⟩
    simp only [equal, bare, BEq.rfl, hitems, Bool.and_self]
  | map entries ih =>
    simp only [equal, bare, BEq.rfl, if_true]
    exact equalEntries_self (fun e he => (ih e he).2 (h.of_parts (parts_subset_value he)))
      (h.entries entries (mem_parts_self _))
  | moment m => simp only [equal, bare, sameScalar, m.sameInstant_self]
  | _ => simp [equal, bare, sameScalar, asInt?]

/-! ### Values up to their marks -/

section Unmarked
variable {v x : Value} (same : v.unmarked = x.unmarked)
include same

theorem text_eq_of_unmarked : v.text = x.text := by
  rw [← text_unmarked v, same, text_unmarked]

theorem exists_part_of_unmarked {p : Value} (h : p ∈ v.parts) :
    ∃ q ∈ x.parts, q.unmarked = p.unmarked := by
  have hmem : p.unmarked ∈ v.unmarked.parts := by
    rw [parts_unmarked]
    exact List.mem_map_of_mem h
  rwa [same, parts_unmarked, List.mem_map] at hmem

theorem isUntied_of_unmarked (h : x.IsUntied) : v.IsUntied := by
  intro name w hmem
  obtain ⟨q, hq, heq⟩ := exists_part_of_unmarked same hmem
  cases q with
  | knot other u => exact h other u hq
  | _ => cases heq

theorem eq_of_unmarked (h : ∀ mark, nan mark ∉ x.parts) : v = x := by
  have hv : ∀ mark, nan mark ∉ v.parts := by
    intro mark hmem
    obtain ⟨q, hq, heq⟩ := exists_part_of_unmarked same hmem
    cases q with
    | nan other => exact h other hq
    | _ => cases heq
  rw [← unmarked_eq_self v hv, same, unmarked_eq_self x h]

end Unmarked

end Value

end Conformance
