import Conformance.Proofs.DirectiveGrammar
import Conformance.Proofs.ReadErrors
import Conformance.Proofs.WellFormed
import Mathlib.Data.Int.ConditionallyCompleteOrder
import Mathlib.Order.ConditionallyCompleteLattice.Basic

/-!
# Positions and offsets

An offset is found by adding up the lines before a position, a position by taking lines off an
offset. Both are told here by the number of lines before and the number of characters before on the
line: going from one to the other and back changes nothing, and later positions have greater
offsets. If the lines are those of a text, the number of lines before is the number of line breaks
in front of the offset.
-/

namespace Conformance

namespace SourceUnit

/-! ### Places in lines -/

/-- The line after the first `n` ones has at least `i` characters. -/
def IsPlace (lengths : List Int) (n : Nat) (i : Int) : Prop :=
  ∃ length, lengths[n]? = some length ∧ 0 ≤ i ∧ i ≤ length

theorem hasPosition_iff_isPlace {u : SourceUnit} {n : Nat} {i : Int} :
    u.HasPosition ⟨n + 1, i + 1⟩ ↔ IsPlace u.lineLengths n i := by
  constructor
  · rintro ⟨m, length, hlength, hline, hlow, hhigh⟩
    simp only at hline hlow hhigh
    obtain rfl : n = m := by omega
    exact ⟨length, hlength, by omega, by omega⟩
  · rintro ⟨length, hlength, hlow, hhigh⟩
    exact ⟨n, length, hlength, rfl, by simpa using hlow, by simpa using hhigh⟩

theorem exists_isPlace {u : SourceUnit} {p : Position} (h : u.HasPosition p) :
    ∃ (n : Nat) (i : Int), p = ⟨n + 1, i + 1⟩ ∧ IsPlace u.lineLengths n i := by
  obtain ⟨n, length, hlength, hline, hlow, hhigh⟩ := h
  refine ⟨n, p.column - 1, ?_, length, hlength, by omega, by omega⟩
  cases p
  simp_all

section Lines
variable {lengths : List Int}

theorem linesSize_eq_sum (lengths : List Int) : linesSize lengths = (lengths.map (· + 1)).sum := by
  induction lengths with
  | nil => rfl
  | cons length rest ih => rw [linesSize, ih, List.map_cons, List.sum_cons]

theorem line_le_of_locate {line offset : Int} {p : Position}
    (h : locate line lengths offset = some p) : line ≤ p.line := by
  induction lengths generalizing line offset with
  | nil => cases h
  | cons length rest ih =>
    rw [locate] at h
    split at h
    · cases h
      exact Int.le_refl line
    · have := ih h
      omega

/-- Every offset below the size of the lines is in one of them. -/
theorem exists_place_of_lt {offset : Int} (low : 0 ≤ offset) (high : offset < linesSize lengths) :
    ∃ n i, IsPlace lengths n i ∧ offset = linesSize (lengths.take n) + i := by
  induction lengths generalizing offset with
  | nil =>
    simp only [linesSize] at high
    omega
  | cons length rest ih =>
    simp only [linesSize] at high
    by_cases hfirst : offset ≤ length
    · exact ⟨0, offset, ⟨length, rfl, low, hfirst⟩, by simp [linesSize]⟩
    · have hlow : 0 ≤ offset - (length + 1) := by omega
      have hhigh : offset - (length + 1) < linesSize rest := by omega
      obtain ⟨n, i, ⟨l, hl, hi⟩, heq⟩ := ih hlow hhigh
      refine ⟨n + 1, i, ⟨l, hl, hi⟩, ?_⟩
      rw [List.take_succ_cons, linesSize]
      omega

variable (nonneg : ∀ length ∈ lengths, 0 ≤ length)
include nonneg

theorem linesSize_nonneg : 0 ≤ linesSize lengths := by
  induction lengths with
  | nil => exact Int.le_refl 0
  | cons length rest ih =>
    obtain ⟨hlength, hrest⟩ := List.forall_mem_cons.mp nonneg
    have := ih hrest
    rw [linesSize]
    omega

theorem linesSize_take_nonneg (n : Nat) : 0 ≤ linesSize (lengths.take n) :=
  linesSize_nonneg fun length h => nonneg length (List.mem_of_mem_take h)

/-- The lines before a later line hold at least the whole of an earlier one and its break. -/
theorem linesSize_take_lt {n m : Nat} {length : Int} (hn : lengths[n]? = some length) (h : n < m) :
    linesSize (lengths.take n) + length < linesSize (lengths.take m) := by
  induction lengths generalizing n m with
  | nil => simp at hn
  | cons first rest ih =>
    obtain ⟨m, rfl⟩ : ∃ k, m = k + 1 := ⟨m - 1, by omega⟩
    obtain ⟨hfirst, hrest⟩ := List.forall_mem_cons.mp nonneg
    cases n with
    | zero =>
      have hlater := linesSize_take_nonneg hrest m
      cases hn
      simp only [List.take_zero, List.take_succ_cons, linesSize]
      omega
    | succ n =>
      have := ih hrest hn (Nat.lt_of_succ_lt_succ h)
      simp only [List.take_succ_cons, linesSize]
      omega

section Place
variable {n : Nat} {i : Int} (place : IsPlace lengths n i)
include place

theorem place_lt_place {m : Nat} {j : Int} (other : IsPlace lengths m j) (h : n < m) :
    linesSize (lengths.take n) + i < linesSize (lengths.take m) + j := by
  obtain ⟨length, hlength, _, hi⟩ := place
  obtain ⟨_, _, hj, _⟩ := other
  have := linesSize_take_lt nonneg hlength h
  omega

theorem place_mem_range :
    0 ≤ linesSize (lengths.take n) + i ∧ linesSize (lengths.take n) + i < linesSize lengths := by
  obtain ⟨length, hlength, hlow, hhigh⟩ := place
  have hbefore := linesSize_take_nonneg nonneg n
  obtain ⟨hn, _⟩ := List.getElem?_eq_some_iff.mp hlength
  have hafter := linesSize_take_lt nonneg hlength hn
  rw [List.take_length] at hafter
  omega

/-- Taking lines off the offset of a place leads back to the place. -/
theorem locate_place (line : Int) :
    locate line lengths (linesSize (lengths.take n) + i) = some ⟨line + n, i + 1⟩ := by
  induction lengths generalizing n line with
  | nil =>
    obtain ⟨_, hlength, _⟩ := place
    simp at hlength
  | cons first rest ih =>
    obtain ⟨length, hlength, hlow, hhigh⟩ := place
    obtain ⟨hfirst, hrest⟩ := List.forall_mem_cons.mp nonneg
    cases n with
    | zero =>
      cases hlength
      simp [locate, linesSize, hhigh]
    | succ n =>
      have hbefore := linesSize_take_nonneg hrest n
      have hpast : ¬ first + 1 + linesSize (rest.take n) + i ≤ first := by omega
      have hoffset : first + 1 + linesSize (rest.take n) + i - (first + 1) =
          linesSize (rest.take n) + i := by omega
      have hline : line + 1 + (n : Int) = line + (n + 1 : Nat) := by omega
      rw [List.take_succ_cons, linesSize, locate, if_neg hpast, hoffset,
        ih hrest ⟨length, hlength, hlow, hhigh⟩, hline]

end Place

end Lines

section Unit
variable {u : SourceUnit} {n : Nat} {i : Int} (place : IsPlace u.lineLengths n i)
include place

theorem offsetOf_place :
    u.offsetOf ⟨n + 1, i + 1⟩ = .ok (linesSize (u.lineLengths.take n) + i) := by
  have hbounds : u.inBounds ⟨n + 1, i + 1⟩ = true :=
    inBounds_iff.mpr (hasPosition_iff_isPlace.mpr place)
  have hoffset : linesSize (u.lineLengths.take n) + (i + 1) - 1 =
      linesSize (u.lineLengths.take n) + i := by omega
  simp [offsetOf, hbounds, hoffset]

theorem positionOf_place (nonneg : ∀ length ∈ u.lineLengths, 0 ≤ length) :
    u.positionOf (linesSize (u.lineLengths.take n) + i) = .ok ⟨n + 1, i + 1⟩ := by
  have hline : (1 : Int) + n = n + 1 := by omega
  rw [positionOf, locate_place nonneg place, hline]

end Unit

end SourceUnit

/-! ### Lines of a text -/

namespace Text

/-- The number of characters after the last line break. -/
def lastLineLength (cs : List Char) : Nat := (cs.reverse.takeWhile (· != '\n')).length

theorem lastLineLength_cons_break (cs : List Char) :
    lastLineLength ('\n' :: cs) = lastLineLength cs := by
  simp only [lastLineLength, List.reverse_cons, List.takeWhile_append]
  split <;> simp_all

theorem lastLineLength_of_not_mem {cs : List Char} (h : '\n' ∉ cs) :
    lastLineLength cs = cs.length := by
  have hall : cs.reverse.takeWhile (· != '\n') = cs.reverse := by
    rw [List.takeWhile_eq_self_iff]
    intro c hc
    rw [bne_iff_ne]
    rintro rfl
    exact h (List.mem_reverse.mp hc)
  rw [lastLineLength, hall, List.length_reverse]

/-- What stands before a line break does not count. -/
theorem lastLineLength_cons_of_mem {cs : List Char} (h : '\n' ∈ cs) (c : Char) :
    lastLineLength (c :: cs) = lastLineLength cs := by
  have hshort : (cs.reverse.takeWhile (· != '\n')).length ≠ cs.reverse.length := by
    intro heq
    have hall := List.takeWhile_eq_self_iff.mp
      ((List.takeWhile_prefix (· != '\n')).eq_of_length heq) '\n' (List.mem_reverse.mpr h)
    simp at hall
  simp only [lastLineLength, List.reverse_cons, List.takeWhile_append, if_neg hshort]

/-- The position after the characters of a text. -/
def positionAfter (cs : List Char) : Position where
  line := 1 + cs.count '\n'
  column := 1 + lastLineLength cs

/-- The lengths of the lines of a text. -/
def lineLengths (cs : List Char) : List Int :=
  (splitChars '\n' cs).map fun line => (line.length : Int)

theorem lineLengths_cons_break (cs : List Char) : lineLengths ('\n' :: cs) = 0 :: lineLengths cs :=
  rfl

/-- A character that is no line break makes the first line longer by one. -/
theorem lineLengths_cons {c : Char} (hc : c ≠ '\n') (cs : List Char) :
    ∃ first rest, lineLengths cs = first :: rest ∧ 0 ≤ first ∧
      lineLengths (c :: cs) = (first + 1) :: rest := by
  have hsep : (c == '\n') = false := beq_eq_false_iff_ne.mpr hc
  simp only [lineLengths, splitChars, hsep]
  cases hpieces : splitChars '\n' cs with
  | nil => exact absurd hpieces (by rw [splitChars_eq_splitOn]; exact List.splitOnP_ne_nil _ _)
  | cons piece pieces => exact ⟨_, _, rfl, Int.natCast_nonneg _, by simp⟩

theorem lineLengths_nonneg (cs : List Char) : ∀ length ∈ lineLengths cs, 0 ≤ length := by
  simp [lineLengths]

theorem linesSize_lineLengths (cs : List Char) :
    SourceUnit.linesSize (lineLengths cs) = cs.length + 1 := by
  induction cs with
  | nil => rfl
  | cons c rest ih =>
    by_cases hc : c = '\n'
    · rw [hc, lineLengths_cons_break, SourceUnit.linesSize, ih, List.length_cons]
      omega
    · obtain ⟨first, others, hrest, _, hall⟩ := lineLengths_cons hc rest
      rw [hrest, SourceUnit.linesSize] at ih
      rw [hall, SourceUnit.linesSize, List.length_cons]
      omega

theorem locate_lineLengths_zero (line : Int) (cs : List Char) :
    SourceUnit.locate line (lineLengths cs) 0 = some ⟨line, 1⟩ := by
  cases hlines : lineLengths cs with
  | nil =>
    have hsize := linesSize_lineLengths cs
    rw [hlines, SourceUnit.linesSize] at hsize
    omega
  | cons first others =>
    have hfirst : 0 ≤ first := lineLengths_nonneg cs first (by simp [hlines])
    simp [SourceUnit.locate, hfirst]

/-- Where an offset lies in the lines of a text can be told from the characters before it. -/
theorem locate_lineLengths (line : Int) {cs : List Char} {n : Nat} (h : n ≤ cs.length) :
    SourceUnit.locate line (lineLengths cs) n =
      some ⟨line + (cs.take n).count '\n', 1 + lastLineLength (cs.take n)⟩ := by
  induction cs generalizing line n with
  | nil =>
    obtain rfl : n = 0 := Nat.le_zero.mp h
    simp [lineLengths, splitChars, SourceUnit.locate, lastLineLength]
  | cons c rest ih =>
    cases n with
    | zero => simpa [lastLineLength] using locate_lineLengths_zero line (c :: rest)
    | succ n =>
      have hrest := ih line (Nat.le_of_succ_le_succ h)
      rw [List.take_succ_cons]
      by_cases hc : c = '\n'
      · have hoffset : ((n + 1 : Nat) : Int) - (0 + 1) = n := by omega
        have hline : line + 1 + ((rest.take n).count '\n' : Int) =
            line + ('\n' :: rest.take n).count '\n' := by
          rw [List.count_cons_self]
          omega
        rw [hc, lineLengths_cons_break, SourceUnit.locate, if_neg (by omega), hoffset,
          ih (line + 1) (Nat.le_of_succ_le_succ h), lastLineLength_cons_break, hline]
      · obtain ⟨first, others, hlines, _, hall⟩ := lineLengths_cons hc rest
        rw [hlines, SourceUnit.locate] at hrest
        rw [hall, SourceUnit.locate, List.count_cons_of_ne hc]
        by_cases hn : (n : Int) ≤ first
        -- The offset is still on the first line, so no line break stands before it.
        · rw [if_pos hn] at hrest
          simp only [Option.some.injEq, Position.mk.injEq] at hrest
          have hnone : (rest.take n).count '\n' = 0 := by omega
          have hmem : '\n' ∉ c :: rest.take n := by
            simpa [Ne.symm hc] using List.count_eq_zero.mp hnone
          have hlength : (rest.take n).length = n :=
            List.length_take_of_le (Nat.le_of_succ_le_succ h)
          rw [if_pos (by omega), lastLineLength_of_not_mem hmem, hnone, List.length_cons, hlength]
          congr 2 <;> omega
        · rw [if_neg hn] at hrest
          have hmem : '\n' ∈ rest.take n := by
            have := SourceUnit.line_le_of_locate hrest
            simp only at this
            exact List.count_pos_iff.mp (by omega)
          have hoffset : ((n + 1 : Nat) : Int) - (first + 1 + 1) = n - (first + 1) := by omega
          rw [if_neg (by omega), hoffset, hrest, lastLineLength_cons_of_mem hmem]

end Text

namespace SourceUnit

/-! ### Positions of a unit -/

section Positions
variable {u : SourceUnit}

theorem exists_position {o : Int} (h : o ∈ Set.Ico 0 (linesSize u.lineLengths)) :
    ∃ p, u.inBounds p = true ∧ u.offsetOf p = .ok o := by
  obtain ⟨n, i, place, rfl⟩ := exists_place_of_lt h.1 h.2
  exact ⟨_, inBounds_iff.mpr (hasPosition_iff_isPlace.mpr place), offsetOf_place place⟩

variable (nonneg : ∀ length ∈ u.lineLengths, 0 ≤ length)
include nonneg

theorem exists_offset {p : Position} (h : u.inBounds p = true) :
    ∃ o ∈ Set.Ico 0 (linesSize u.lineLengths), u.offsetOf p = .ok o ∧ u.positionOf o = .ok p := by
  obtain ⟨n, i, rfl, place⟩ := exists_isPlace (inBounds_iff.mp h)
  exact ⟨_, place_mem_range nonneg place, offsetOf_place place, positionOf_place place nonneg⟩

/-- Later positions, and only these, have greater offsets. -/
theorem lt_iff_offsetOf_lt {p q : Position} (hp : u.inBounds p = true) (hq : u.inBounds q = true)
    {a b : Int} (ha : u.offsetOf p = .ok a) (hb : u.offsetOf q = .ok b) : p < q ↔ a < b := by
  obtain ⟨n, i, rfl, place⟩ := exists_isPlace (inBounds_iff.mp hp)
  obtain ⟨m, j, rfl, other⟩ := exists_isPlace (inBounds_iff.mp hq)
  cases ha.symm.trans (offsetOf_place place)
  cases hb.symm.trans (offsetOf_place other)
  simp only [Position.lt_def]
  rcases Nat.lt_trichotomy n m with h | rfl | h
  · have := place_lt_place nonneg place other h
    omega
  · omega
  · have := place_lt_place nonneg other place h
    omega

end Positions

/-- The document gives the lines of its unit by a text. -/
def HasSource (document : Value) (text : String) : Prop :=
  ∃ (entries : Entries) (source : Value), document.bare = .map entries ∧
    entries.get? "line_lengths" = none ∧ entries.get? "source" = some source ∧
    source.text = .ok text

theorem lineLengths_of_hasSource {document : Value} {text : String} {u : SourceUnit}
    (source : HasSource document text) (loaded : ofDocument document = .ok u) :
    u.lineLengths = Text.lineLengths text.toList := by
  obtain ⟨entries, v, hentries, hlengths, hsource, htext⟩ := source
  have hindex : Reading.lineLengths entries = .ok (Text.lineLengths text.toList) := by
    simp only [Reading.lineLengths, hlengths, hsource, Reading.textOfValue, htext]
    rfl
  rw [ofDocument, hentries] at loaded
  simp only at loaded
  split at loaded
  · obtain ⟨_, hread, _⟩ := ofEntries_parts loaded
    exact Except.ok.inj (hread.symm.trans hindex)
  · cases loaded

/-- Positions and offsets are in bijection, in the same order. -/
theorem exists_offset_equiv {u : SourceUnit} (nonneg : ∀ length ∈ u.lineLengths, 0 ≤ length) :
    ∃ e : {p : Position // u.inBounds p = true} ≃
        Set.Ico (0 : Int) (u.lineLengths.map (· + 1)).sum,
      (∀ p q, p.val < q.val ↔ e p < e q) ∧ (∀ p, u.offsetOf p.val = .ok (e p).val) ∧
        ∀ o, u.positionOf o.val = .ok (e.symm o).val := by
  rw [← linesSize_eq_sum]
  choose offset hrange hoffset hposition using
    fun p : {p : Position // u.inBounds p = true} => exists_offset nonneg p.property
  let f (p : {p : Position // u.inBounds p = true}) : Set.Ico 0 (linesSize u.lineLengths) :=
    ⟨offset p, hrange p⟩
  have hinjective : f.Injective := by
    intro p q h
    have hsame : offset p = offset q := congrArg Subtype.val h
    have hback := hposition p
    rw [hsame, hposition q] at hback
    exact Subtype.ext (Except.ok.inj hback).symm
  have hsurjective : f.Surjective := by
    rintro ⟨o, ho⟩
    obtain ⟨p, hp, hpo⟩ := exists_position ho
    exact ⟨⟨p, hp⟩, Subtype.ext (Except.ok.inj ((hoffset ⟨p, hp⟩).symm.trans hpo))⟩
  have hbijective : f.Bijective := ⟨hinjective, hsurjective⟩
  refine ⟨Equiv.ofBijective f hbijective, ?_, hoffset, ?_⟩
  · exact fun p q => lt_iff_offsetOf_lt nonneg p.property q.property (hoffset p) (hoffset q)
  · intro o
    obtain ⟨p, rfl⟩ := hsurjective o
    have hback := Equiv.ofBijective_symm_apply_apply f hbijective p
    rw [hback]
    exact hposition p

/-- Between the positions of a unit and the offsets below its size stands a bijection that keeps the
order, and the two functions are this bijection and its inverse. If the lines are those of a text,
the offsets run up to the length of the text, and each has the position after as many characters. -/
theorem offsets_match_positions :
    (∀ u : SourceUnit, (∀ length ∈ u.lineLengths, 0 ≤ length) →
      ∃ e : {p : Position // u.inBounds p = true} ≃
          Set.Ico (0 : Int) (u.lineLengths.map (· + 1)).sum,
        (∀ p q, p.val < q.val ↔ e p < e q) ∧ (∀ p, u.offsetOf p.val = .ok (e p).val) ∧
          ∀ o, u.positionOf o.val = .ok (e.symm o).val) ∧
    ∀ (document : Value) (text : String) (u : SourceUnit), HasSource document text →
      ofDocument document = .ok u →
        (∀ length ∈ u.lineLengths, 0 ≤ length) ∧
          Set.Ico (0 : Int) (u.lineLengths.map (· + 1)).sum = Set.Icc 0 (text.length : Int) ∧
          ∀ n ≤ text.length,
            u.positionOf n = .ok (Text.positionAfter (text.toList.take n)) := by
  refine ⟨fun u nonneg => exists_offset_equiv nonneg, ?_⟩
  intro document text u source loaded
  have hlines := lineLengths_of_hasSource source loaded
  have hsize : (u.lineLengths.map (· + 1)).sum = (text.length + 1 : Int) := by
    rw [← linesSize_eq_sum, hlines, Text.linesSize_lineLengths, String.length_toList]
  refine ⟨hlines ▸ Text.lineLengths_nonneg _, ?_, ?_⟩
  · ext o
    rw [hsize, Set.mem_Ico, Set.mem_Icc]
    omega
  · intro n hn
    rw [positionOf, hlines, Text.locate_lineLengths 1 (by rwa [String.length_toList])]
    rfl

/-- A unit with an empty line between two others. -/
def gappedUnit : SourceUnit where
  path := "A"
  package := ""
  lineLengths := [3, 0, 2]
  imports := []
  suppressions := []
  declarations := []

/-- The document of the unit, with its text. -/
def gappedDocument : Value := .map [(.str "path", .str "A"), (.str "source", .str "abc\n\nde")]

theorem offsets_match_positions_gappedUnit :
    (∀ length ∈ gappedUnit.lineLengths, 0 ≤ length) ∧
      HasSource gappedDocument "abc\n\nde" ∧ ofDocument gappedDocument = .ok gappedUnit ∧
      (∃ e : {p : Position // gappedUnit.inBounds p = true} ≃ Set.Ico (0 : Int) 8,
        (∀ p q, p.val < q.val ↔ e p < e q) ∧ (∀ p, gappedUnit.offsetOf p.val = .ok (e p).val) ∧
          ∀ o, gappedUnit.positionOf o.val = .ok (e.symm o).val) ∧
      gappedUnit.positionOf 3 = .ok ⟨1, 4⟩ ∧ gappedUnit.positionOf 4 = .ok ⟨2, 1⟩ ∧
      gappedUnit.positionOf 7 = .ok ⟨3, 3⟩ := by
  have nonneg : ∀ length ∈ gappedUnit.lineLengths, 0 ≤ length := by decide
  have source : HasSource gappedDocument "abc\n\nde" := ⟨_, _, rfl, rfl, rfl, rfl⟩
  have loaded : ofDocument gappedDocument = .ok gappedUnit := by
    -- Only the reader of declarations, which goes down by weight, does not evaluate.
    have empty : Reading.declarations [] [] = .ok [] := by
      rw [Reading.declarations_eq_mapM]
      rfl
    change Reading.within "A" (Reading.declarations [] [] >>= fun declarations =>
      pure { gappedUnit with declarations }) = _
    rw [empty]
    rfl
  obtain ⟨_, _, hposition⟩ := offsets_match_positions.2 _ _ _ source loaded
  refine ⟨nonneg, source, loaded, offsets_match_positions.1 gappedUnit nonneg, ?_, ?_, ?_⟩
  · exact hposition 3 (by decide)
  · exact hposition 4 (by decide)
  · exact hposition 7 (by decide)

/-! ### Offsets outside of the unit -/

section Outside
variable {u : SourceUnit} {o : Int}

theorem locate_eq_none_of_size_le {lengths : List Int} (nonneg : ∀ length ∈ lengths, 0 ≤ length)
    (line : Int) (h : linesSize lengths ≤ o) : locate line lengths o = none := by
  induction lengths generalizing line o with
  | nil => rfl
  | cons length rest ih =>
    obtain ⟨hlength, hrest⟩ := List.forall_mem_cons.mp nonneg
    have hsize := linesSize_nonneg hrest
    rw [linesSize] at h
    rw [locate, if_neg (by omega)]
    apply ih hrest
    omega

theorem positionOf_eq_error (nonneg : ∀ length ∈ u.lineLengths, 0 ≤ length)
    (h : u.lineLengths = [] ∨ linesSize u.lineLengths ≤ o) :
    u.positionOf o = .error (u.modelError (.offsetOutside o u.path)) := by
  have hnone : locate 1 u.lineLengths o = none := by
    rcases h with h | h
    · rw [h]
      rfl
    · exact locate_eq_none_of_size_le nonneg 1 h
  rw [positionOf, hnone]

/-- Only the upper end of a line is looked at, so an offset below zero counts as one of the first
line. -/
theorem positionOf_of_neg (nonneg : ∀ length ∈ u.lineLengths, 0 ≤ length)
    (lines : u.lineLengths ≠ []) (h : o < 0) : u.positionOf o = .ok ⟨1, o + 1⟩ := by
  obtain ⟨length, rest, hlines⟩ := List.exists_cons_of_ne_nil lines
  have hlength : 0 ≤ length := nonneg length (by simp [hlines])
  rw [positionOf, hlines, locate, if_pos (by omega)]

theorem inBounds_of_column_lt {line column : Int} (h : column < 1) :
    u.inBounds ⟨line, column⟩ = false := by
  simp [inBounds, h]

theorem exists_located (nonneg : ∀ length ∈ u.lineLengths, 0 ≤ length)
    (h : o ∈ Set.Ico 0 (linesSize u.lineLengths)) :
    ∃ p, u.positionOf o = .ok p ∧ u.inBounds p = true ∧ u.offsetOf p = .ok o := by
  obtain ⟨p, hbounds, hoffset⟩ := exists_position h
  obtain ⟨o', -, hoffset', hposition⟩ := exists_offset nonneg hbounds
  cases hoffset.symm.trans hoffset'
  exact ⟨p, hposition, hbounds, hoffset⟩

end Outside

/-- An offset is rejected with an error that can be written, or has a position that leads back to
it, exactly if it lies in the unit, or past its end, or in a unit without lines, and is short enough
to be written where it is rejected. Below zero every unit with lines gives a position that is not in
the unit and has no offset. -/
theorem positionOf_sound_iff {u : SourceUnit} (nonneg : ∀ length ∈ u.lineLengths, 0 ≤ length)
    (o : Int) :
    (((∃ e text, u.positionOf o = .error e ∧ e.written = .ok text) ∨
        ∃ p, u.positionOf o = .ok p ∧ u.inBounds p = true ∧ u.offsetOf p = .ok o) ↔
      o ∈ Set.Ico 0 (u.lineLengths.map (· + 1)).sum ∨
        (u.lineLengths = [] ∨ (u.lineLengths.map (· + 1)).sum ≤ o) ∧ IsShort o) ∧
    (u.lineLengths ≠ [] → o < 0 →
      u.positionOf o = .ok ⟨1, o + 1⟩ ∧ u.inBounds ⟨1, o + 1⟩ = false ∧
        u.offsetOf ⟨1, o + 1⟩ = .error ⟨.positionOutside ⟨1, o + 1⟩ u.path, some u.path⟩) := by
  rw [← linesSize_eq_sum]
  have hnegative : u.lineLengths ≠ [] → o < 0 →
      u.positionOf o = .ok ⟨1, o + 1⟩ ∧ u.inBounds ⟨1, o + 1⟩ = false ∧
        u.offsetOf ⟨1, o + 1⟩ = .error ⟨.positionOutside ⟨1, o + 1⟩ u.path, some u.path⟩ := by
    intro lines hneg
    have hbounds : u.inBounds ⟨1, o + 1⟩ = false := inBounds_of_column_lt (by omega)
    refine ⟨positionOf_of_neg nonneg lines hneg, hbounds, ?_⟩
    simp [offsetOf, hbounds, modelError]
  refine ⟨⟨?_, ?_⟩, hnegative⟩
  · rintro (⟨e, text, herror, hwritten⟩ | ⟨p, hposition, hbounds, hoffset⟩)
    · have houtside : u.lineLengths = [] ∨ linesSize u.lineLengths ≤ o := by
        by_contra! h
        rcases Int.lt_or_le o 0 with hneg | hlow
        · cases herror.symm.trans (hnegative h.1 hneg).1
        · obtain ⟨p, hposition, -⟩ := exists_located nonneg ⟨hlow, h.2⟩
          cases herror.symm.trans hposition
      cases herror.symm.trans (positionOf_eq_error nonneg houtside)
      exact .inr ⟨houtside, ModelError.written_ok_iff.mp ⟨text, hwritten⟩ o List.mem_cons_self⟩
    · obtain ⟨o', hrange, hoffset', -⟩ := exists_offset nonneg hbounds
      cases hoffset.symm.trans hoffset'
      exact .inl hrange
  · rintro (hrange | ⟨houtside, hshort⟩)
    · exact .inr (exists_located nonneg hrange)
    · have hintegers : ∀ n ∈ (u.modelError (.offsetOutside o u.path)).integers, IsShort n :=
        List.forall_mem_singleton.mpr hshort
      obtain ⟨text, hwritten⟩ := ModelError.written_ok_iff.mpr hintegers
      exact .inl ⟨_, text, positionOf_eq_error nonneg houtside, hwritten⟩

theorem positionOf_sound_gappedUnit :
    (∀ length ∈ gappedUnit.lineLengths, 0 ≤ length) ∧
      (∃ p, gappedUnit.positionOf 7 = .ok p ∧ gappedUnit.inBounds p = true ∧
        gappedUnit.offsetOf p = .ok 7) ∧
      (∃ e text, gappedUnit.positionOf 8 = .error e ∧ e.written = .ok text) ∧
      gappedUnit.positionOf (-2) = .ok ⟨1, -1⟩ ∧ gappedUnit.inBounds ⟨1, -1⟩ = false := by
  have nonneg : ∀ length ∈ gappedUnit.lineLengths, 0 ≤ length := by decide
  have hinside := (positionOf_sound_iff nonneg 7).1.mpr (.inl (by decide))
  have hpast := (positionOf_sound_iff nonneg 8).1.mpr
    (.inr ⟨.inr (by decide), isShort_of_lt (by decide)⟩)
  obtain ⟨hposition, hbounds, -⟩ :=
    (positionOf_sound_iff nonneg (-2)).2 (List.cons_ne_nil _ _) (by decide)
  refine ⟨nonneg, ?_, ?_, hposition, hbounds⟩
  · rcases hinside with ⟨e, _, herror, -⟩ | hlocated
    · cases herror
    · exact hlocated
  · rcases hpast with hrejected | ⟨p, hposition, -⟩
    · exact hrejected
    · cases hposition

theorem negative_offset_located :
    (∀ length ∈ gappedUnit.lineLengths, 0 ≤ length) ∧
      ¬ ((∃ e, gappedUnit.positionOf (-1) = .error e) ∨
        ∃ p, gappedUnit.positionOf (-1) = .ok p ∧ gappedUnit.inBounds p = true ∧
          gappedUnit.offsetOf p = .ok (-1)) := by
  have hposition : gappedUnit.positionOf (-1) = .ok ⟨1, 0⟩ := by decide +kernel
  refine ⟨by decide, ?_⟩
  rintro (⟨e, herror⟩ | ⟨p, hlocated, hbounds, -⟩)
  · cases herror.symm.trans hposition
  · cases hlocated.symm.trans hposition
    revert hbounds
    decide

end SourceUnit

end Conformance
