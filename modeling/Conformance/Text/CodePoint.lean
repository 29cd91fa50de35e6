/-!
# Code points

A text in a document may hold half of a surrogate pair, which is a code point but no character. Such
a half is carried by the private character that lies 0x100000 above it; `codeOf` and `ofCode` go
between a character of this library and the code point that it stands for. The private characters
that carry halves have no meaning of their own. Texts are put in order by code points.
-/

namespace Conformance.Text

def isSurrogate (n : Nat) : Bool := 0xd800 ≤ n && n ≤ 0xdfff

/-- The distance between half of a surrogate pair and the character that carries it. -/
def surrogateShift : Nat := 0x100000

def codeOf (c : Char) : Nat :=
  if isSurrogate (c.toNat - surrogateShift) then c.toNat - surrogateShift else c.toNat

def ofCode (n : Nat) : Char :=
  Char.ofNat (if isSurrogate n then n + surrogateShift else n)

def codes (s : String) : List Nat := s.toList.map codeOf

def atMost (a b : String) : Bool := (compare (codes a) (codes b)).isLE

def isHalf (c : Char) : Bool := isSurrogate (codeOf c)

def isCode (n : Nat) : Bool := n < 0x110000

/-- A character of the first planes stands for itself. -/
theorem codeOf_of_lt {c : Char} (h : c.toNat < 0x10d800) : codeOf c = c.toNat := by
  unfold codeOf
  rw [if_neg]
  intro low
  simp only [isSurrogate, Bool.and_eq_true, decide_eq_true_eq] at low
  have : surrogateShift = 0x100000 := rfl
  omega

theorem codeOf_eq_iff {c : Char} {n : Nat} (h : n < 0xd800) : codeOf c = n ↔ c.toNat = n := by
  unfold codeOf
  split
  · rename_i half
    simp only [isSurrogate, Bool.and_eq_true, decide_eq_true_eq] at half
    omega
  · rfl

theorem codeOf_cases (c : Char) :
    codeOf c = c.toNat ∨ c.toNat = codeOf c + 0x100000 ∧ 0xd800 ≤ codeOf c ∧ codeOf c ≤ 0xdfff := by
  unfold codeOf
  split
  · rename_i half
    simp only [isSurrogate, Bool.and_eq_true, decide_eq_true_eq] at half
    have hshift : surrogateShift = 0x100000 := rfl
    omega
  · exact .inl rfl

/-- No character is itself half of a pair, so the halves are left to those that carry them. -/
theorem codeOf_inj {c d : Char} : codeOf c = codeOf d ↔ c = d := by
  refine ⟨fun h => Char.toNat_inj.mp ?_, fun h => by rw [h]⟩
  have hc : c.toNat < 0xd800 ∨ 0xdfff < c.toNat ∧ c.toNat < 0x110000 := c.valid
  have hd : d.toNat < 0xd800 ∨ 0xdfff < d.toNat ∧ d.toNat < 0x110000 := d.valid
  have := codeOf_cases c
  have := codeOf_cases d
  omega

theorem codes_inj {a b : String} : codes a = codes b ↔ a = b := by
  rw [codes, codes, List.map_inj_right fun _ _ => codeOf_inj.mp, String.toList_inj]

theorem compare_codes_eq_lt {a b : List Nat} : compare a b = .lt ↔ a < b := by
  induction a generalizing b with
  | nil => cases b <;> simp
  | cons x a ih =>
    cases b with
    | nil => simp
    | cons y b =>
      rw [List.cons_lt_cons_iff, List.compare_cons_cons, Ordering.then_eq_lt, Nat.compare_eq_lt,
        Nat.compare_eq_eq, ih]

theorem codes_lt_of_atMost {a b : String} (h : atMost a b = true) (hne : a ≠ b) :
    codes a < codes b := by
  unfold atMost at h
  cases hab : compare (codes a) (codes b) with
  | lt => exact compare_codes_eq_lt.mp hab
  | eq => exact absurd (codes_inj.mp (Std.LawfulEqOrd.eq_of_compare hab)) hne
  | gt => rw [hab] at h; cases h

theorem pairwise_mergeSort_atMost {α : Type} (key : α → String) (l : List α) :
    (l.mergeSort fun a b => atMost (key a) (key b)).Pairwise fun a b =>
      atMost (key a) (key b) = true := by
  apply List.pairwise_mergeSort
  · intro a b c hab hbc
    exact Std.TransCmp.isLE_trans hab hbc
  · intro a b
    unfold atMost
    rw [Std.OrientedOrd.eq_swap (a := codes (key b))]
    cases compare (codes (key a)) (codes (key b)) <;> rfl

/-! ### Letters and digits of ASCII -/

theorem isUpper_iff {c : Char} : c.isUpper = true ↔ 65 ≤ c.toNat ∧ c.toNat ≤ 90 :=
  decide_eq_true_iff

theorem isLower_iff {c : Char} : c.isLower = true ↔ 97 ≤ c.toNat ∧ c.toNat ≤ 122 :=
  Bool.and_eq_true_iff.trans (and_congr decide_eq_true_iff decide_eq_true_iff)

theorem isDigit_iff {c : Char} : c.isDigit = true ↔ 48 ≤ c.toNat ∧ c.toNat ≤ 57 :=
  Bool.and_eq_true_iff.trans (and_congr decide_eq_true_iff decide_eq_true_iff)

theorem isAlphanum_eq (c : Char) : c.isAlphanum = (c.isUpper || c.isLower || c.isDigit) := rfl

end Conformance.Text
