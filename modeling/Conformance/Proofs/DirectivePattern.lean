import Conformance.Pattern.Meaning
import Conformance.Proofs.DirectiveGrammar
import Conformance.Proofs.PatternLanguages

/-!
# The pattern of directives

The reader of directives goes through the text by hand. It comes to what the matcher of patterns
takes as the only group of `^\s*disable\s*[:=]?\s*(?P<targets>.*?)\s*$`, letter case apart: each
part of the pattern that could give back some characters fails again on the longer text that is left
to the parts after it.
-/

namespace Conformance

/-! ### Letter case -/

namespace Text

/-- The run holds the code point of a capital. -/
def CaseRun.holds (run : CaseRun) (n : Nat) : Bool :=
  run.first ≤ n && n ≤ run.last && (n - run.first) % run.step == 0

theorem mem_capitalsOf_iff {n k : Nat} :
    n ∈ capitalsOf k ↔
      k = 0x69 ∧ n = 0x130 ∨ ∃ run ∈ caseRuns, run.holds n = true ∧ (n : Int) + run.shift = k := by
  have hfound : n ∈ (caseRuns.filterMap fun run =>
      let capital : Int := k - run.shift
      if run.first ≤ capital && capital ≤ run.last &&
          (capital.toNat - run.first) % run.step == 0 then some capital.toNat
      else none) ↔ ∃ run ∈ caseRuns, run.holds n = true ∧ (n : Int) + run.shift = k := by
    rw [List.mem_filterMap]
    refine exists_congr fun run => and_congr_right fun _ => ?_
    simp only [Option.ite_none_right_eq_some, CaseRun.holds, Bool.and_eq_true, decide_eq_true_eq,
      beq_iff_eq, Option.some.injEq]
    constructor
    · rintro ⟨⟨⟨hfirst, hlast⟩, hstep⟩, rfl⟩
      exact ⟨⟨⟨by omega, by omega⟩, hstep⟩, by omega⟩
    · rintro ⟨⟨⟨hfirst, hlast⟩, hstep⟩, hk⟩
      have hcapital : (k : Int) - run.shift = n := by omega
      rw [hcapital]
      exact ⟨⟨⟨by omega, by omega⟩, hstep⟩, rfl⟩
  unfold capitalsOf
  dsimp only
  split
  · rename_i hk
    rw [List.mem_cons, hfound]
    simp only [beq_iff_eq.mp hk, true_and]
  · rename_i hk
    rw [hfound]
    simp only [beq_iff_eq] at hk
    simp only [hk, false_and, false_or]

/-- Only capitals have small letters other than themselves. -/
def isCapital (n : Nat) : Bool := n == 0x130 || caseRuns.any (·.holds n)

theorem isCapital_of_mem_capitalsOf {n k : Nat} (h : n ∈ capitalsOf k) : isCapital n = true := by
  rw [isCapital, Bool.or_eq_true, beq_iff_eq, List.any_eq_true]
  rcases mem_capitalsOf_iff.mp h with ⟨_, hn⟩ | ⟨run, hrun, hn, _⟩
  · exact .inl hn
  · exact .inr ⟨run, hrun, hn⟩

theorem codeOf_ofNat {n : Nat} (h : n < 0xd800 ∨ 0xe000 ≤ n ∧ n < 0x10d800) :
    codeOf (Char.ofNat n) = n := by
  have hvalid : n.isValidChar := by
    unfold Nat.isValidChar
    omega
  have hn : (Char.ofNat n).toNat = n := by
    rw [Char.ofNat, dif_pos hvalid]
    rfl
  rw [codeOf_of_lt (by omega), hn]

/-- The small letters of a run stand for themselves. -/
theorem codeOf_shifted {run : CaseRun} (hrun : run ∈ caseRuns) {n : Nat} (h : run.holds n = true) :
    (codeOf (Char.ofNat (n + run.shift).toNat) : Int) = n + run.shift := by
  have htable : ∀ run ∈ caseRuns, 0 ≤ run.first + run.shift ∧
      (run.last + run.shift < 0xd800 ∨
        0xe000 ≤ run.first + run.shift ∧ run.last + run.shift < 0x10d800) := by
    decide +kernel
  obtain ⟨hlow, hbounds⟩ := htable run hrun
  simp only [CaseRun.holds, Bool.and_eq_true, decide_eq_true_eq] at h
  rw [codeOf_ofNat (by omega)]
  omega

/-- A character is its own small letter, or one of its capitals. -/
theorem smallLetter_cases (c : Char) :
    smallLetter c = c ∨ codeOf c ∈ capitalsOf (codeOf (smallLetter c)) := by
  have hascii : ∀ n : Fin 0x80, (Char.ofNat n).toLower = Char.ofNat n ∨
      codeOf (Char.ofNat n) ∈ capitalsOf (codeOf (Char.ofNat n).toLower) := by
    decide +kernel
  unfold smallLetter
  split
  · rename_i hc
    rw [beq_iff_eq.mp hc]
    exact .inr (mem_capitalsOf_iff.mpr (.inl ⟨by decide, by decide⟩))
  · unfold lowerChar
    split
    · rename_i hlow
      have h := hascii ⟨c.toNat, hlow⟩
      rwa [Char.ofNat_toNat] at h
    · dsimp only
      split
      · rename_i run hfind
        have hrun := List.mem_of_find?_eq_some hfind
        have hholds : run.holds c.toNat = true := by
          have h := List.find?_some hfind
          exact h
        have hplain : codeOf c = c.toNat := by
          have htable : ∀ run ∈ caseRuns, run.last < 0x10d800 := by decide +kernel
          have hlast := htable run hrun
          simp only [CaseRun.holds, Bool.and_eq_true, decide_eq_true_eq] at hholds
          exact codeOf_of_lt (by omega)
        have hshift := (codeOf_shifted hrun hholds).symm
        rw [hplain]
        exact .inr (mem_capitalsOf_iff.mpr (.inr ⟨run, hrun, hholds, hshift⟩))
      · exact .inl rfl

/-- The characters that can have a small letter among their variants, by their code points. -/
def sourcesOf (n : Nat) : List Nat :=
  let smalls := n :: (sharedCapitals.filter (·.contains n)).flatten
  smalls ++ smalls.flatMap capitalsOf

theorem codeOf_mem_sourcesOf {n : Nat} {c : Char} (small : isCapital n = false)
    (h : n ∈ caseVariants c) : codeOf c ∈ sourcesOf n := by
  have hsmall : codeOf (smallLetter c) ∈ n :: (sharedCapitals.filter (·.contains n)).flatten := by
    unfold caseVariants at h
    dsimp only at h
    rcases List.mem_append.mp h with h | h
    · cases hfind : sharedCapitals.find? (·.contains (codeOf (smallLetter c))) with
      | none =>
        rw [hfind, Option.getD_none, List.mem_singleton] at h
        rw [h]
        exact List.mem_cons_self
      | some smalls =>
        rw [hfind, Option.getD_some] at h
        have hin : codeOf (smallLetter c) ∈ smalls := by
          simpa using List.find?_some hfind
        refine List.mem_cons_of_mem n (List.mem_flatten.mpr ⟨smalls, ?_, hin⟩)
        exact List.mem_filter.mpr ⟨List.mem_of_find?_eq_some hfind, by simpa using h⟩
    · obtain ⟨k, _, hk⟩ := List.mem_flatMap.mp h
      rw [isCapital_of_mem_capitalsOf hk] at small
      cases small
  unfold sourcesOf
  rcases smallLetter_cases c with hc | hc
  · rw [hc] at hsmall
    exact List.mem_append_left _ hsmall
  · exact List.mem_append_right _ (List.mem_flatMap.mpr ⟨_, hsmall, hc⟩)

/-! ### Ends of texts -/

theorem isBlanks_nil : IsBlanks [] := List.forall_mem_nil _

theorem isBlanks_cons {x : Char} {rest : List Char} :
    IsBlanks (x :: rest) ↔ isBlank x = true ∧ IsBlanks rest := List.forall_mem_cons

theorem isBlanks_of_trimEnd_nil {cs : List Char} (h : trimEnd cs = []) : IsBlanks cs := by
  obtain ⟨w, hw, hcs⟩ := exists_trimEnd cs
  rw [hcs, h]
  exact hw

theorem trimEnd_of_isBlanks {cs : List Char} (h : IsBlanks cs) : trimEnd cs = [] := by
  have hnone : ∀ c ∈ ([] : List Char).getLast?, isBlank c = false := by simp
  exact trimEnd_append_isBlanks h hnone

theorem trimEnd_cons {x : Char} {rest : List Char} (h : ¬ IsBlanks (x :: rest)) :
    trimEnd (x :: rest) = x :: trimEnd rest := by
  rw [trimEnd, List.reverse_cons, List.dropWhile_append]
  split
  · rename_i hempty
    have hnil : trimEnd rest = [] := by rw [trimEnd, List.isEmpty_iff.mp hempty, List.reverse_nil]
    have hx : isBlank x = false := by
      by_contra hblank
      exact h (isBlanks_cons.mpr ⟨by simpa using hblank, isBlanks_of_trimEnd_nil hnil⟩)
    rw [hnil, List.dropWhile_cons, hx]
    rfl
  · rw [List.reverse_append, trimEnd]
    rfl

theorem mem_trimEnd_cons {c x : Char} {rest : List Char} (h : c ∈ trimEnd rest) :
    c ∈ trimEnd (x :: rest) := by
  rw [trimEnd_cons]
  · exact List.mem_cons_of_mem x h
  · intro blanks
    rw [trimEnd_of_isBlanks (isBlanks_cons.mp blanks).2] at h
    cases h

theorem mem_trimEnd_of_mem_trimChars {c : Char} {cs : List Char} (h : c ∈ trimChars cs) :
    c ∈ trimEnd cs := by
  induction cs with
  | nil => exact h
  | cons x rest ih =>
    rw [trimChars, List.dropWhile_cons] at h
    split at h
    · exact mem_trimEnd_cons (ih h)
    · exact h

theorem mem_trimChars_cons {c x : Char} {rest : List Char} (h : c ∈ trimChars rest) :
    c ∈ trimChars (x :: rest) := by
  rw [trimChars, List.dropWhile_cons]
  split
  · exact h
  · exact mem_trimEnd_cons (mem_trimEnd_of_mem_trimChars h)

end Text

/-! ### Matching -/

namespace Pattern

/-- The text that a group has taken. -/
def textOf (number : Nat) (r : Reached) : Option (List Char) :=
  (r.2.lookup number).map fun place => place.1.upTo place.2

/-- The text that a group takes where the pattern matches the start of a text. -/
def captured (p : Pattern) (number : Nat) (s : String) : Option (List Char) :=
  (p.thenMatch done (.atStart s) []).bind (textOf number)

theorem firstOf_append (k : Rest) (g : Captures) (places others : List Cursor) :
    firstOf k g (places ++ others) = (firstOf k g places).or (firstOf k g others) := by
  induction places with
  | nil => rfl
  | cons c rest ih =>
    rw [List.cons_append, firstOf, firstOf, ih]
    cases k c g with
    | none => rfl
    | some r => rfl

theorem run_append (s : CharClass) (found others : List Cursor) (room : Option Nat)
    (before rest : List Char) :
    Cursor.run s before (found ++ others) room rest =
      Cursor.run s before found room rest ++ others := by
  fun_induction Cursor.run s before found room rest with
  | case1 before found rest => rw [Cursor.run]
  | case2 before found room hroom => rw [Cursor.run]; exact hroom
  | case3 before found room x rest hroom hx ih =>
    rw [Cursor.run, if_pos hx]
    · exact ih
    · exact hroom
  | case4 before found room x rest hroom hx =>
    rw [Cursor.run, if_neg hx]
    exact hroom

section Runs
variable (s : CharClass) (k : Rest) (before : List Char) (g : Captures) (x : Char)
  (rest : List Char)

theorem firstOf_singleton (c : Cursor) : firstOf k g [c] = k c g := by
  rw [firstOf]
  cases k c g with
  | none => rfl
  | some r => rfl

theorem runThen_nil (greed : Greed) (most : Option Nat) :
    runThen greed 0 most s k ⟨before, []⟩ g = k ⟨before, []⟩ g := by
  have hrun : Cursor.run s before [⟨before, []⟩] most [] = [⟨before, []⟩] := by
    rcases most with _ | _ | n <;> simp [Cursor.run]
  simp only [runThen, hrun]
  cases greed with
  | greedy => exact firstOf_singleton k g _
  | reluctant => exact firstOf_singleton k g _
  | possessive => exact firstOf_singleton k g _

/-- The places of a run, the first of which is left to the end. -/
theorem run_cons :
    Cursor.run s before [⟨before, x :: rest⟩] none (x :: rest) =
      (if s.admits x then Cursor.run s (x :: before) [⟨x :: before, rest⟩] none rest else []) ++
        [⟨before, x :: rest⟩] := by
  rw [Cursor.run]
  · split
    · exact run_append s [_] [_] none _ rest
    · rfl
  · intro h
    cases h

theorem runThen_greedy_cons :
    runThen .greedy 0 none s k ⟨before, x :: rest⟩ g =
      (if s.admits x then runThen .greedy 0 none s k ⟨x :: before, rest⟩ g else none).or
        (k ⟨before, x :: rest⟩ g) := by
  simp only [runThen, Nat.sub_zero, List.take_length, run_cons, firstOf_append, firstOf_singleton]
  split
  · rfl
  · rfl

theorem runThen_reluctant_cons :
    runThen .reluctant 0 none s k ⟨before, x :: rest⟩ g =
      (k ⟨before, x :: rest⟩ g).or
        (if s.admits x then runThen .reluctant 0 none s k ⟨x :: before, rest⟩ g else none) := by
  simp only [runThen, Nat.sub_zero, List.take_length, run_cons, List.reverse_append,
    firstOf_append, List.reverse_singleton, firstOf_singleton]
  split
  · rfl
  · rfl

theorem runThen_optional_cons :
    runThen .greedy 0 (some 1) s k ⟨before, x :: rest⟩ g =
      (if s.admits x then k ⟨x :: before, rest⟩ g else none).or (k ⟨before, x :: rest⟩ g) := by
  have hrun : Cursor.run s before [⟨before, x :: rest⟩] (some 1) (x :: rest) =
      (if s.admits x then [⟨x :: before, rest⟩] else []) ++ [⟨before, x :: rest⟩] := by
    rw [Cursor.run]
    · split
      · rw [Option.map_some, Cursor.run]
        rfl
      · rfl
    · intro h
      cases h
  simp only [runThen, Nat.sub_zero, List.take_length, hrun, firstOf_append, firstOf_singleton]
  split
  · rw [firstOf_singleton]
  · rfl

end Runs

/-! ### What the first group takes -/

/-- Where the rest succeeds, and what the first group has taken then, depends only on the characters
that are left. -/
def Rest.Yields (k : Rest) (f : List Char → Option (List Char)) : Prop :=
  ∀ c g, (k c g).map (textOf 1) = (f c.after).map some

section Yields
variable {k : Rest} {f : List Char → Option (List Char)} {s : CharClass}

theorem Rest.Yields.bind_textOf (h : k.Yields f) (c : Cursor) (g : Captures) :
    (k c g).bind (textOf 1) = f c.after := by
  have hc := h c g
  cases hk : k c g with
  | none =>
    rw [hk, Option.map_none] at hc
    rw [Option.map_eq_none_iff.mp hc.symm]
    rfl
  | some r =>
    rw [hk, Option.map_some] at hc
    obtain ⟨text, hf, htext⟩ := Option.map_eq_some_iff.mp hc.symm
    rw [hf, htext]
    rfl

/-- The characters after one of a class. -/
def afterOne (s : CharClass) : List Char → Option (List Char)
  | [] => none
  | x :: rest => if s.admits x then some rest else none

theorem Rest.Yields.char (h : k.Yields f) :
    ((char s).thenMatch k).Yields fun cs => (afterOne s cs).bind f := by
  rintro ⟨before, after⟩ g
  cases after with
  | nil => rfl
  | cons x rest =>
    simp only [thenMatch, Cursor.step?, afterOne]
    split_ifs with hx
    · exact h _ g
    · rfl

section Back
variable (back : ∀ x rest, s.admits x = true → f rest = none → f (x :: rest) = none)
include back

theorem eq_none_of_dropWhile {cs : List Char} (h : f (cs.dropWhile s.admits) = none) :
    f cs = none := by
  induction cs with
  | nil => exact h
  | cons x rest ih =>
    rw [List.dropWhile_cons] at h
    split_ifs at h with hx
    · exact back x rest hx (ih h)
    · exact h

/-- A repetition need not give back any character if the rest fails again where it would. -/
theorem Rest.Yields.star (h : k.Yields f) :
    (runThen .greedy 0 none s k).Yields fun cs => f (cs.dropWhile s.admits) := by
  rintro ⟨before, after⟩ g
  dsimp only
  induction after generalizing before with
  | nil =>
    rw [runThen_nil]
    exact h _ g
  | cons x rest ih =>
    rw [runThen_greedy_cons, List.dropWhile_cons, Option.map_or, h ⟨before, x :: rest⟩ g]
    split_ifs with hx
    · rw [ih]
      cases hf : f (rest.dropWhile s.admits) with
      | some text => rfl
      | none => rw [back x rest hx (eq_none_of_dropWhile back hf)]; rfl
    · rfl

/-- The same for a character that may be there or not. -/
theorem Rest.Yields.optional (h : k.Yields f) :
    (runThen .greedy 0 (some 1) s k).Yields fun cs => f ((afterOne s cs).getD cs) := by
  rintro ⟨before, after⟩ g
  cases after with
  | nil =>
    rw [runThen_nil]
    exact h _ g
  | cons x rest =>
    rw [runThen_optional_cons, Option.map_or, h ⟨before, x :: rest⟩ g]
    simp only [afterOne]
    split_ifs with hx
    · rw [h ⟨x :: before, rest⟩ g, Option.getD_some]
      cases hf : f rest with
      | some text => rfl
      | none => rw [back x rest hx hf]; rfl
    · rfl

end Back

end Yields

end Pattern

/-! ### The pattern -/

namespace Directive
open Pattern

/-- White space, in a pattern that letter case does not count for. -/
def blank : CharClass := { items := [.kind .blank false], caseless := true }

def letter (c : Char) : CharClass := { items := [.code c.toNat], caseless := true }

def mark : CharClass := { items := [.code 0x3a, .code 0x3d], caseless := true }

/-- The names, and the blanks up to the end of the text. -/
def namesPattern : Pattern :=
  .seq (.group 1 (.repetition .reluctant 0 none (.char .withinLine)))
    (.seq (.repetition .greedy 0 none (.char blank)) (.anchor .textClose))

/-- What follows the word. -/
def bodyPattern : Pattern :=
  .seq (.repetition .greedy 0 none (.char blank))
    (.seq (.repetition .greedy 0 (some 1) (.char mark))
      (.seq (.repetition .greedy 0 none (.char blank)) namesPattern))

def pattern : Pattern :=
  .seq (.anchor .textStart) (.seq (.repetition .greedy 0 none (.char blank))
    (keyword.foldr (fun c p => .seq (.char (letter c)) p) bodyPattern))

theorem parse_pattern :
    Pattern.parse "(?i)^\\s*disable\\s*[:=]?\\s*(?P<targets>.*?)\\s*$" = .ok pattern :=
  parse_of_toOption (by decide +kernel)

theorem blank_admits : blank.admits = Text.isBlank := by
  funext c
  simp [CharClass.admits, blank, ClassItem.admits, CharKind.admits]

theorem withinLine_admits (c : Char) : CharClass.withinLine.admits c = (c != '\n') := by
  have hcode : Text.codeOf c = 0xa ↔ c = '\n' := Text.codeOf_eq_toNat_iff (d := '\n') (by decide)
  by_cases hc : c = '\n'
  · subst hc
    decide
  · have hother : 0xa ≠ Text.codeOf c := fun h => hc (hcode.mp h.symm)
    simp [CharClass.admits, CharClass.withinLine, ClassItem.admits, CharClass.codesOf, hother, hc]

/-- A letter of the word is a variant of the characters that are variants of it. -/
theorem letter_admits {l : Char} (h : l ∈ keyword) (c : Char) :
    (letter l).admits c = isLetterForm l c := by
  have hsources : (keyword.all fun l => !Text.isCapital l.toNat &&
      (Text.sourcesOf l.toNat).all (Text.caseVariants l).contains) = true := by
    decide +kernel
  have hforms : (keyword.all fun l =>
      (letterForms l).all fun d => (Text.caseVariants d).contains l.toNat) = true := by
    decide +kernel
  simp only [List.all_eq_true, Bool.and_eq_true, Bool.not_eq_true', List.contains_iff_mem]
    at hsources hforms
  have hadmits : (letter l).admits c = true ↔ l.toNat ∈ Text.caseVariants c := by
    simp [CharClass.admits, letter, ClassItem.admits, CharClass.codesOf]
  rw [Bool.eq_iff_iff, hadmits]
  constructor
  · intro hl
    obtain ⟨hsmall, hall⟩ := hsources l h
    exact (isLetterForm_iff h).mpr (hall _ (Text.codeOf_mem_sourcesOf hsmall hl))
  · intro hc
    exact hforms l h c (isLetterForm_iff_mem.mp hc)

theorem mark_admits (c : Char) : mark.admits c = (c == ':' || c == '=') := by
  have hmark {n : Nat} (hn : n ∈ [0x3a, 0x3d]) :
      n ∈ Text.caseVariants c ↔ c = Char.ofNat n := by
    have hsources : ∀ n ∈ [0x3a, 0x3d], Text.isCapital n = false ∧
        Text.codeOf (Char.ofNat n) = n ∧ n ∈ Text.caseVariants (Char.ofNat n) ∧
          ∀ m ∈ Text.sourcesOf n, m = n := by
      decide +kernel
    obtain ⟨hsmall, hcode, hown, hall⟩ := hsources n hn
    constructor
    · intro h
      apply Text.codeOf_inj.mp
      rw [hall _ (Text.codeOf_mem_sourcesOf hsmall h), hcode]
    · rintro rfl
      exact hown
  have hadmits : mark.admits c = true ↔
      0x3a ∈ Text.caseVariants c ∨ 0x3d ∈ Text.caseVariants c := by
    simp [CharClass.admits, mark, ClassItem.admits, CharClass.codesOf]
  rw [Bool.eq_iff_iff, hadmits, hmark (by decide), hmark (by decide), Bool.or_eq_true, beq_iff_eq,
    beq_iff_eq]

theorem afterOne_mark (cs : List Char) : (afterOne mark cs).getD cs = afterMark cs := by
  cases cs with
  | nil => rfl
  | cons x rest =>
    simp only [afterOne, mark_admits, Bool.or_eq_true, beq_iff_eq]
    split_ifs with hx
    · rcases hx with rfl | rfl <;> rfl
    · rw [Option.getD_none, afterMark]
      · rintro rest' h
        cases h
        exact hx (.inl rfl)
      · rintro rest' h
        cases h
        exact hx (.inr rfl)

/-! ### The parts of the pattern -/

/-- The names that are left after the blanks in front: up to the blanks at the end, on one line. -/
def names? (cs : List Char) : Option (List Char) :=
  if (Text.trimEnd cs).contains '\n' then none else some (Text.trimEnd cs)

theorem names?_eq_none_iff {cs : List Char} : names? cs = none ↔ '\n' ∈ Text.trimEnd cs := by
  simp [names?]

/-- The blanks at the end are taken to the end, and the groups stay as they are. -/
theorem closing_eq (before cs : List Char) (g : Captures) :
    (runThen .greedy 0 none blank ((anchor .textClose).thenMatch done) ⟨before, cs⟩ g).map
      Prod.snd = if Text.IsBlanks cs then some g else none := by
  induction cs generalizing before with
  | nil =>
    rw [runThen_nil]
    rfl
  | cons x rest ih =>
    have hclose : ((anchor .textClose).thenMatch done ⟨before, x :: rest⟩ g).map Prod.snd =
        if x :: rest = ['\n'] then some g else none := by
      simp only [thenMatch, Cursor.satisfies, List.isEmpty_cons, Bool.false_or, beq_iff_eq]
      split_ifs <;> rfl
    rw [runThen_greedy_cons, Option.map_or, blank_admits, hclose]
    by_cases hx : Text.isBlank x = true
    · rw [if_pos hx, ih]
      by_cases hrest : Text.IsBlanks rest
      · rw [if_pos hrest, if_pos (Text.isBlanks_cons.mpr ⟨hx, hrest⟩)]
        rfl
      · have hlonger : x :: rest ≠ ['\n'] := by
          intro h
          cases h
          exact hrest Text.isBlanks_nil
        rw [if_neg hrest, if_neg hlonger, if_neg fun h => hrest (Text.isBlanks_cons.mp h).2]
        rfl
    · have hother : x :: rest ≠ ['\n'] := by
        intro h
        cases h
        exact hx (by decide)
      rw [if_neg hx, if_neg hother, if_neg fun h => hx (Text.isBlanks_cons.mp h).1]
      rfl

/-- A group remembers the characters from its start on. -/
theorem textOf_put {c d : Cursor} {g : Captures} {pre : List Char} (h : c.after = pre ++ d.after)
    {r : Reached} (hr : r.2 = g.put 1 c d) : textOf 1 r = some pre := by
  simp [textOf, hr, Captures.put, Cursor.upTo, Cursor.left, h]

/-- The group is as short as it can be: it grows until only blanks are left, and not over the end of
a line. -/
theorem names_eq (before cs pre : List Char) (g : Captures) {c : Cursor}
    (hc : c.after = pre ++ cs) :
    (runThen .reluctant 0 none .withinLine (fun d h =>
      runThen .greedy 0 none blank ((anchor .textClose).thenMatch done) d (h.put 1 c d))
        ⟨before, cs⟩ g).map (textOf 1) = (names? cs).map fun t => some (pre ++ t) := by
  induction cs generalizing before pre with
  | nil =>
    have hclosing := closing_eq before [] (g.put 1 c ⟨before, []⟩)
    rw [if_pos Text.isBlanks_nil] at hclosing
    obtain ⟨r, hr, htext⟩ := Option.map_eq_some_iff.mp hclosing
    rw [runThen_nil, hr, Option.map_some, textOf_put hc htext]
    simp [names?, Text.trimEnd]
  | cons x rest ih =>
    have hclosing := closing_eq before (x :: rest) (g.put 1 c ⟨before, x :: rest⟩)
    rw [runThen_reluctant_cons, Option.map_or, withinLine_admits]
    by_cases blanks : Text.IsBlanks (x :: rest)
    · rw [if_pos blanks] at hclosing
      obtain ⟨r, hr, htext⟩ := Option.map_eq_some_iff.mp hclosing
      rw [hr, Option.map_some, textOf_put hc htext, names?, Text.trimEnd_of_isBlanks blanks]
      simp
    · rw [if_neg blanks] at hclosing
      rw [Option.map_eq_none_iff.mp hclosing, Option.map_none, Option.none_or, names?,
        Text.trimEnd_cons blanks]
      by_cases hx : x = '\n'
      · subst hx
        simp
      · rw [if_pos (by simpa using hx), ih _ (pre ++ [x]) (by rw [hc]; simp), names?]
        simp only [List.contains_cons, beq_eq_false_iff_ne.mpr (Ne.symm hx), Bool.false_or]
        split_ifs
        · rfl
        · simp

theorem names_yields : (namesPattern.thenMatch done).Yields names? := by
  intro c g
  exact names_eq c.before c.after [] g (List.nil_append _).symm

/-- Blanks and a mark in front of names make no names where there are none. -/
theorem names?_cons {x : Char} {rest : List Char}
    (h : names? (rest.dropWhile Text.isBlank) = none) :
    names? ((x :: rest).dropWhile Text.isBlank) = none :=
  names?_eq_none_iff.mpr (Text.mem_trimChars_cons (names?_eq_none_iff.mp h))

theorem body_yields :
    (bodyPattern.thenMatch done).Yields fun cs =>
      names? ((afterMark (cs.dropWhile Text.isBlank)).dropWhile Text.isBlank) := by
  have hnames := names_yields.star (s := blank) fun x rest _ h =>
    names?_eq_none_iff.mpr (Text.mem_trimEnd_cons (names?_eq_none_iff.mp h))
  rw [blank_admits] at hnames
  have hmark := hnames.optional (s := mark) fun x rest _ h => names?_cons h
  simp only [afterOne_mark] at hmark
  have hbody := hmark.star (s := blank) fun x rest hx h => by
    -- A blank is no mark, so that what follows it is looked at without dropping one.
    have hnone : names? (rest.dropWhile Text.isBlank) = none := by
      obtain ⟨mark, hmark, hrest⟩ := exists_afterMark rest
      rw [hrest]
      simp only [List.mem_cons, List.not_mem_nil, or_false] at hmark
      rcases hmark with rfl | rfl | rfl
      · exact h
      · exact names?_cons h
      · exact names?_cons h
    have hafter : afterMark (x :: rest) = x :: rest := by
      rw [blank_admits] at hx
      rw [afterMark]
      · rintro rest' h
        cases h
        exact absurd hx (by decide)
      · rintro rest' h
        cases h
        exact absurd hx (by decide)
    rw [hafter]
    exact names?_cons hnone
  rw [blank_admits] at hbody
  exact hbody

theorem word_yields {p : Pattern} {f : List Char → Option (List Char)}
    (h : (p.thenMatch done).Yields f) {word : List Char} (letters : ∀ l ∈ word, l ∈ keyword) :
    ((word.foldr (fun c p => .seq (.char (letter c)) p) p).thenMatch done).Yields fun cs =>
      (afterWord? word cs).bind f := by
  induction word with
  | nil => exact h
  | cons l word ih =>
    obtain ⟨hl, hword⟩ := List.forall_mem_cons.mp letters
    intro c g
    refine ((ih hword).char (s := letter l) c g).trans ?_
    cases c.after with
    | nil => rfl
    | cons x rest =>
      simp only [afterOne, letter_admits hl, afterWord?]
      split_ifs <;> rfl

/-- The word starts with no blank. -/
theorem afterWord?_of_isBlank {x : Char} (hx : Text.isBlank x = true) (rest : List Char) :
    afterWord? keyword (x :: rest) = none := by
  have hkeyword : keyword = ['d', 'i', 's', 'a', 'b', 'l', 'e'] := by decide
  have hletter : ¬ isLetterForm 'd' x = true := by
    rw [isLetterForm_iff_mem]
    have hforms : letterForms 'd' = ['d', 'D'] := by decide
    simp only [hforms, List.mem_cons, List.not_mem_nil, or_false]
    rintro (rfl | rfl) <;> cases hx
  rw [hkeyword, afterWord?, if_neg hletter]

theorem pattern_thenMatch (s : String) :
    pattern.thenMatch done (.atStart s) [] =
      runThen .greedy 0 none blank
        ((keyword.foldr (fun c p => .seq (.char (letter c)) p) bodyPattern).thenMatch done)
        (.atStart s) [] := by
  rw [pattern, thenMatch, thenMatch, thenMatch, thenMatch]
  rfl

/-- The reader of directives takes what the group of the pattern takes. -/
theorem targetText?_eq_captured (s : String) : targetText? s.toList = pattern.captured 1 s := by
  have hword := (word_yields body_yields fun l hl => hl).star (s := blank) fun x rest hx _ => by
    rw [blank_admits] at hx
    rw [afterWord?_of_isBlank hx]
    rfl
  rw [blank_admits] at hword
  rw [captured, pattern_thenMatch]
  exact (hword.bind_textOf (.atStart s) []).symm

/-- So the reader of directives is the pattern, as it is written. -/
theorem targetText?_of_pattern :
    ∃ p, Pattern.parse "(?i)^\\s*disable\\s*[:=]?\\s*(?P<targets>.*?)\\s*$" = .ok p ∧
      ∀ s : String, targetText? s.toList = p.captured 1 s :=
  ⟨pattern, parse_pattern, targetText?_eq_captured⟩

end Directive

end Conformance
