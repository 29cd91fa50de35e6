import Conformance.Proofs.Writing
import Conformance.Suppression
import Conformance.Text.CaseFold
import Mathlib.Data.List.Forall2
import Mathlib.Data.List.TakeWhile
import Mathlib.Data.String.Basic
import Mathlib.Tactic.Tauto

/-!
# The grammar of directives

The reader of directives drops blanks, looks for a word, drops a mark, trims, and divides the rest
at commas. Here stands the grammar that this amounts to, said without the reader: blanks are free
between the parts, line breaks are not allowed among the names.
-/

namespace Conformance

namespace Text

/-! ### Blanks -/

/-- A run of white space. -/
def IsBlanks (w : List Char) : Prop := ∀ c ∈ w, isBlank c = true

instance (w : List Char) : Decidable (IsBlanks w) :=
  decidable_of_iff (w.all isBlank = true) List.all_eq_true

section Blanks
variable {w w' cs : List Char}

theorem dropWhile_isBlanks (hw : IsBlanks w) (hcs : ∀ c ∈ cs.head?, isBlank c = false) :
    (w ++ cs).dropWhile isBlank = cs := by
  rw [List.dropWhile_append_of_pos hw]
  cases cs with
  | nil => rfl
  | cons c rest => rw [List.dropWhile_cons, hcs c rfl]; rfl

theorem trimEnd_append_isBlanks (hw : IsBlanks w) (hcs : ∀ c ∈ cs.getLast?, isBlank c = false) :
    trimEnd (cs ++ w) = cs := by
  have hreverse : IsBlanks w.reverse := fun c hc => hw c (List.mem_reverse.mp hc)
  rw [trimEnd, List.reverse_append, dropWhile_isBlanks hreverse (by rwa [List.head?_reverse]),
    List.reverse_reverse]

theorem trimChars_padded (hw : IsBlanks w) (hw' : IsBlanks w') (hne : cs ≠ [])
    (hfirst : ∀ c ∈ cs.head?, isBlank c = false) (hlast : ∀ c ∈ cs.getLast?, isBlank c = false) :
    trimChars (w ++ cs ++ w') = cs := by
  rw [trimChars, List.append_assoc, dropWhile_isBlanks hw, trimEnd_append_isBlanks hw' hlast]
  rwa [List.head?_append_of_ne_nil _ hne]

theorem exists_dropWhile_isBlank (cs : List Char) :
    ∃ w, IsBlanks w ∧ cs = w ++ cs.dropWhile isBlank :=
  ⟨cs.takeWhile isBlank, fun _ hc => List.mem_takeWhile_imp hc,
    List.takeWhile_append_dropWhile.symm⟩

theorem head?_dropWhile_isBlank (cs : List Char) :
    ∀ c ∈ (cs.dropWhile isBlank).head?, isBlank c = false := by
  intro c hc
  have h := List.head?_dropWhile_not isBlank cs
  rwa [Option.mem_def.mp hc] at h

theorem exists_trimEnd (cs : List Char) : ∃ w, IsBlanks w ∧ cs = trimEnd cs ++ w := by
  obtain ⟨w, hw, hcs⟩ := exists_dropWhile_isBlank cs.reverse
  refine ⟨w.reverse, fun c hc => hw c (List.mem_reverse.mp hc), ?_⟩
  rw [trimEnd, ← List.reverse_append, ← hcs, List.reverse_reverse]

theorem getLast?_trimEnd (cs : List Char) : ∀ c ∈ (trimEnd cs).getLast?, isBlank c = false := by
  rw [trimEnd, List.getLast?_reverse]
  exact head?_dropWhile_isBlank _

/-- Trimming the end leaves the first character, if it leaves one. -/
theorem head?_trimEnd (hcs : ∀ c ∈ cs.head?, isBlank c = false) :
    ∀ c ∈ (trimEnd cs).head?, isBlank c = false := by
  intro c hc
  obtain ⟨w, -, heq⟩ := exists_trimEnd cs
  apply hcs
  rw [heq, List.head?_append, Option.mem_def.mp hc]
  rfl

theorem exists_trimChars (cs : List Char) :
    ∃ w w', IsBlanks w ∧ IsBlanks w' ∧ cs = w ++ trimChars cs ++ w' := by
  obtain ⟨w, hw, heq⟩ := exists_dropWhile_isBlank cs
  obtain ⟨w', hw', heq'⟩ := exists_trimEnd (cs.dropWhile isBlank)
  exact ⟨w, w', hw, hw', by rw [trimChars, List.append_assoc, ← heq', ← heq]⟩

end Blanks

/-! ### Separators -/

theorem splitChars_eq_splitOn (sep : Char) (cs : List Char) :
    splitChars sep cs = cs.splitOn sep := by
  induction cs with
  | nil => rfl
  | cons c rest ih =>
    simp only [splitChars, ih, List.splitOn, List.splitOnP_cons_eq_if_modifyHead]
    cases h : rest.splitOnP (· == sep) with
    | nil => exact absurd h (List.splitOnP_ne_nil _ _)
    | cons piece pieces => rfl

theorem splitChars_of_not_mem {sep : Char} {cs : List Char} (h : sep ∉ cs) :
    splitChars sep cs = [cs] := by
  rw [splitChars_eq_splitOn]
  exact List.splitOnP_eq_singleton fun c hc => by simpa using fun e : c = sep => h (e ▸ hc)

theorem splitChars_append {sep : Char} {cs : List Char} (h : sep ∉ cs) (rest : List Char) :
    splitChars sep (cs ++ sep :: rest) = cs :: splitChars sep rest := by
  rw [splitChars_eq_splitOn, splitChars_eq_splitOn]
  exact List.splitOnP_append_cons_of_forall_mem
    (fun c hc => by simpa using fun e : c = sep => h (e ▸ hc)) sep (by simp) rest

theorem intercalate_splitChars (sep : Char) (cs : List Char) :
    [sep].intercalate (splitChars sep cs) = cs := by
  rw [splitChars_eq_splitOn, List.intercalate_splitOn]

/-! ### Letter case -/

theorem lowerChars_ascii {cs : List Char} (h : ∀ c ∈ cs, c.toNat < 0x80) (before : List Char) :
    lowerChars before cs = cs.map Char.toLower := by
  induction cs generalizing before with
  | nil => rfl
  | cons c rest ih =>
    obtain ⟨hc, hrest⟩ := List.forall_mem_cons.mp h
    have hdotted : c ≠ 'İ' := by rintro rfl; exact absurd hc (by decide)
    have hsigma : c ≠ 'Σ' := by rintro rfl; exact absurd hc (by decide)
    rw [lowerChars, ih hrest]
    simp [hdotted, hsigma, lowerChar, hc]

theorem codeOf_eq_toNat_iff {c d : Char} (h : d.toNat < 0xd800) : codeOf c = d.toNat ↔ c = d :=
  (codeOf_eq_iff h).trans Char.toNat_inj

end Text

theorem mapM_eq_ok_iff {ε α β : Type} {f : α → Except ε β} {P : α → Prop} {g : α → β}
    (hf : ∀ x y, f x = .ok y ↔ P x ∧ y = g x) {xs : List α} {ys : List β} :
    xs.mapM f = .ok ys ↔ (∀ x ∈ xs, P x) ∧ ys = xs.map g := by
  induction xs generalizing ys with
  | nil => simp [pure, Except.pure, eq_comm]
  | cons x rest ih =>
    rw [List.mapM_cons, List.forall_mem_cons]
    constructor
    · intro h
      obtain ⟨y, hy, h⟩ := bind_ok h
      obtain ⟨zs, hzs, h⟩ := bind_ok h
      obtain ⟨hx, rfl⟩ := (hf x y).mp hy
      obtain ⟨hrest, rfl⟩ := ih.mp hzs
      cases h
      exact ⟨⟨hx, hrest⟩, rfl⟩
    · rintro ⟨⟨hx, hrest⟩, rfl⟩
      rw [(hf x _).mpr ⟨hx, rfl⟩, ih.mpr ⟨hrest, rfl⟩]
      rfl

theorem nodup_eraseDups : ∀ names : List String, names.eraseDups.Nodup
  | [] => by simp
  | name :: rest => by
    rw [List.eraseDups_cons, List.nodup_cons]
    refine ⟨fun h => ?_, nodup_eraseDups _⟩
    simpa using List.mem_eraseDups.mp h
termination_by names => names.length
decreasing_by exact Nat.lt_succ_of_le (List.length_filter_le ..)

namespace Directive
open Text

/-! ### The grammar -/

/-- The characters of the name of a rule. -/
def IsNameChar (c : Char) : Prop :=
  ('A' ≤ c ∧ c ≤ 'Z') ∨ ('a' ≤ c ∧ c ≤ 'z') ∨ ('0' ≤ c ∧ c ≤ '9') ∨ c ∈ ['_', '.', '-', '/']

instance (c : Char) : Decidable (IsNameChar c) := inferInstanceAs (Decidable (_ ∨ _))

/-- The word for all rules, in any letter case. -/
def SpellsAll (t : List Char) : Prop := t.map Char.toLower = "all".toList

instance (t : List Char) : Decidable (SpellsAll t) := inferInstanceAs (Decidable (_ = _))

structure IsName (t : List Char) : Prop where
  nonempty : t ≠ []
  chars : ∀ c ∈ t, IsNameChar c

/-- What may be named in a directive: all rules, or one that is registered. -/
structure IsReference (reg : Registry) (t : List Char) : Prop extends IsName t where
  named : SpellsAll t ∨ ∃ r ∈ reg.rules, r.id = String.ofList t

/-- What a name stands for. -/
def meaning (t : List Char) : String := if SpellsAll t then "all" else String.ofList t

/-- The names with commas between them, and blanks around the commas. -/
inductive Lists : List (List Char) → List Char → Prop
  | last (t : List Char) : Lists [t] t
  | next {t w w' cs : List Char} {ts : List (List Char)} (hw : IsBlanks w) (hw' : IsBlanks w')
      (rest : Lists ts cs) : Lists (t :: ts) (t ++ w ++ ',' :: (w' ++ cs))

/-- The word `disable` in any letter case, perhaps a mark, and the body of a directive, with blanks
between and around them. -/
def Frames (body text : List Char) : Prop :=
  ∃ w₀ word w₁ mark w₂ w₃, text = w₀ ++ word ++ w₁ ++ mark ++ w₂ ++ body ++ w₃ ∧
    IsBlanks w₀ ∧ IsBlanks w₁ ∧ IsBlanks w₂ ∧ IsBlanks w₃ ∧
    List.Forall₂ (fun letter c => codeOf c ∈ caseVariants letter) "disable".toList word ∧
    mark ∈ [[], [':'], ['=']]

/-- A text is a directive with the given names. -/
structure Spells (reg : Registry) (refs : List (List Char)) (text : String) : Prop where
  form : ∃ body, Frames body text.toList ∧ Lists refs body ∧ '\n' ∉ body
  references : ∀ t ∈ refs, IsReference reg t

/-! ### Names -/

theorem isReferenceChar_iff {c : Char} : isReferenceChar c = true ↔ IsNameChar c := by
  simp only [isReferenceChar, IsNameChar, isAlphanum_eq, Bool.or_eq_true, isUpper_iff, isLower_iff,
    isDigit_iff, beq_iff_eq, List.mem_cons, List.not_mem_nil, or_false, or_assoc]
  -- Characters are compared by their numbers.
  exact Iff.rfl

theorem isName_iff {t : List Char} :
    IsName t ↔ (t.isEmpty || !t.all isReferenceChar) = false := by
  simp only [Bool.or_eq_false_iff, Bool.not_eq_false', List.isEmpty_eq_false_iff, List.all_eq_true,
    isReferenceChar_iff]
  exact ⟨fun h => ⟨h.nonempty, h.chars⟩, fun h => ⟨h.1, h.2⟩⟩

instance (t : List Char) : Decidable (IsName t) := decidable_of_iff _ isName_iff.symm

/-- The characters of names are in a part of ASCII that has no blanks. -/
theorem IsNameChar.toNat_bounds {c : Char} (h : IsNameChar c) :
    0x2d ≤ c.toNat ∧ c.toNat ≤ 0x7a := by
  rcases h with h | h | h | h
  · have hlow : 0x41 ≤ c.toNat := h.1
    have hhigh : c.toNat ≤ 0x5a := h.2
    omega
  · have hlow : 0x61 ≤ c.toNat := h.1
    have hhigh : c.toNat ≤ 0x7a := h.2
    omega
  · have hlow : 0x30 ≤ c.toNat := h.1
    have hhigh : c.toNat ≤ 0x39 := h.2
    omega
  · simp only [List.mem_cons, List.not_mem_nil, or_false] at h
    rcases h with rfl | rfl | rfl | rfl <;> decide

theorem IsNameChar.isBlank_eq_false {c : Char} (h : IsNameChar c) : isBlank c = false := by
  have := h.toNat_bounds
  simp only [isBlank, Bool.or_eq_false_iff, Bool.and_eq_false_iff, decide_eq_false_iff_not,
    beq_eq_false_iff_ne]
  omega

theorem contains_iff {reg : Registry} {id : String} :
    reg.contains id = true ↔ ∃ r ∈ reg.rules, r.id = id := by
  simp [Registry.contains, Registry.get?, List.find?_isSome]

theorem lower_eq_all_iff {t : List Char} (h : ∀ c ∈ t, IsNameChar c) :
    lower (String.ofList t) = allRules ↔ SpellsAll t := by
  have hascii : ∀ c ∈ t, c.toNat < 0x80 := fun c hc => by have := (h c hc).toNat_bounds; omega
  rw [lower, String.toList_ofList, lowerChars_ascii hascii, SpellsAll, ← String.toList_inj,
    String.toList_ofList]
  rfl

/-- A part of a directive names a rule exactly if it is a reference with blanks around it. -/
theorem target_eq_ok_iff {reg : Registry} (part : List Char) (name : String) :
    target reg.contains part = .ok name ↔
      IsReference reg (trimChars part) ∧ name = meaning (trimChars part) := by
  generalize ht : trimChars part = t
  simp only [target, ht]
  by_cases hname : IsName t
  · have hlower := lower_eq_all_iff hname.chars
    rw [isName_iff.mp hname, if_neg Bool.false_ne_true]
    by_cases hall : SpellsAll t
    · rw [if_pos (beq_iff_eq.mpr (hlower.mpr hall)), meaning, if_pos hall, Except.ok.injEq, eq_comm]
      exact (and_iff_right ⟨hname, .inl hall⟩).symm
    · rw [if_neg fun hb => hall (hlower.mp (beq_iff_eq.mp hb)), meaning, if_neg hall]
      by_cases hknown : reg.contains (String.ofList t) = true
      · rw [if_pos hknown, Except.ok.injEq, eq_comm]
        exact (and_iff_right ⟨hname, .inr (contains_iff.mp hknown)⟩).symm
      · rw [if_neg hknown]
        refine iff_of_false (by intro h; cases h) fun ⟨href, _⟩ => ?_
        exact href.named.elim hall fun hr => hknown (contains_iff.mpr hr)
  · rw [if_pos (Bool.of_not_eq_false fun h => hname (isName_iff.mpr h))]
    exact iff_of_false (by intro h; cases h) fun ⟨href, _⟩ => hname href.toIsName

/-! ### Before the names -/

/-- The forms of a letter, listed. -/
def letterForms (letter : Char) : List Char :=
  letter :: (if letter = 'i' then ['ı', 'İ'] else []) ++ (if letter = 's' then ['ſ'] else []) ++
    [letter.toUpper]

theorem isLetterForm_iff_mem {letter c : Char} :
    isLetterForm letter c = true ↔ c ∈ letterForms letter := by
  simp only [isLetterForm, letterForms, Bool.or_eq_true, Bool.and_eq_true, beq_iff_eq]
  split_ifs <;> simp_all
  all_goals tauto

/-- The forms of the letters of the word are their variants in letter case. -/
theorem isLetterForm_iff {letter c : Char} (h : letter ∈ keyword) :
    isLetterForm letter c = true ↔ codeOf c ∈ caseVariants letter := by
  have hvariants :
      keyword.map caseVariants = keyword.map fun l => (letterForms l).map Char.toNat := by
    decide +kernel
  have hall : (keyword.flatMap letterForms).all (fun d => d.toNat < 0xd800) = true := by
    decide +kernel
  have hlow : ∀ d ∈ letterForms letter, d.toNat < 0xd800 := fun d hd =>
    of_decide_eq_true (List.all_eq_true.mp hall d (List.mem_flatMap.mpr ⟨letter, h, hd⟩))
  rw [isLetterForm_iff_mem, List.map_inj_left.mp hvariants letter h, List.mem_map]
  constructor
  · intro hc
    exact ⟨c, hc, ((codeOf_eq_toNat_iff (hlow c hc)).mpr rfl).symm⟩
  · rintro ⟨d, hd, heq⟩
    rwa [(codeOf_eq_toNat_iff (hlow d hd)).mp heq.symm]

theorem afterWord?_eq_some_iff {word cs rest : List Char} :
    afterWord? word cs = some rest ↔ ∃ found, cs = found ++ rest ∧
      List.Forall₂ (fun letter c => isLetterForm letter c = true) word found := by
  induction word generalizing cs with
  | nil => simp [afterWord?]
  | cons letter word ih =>
    simp only [List.forall₂_cons_left_iff]
    cases cs with
    | nil => simp [afterWord?]
    | cons c cs =>
      rw [afterWord?]
      split_ifs with hc
      · rw [ih]
        constructor
        · rintro ⟨found, rfl, hfound⟩
          exact ⟨c :: found, rfl, c, found, hc, hfound, rfl⟩
        · rintro ⟨_, heq, d, found, -, hfound, rfl⟩
          cases heq
          exact ⟨found, rfl, hfound⟩
      · refine iff_of_false (by simp) ?_
        rintro ⟨_, heq, d, found, hd, -, rfl⟩
        cases heq
        exact hc hd

theorem exists_afterMark (cs : List Char) :
    ∃ mark ∈ [[], [':'], ['=']], cs = mark ++ afterMark cs := by
  unfold afterMark
  split
  · exact ⟨[':'], by simp, rfl⟩
  · exact ⟨['='], by simp, rfl⟩
  · exact ⟨[], by simp, rfl⟩

theorem afterMark_of_head {cs : List Char} (h : ∀ c ∈ cs.head?, IsNameChar c) :
    afterMark cs = cs := by
  unfold afterMark
  split
  · exact absurd (h ':' rfl) (by decide)
  · exact absurd (h '=' rfl) (by decide)
  · rfl

/-- What follows the word, whose letters are given by their variants. -/
theorem afterWord?_keyword {cs rest : List Char} :
    afterWord? keyword cs = some rest ↔ ∃ found, cs = found ++ rest ∧
      List.Forall₂ (fun letter c => codeOf c ∈ caseVariants letter) "disable".toList found := by
  rw [afterWord?_eq_some_iff]
  refine exists_congr fun found => and_congr_right fun _ => ?_
  change List.Forall₂ _ keyword found ↔ List.Forall₂ _ keyword found
  rw [List.forall₂_iff_get, List.forall₂_iff_get]
  refine and_congr_right fun _ => ?_
  simp only [isLetterForm_iff (List.get_mem ..)]

theorem head_of_variants {word : List Char}
    (h : List.Forall₂ (fun letter c => codeOf c ∈ caseVariants letter) "disable".toList word) :
    ∃ c rest, word = c :: rest ∧ isBlank c = false := by
  obtain ⟨c, rest, hc, -, rfl⟩ := List.forall₂_cons_left_iff.mp h
  refine ⟨c, rest, rfl, ?_⟩
  have hform : isLetterForm 'd' c = true := (isLetterForm_iff (by decide)).mpr hc
  rw [isLetterForm_iff_mem] at hform
  have hforms : letterForms 'd' = ['d', 'D'] := by decide
  simp only [hforms, List.mem_cons, List.not_mem_nil, or_false] at hform
  rcases hform with rfl | rfl <;> decide

/-- The body of a directive is trimmed and on one line. -/
theorem frames_of_targetText? {body text : List Char} (h : targetText? text = some body) :
    Frames body text ∧ '\n' ∉ body ∧ (∀ c ∈ body.head?, isBlank c = false) ∧
      ∀ c ∈ body.getLast?, isBlank c = false := by
  obtain ⟨rest, hrest, h⟩ := Option.bind_eq_some_iff.mp h
  obtain ⟨word, hword, hletters⟩ := afterWord?_keyword.mp hrest
  obtain ⟨w₀, hw₀, htext⟩ := exists_dropWhile_isBlank text
  obtain ⟨w₁, hw₁, hrest⟩ := exists_dropWhile_isBlank rest
  obtain ⟨mark, hmark, hmarked⟩ := exists_afterMark (rest.dropWhile isBlank)
  obtain ⟨w₂, hw₂, hafter⟩ := exists_dropWhile_isBlank (afterMark (rest.dropWhile isBlank))
  obtain ⟨w₃, hw₃, hbody⟩ :=
    exists_trimEnd ((afterMark (rest.dropWhile isBlank)).dropWhile isBlank)
  dsimp only at h
  split_ifs at h with hline
  cases h
  refine ⟨⟨w₀, word, w₁, mark, w₂, w₃, ?_, hw₀, hw₁, hw₂, hw₃, hletters, hmark⟩,
    by simpa using hline, head?_trimEnd (head?_dropWhile_isBlank _), getLast?_trimEnd _⟩
  calc text = w₀ ++ (word ++ rest) := by rw [← hword, ← htext]
    _ = w₀ ++ (word ++ (w₁ ++ (mark ++ (w₂ ++ (_ ++ w₃))))) := by
      rw [← hbody, ← hafter, ← hmarked, ← hrest]
    _ = _ := by simp only [List.append_assoc]

theorem targetText?_of_frames {body text : List Char} (h : Frames body text)
    (hline : '\n' ∉ body) (hne : body ≠ []) (hhead : ∀ c ∈ body.head?, IsNameChar c)
    (hlast : ∀ c ∈ body.getLast?, IsNameChar c) : targetText? text = some body := by
  obtain ⟨w₀, word, w₁, mark, w₂, w₃, rfl, hw₀, hw₁, hw₂, hw₃, hletters, hmark⟩ := h
  have hbody : ∀ c ∈ (body ++ w₃).head?, IsNameChar c := by
    rwa [List.head?_append_of_ne_nil _ hne]
  have hsolid : ∀ c ∈ (body ++ w₃).head?, isBlank c = false := fun c hc =>
    (hbody c hc).isBlank_eq_false
  have hword : afterWord? keyword ((w₀ ++ word ++ w₁ ++ mark ++ w₂ ++ body ++ w₃).dropWhile isBlank)
      = some (w₁ ++ (mark ++ (w₂ ++ (body ++ w₃)))) := by
    obtain ⟨c, rest, rfl, hc⟩ := head_of_variants hletters
    refine afterWord?_keyword.mpr ⟨c :: rest, ?_, hletters⟩
    simp only [List.append_assoc]
    exact dropWhile_isBlanks hw₀ (by rintro _ ⟨⟩; exact hc)
  have hmarked : (afterMark ((w₁ ++ (mark ++ (w₂ ++ (body ++ w₃)))).dropWhile isBlank)).dropWhile
      isBlank = body ++ w₃ := by
    simp only [List.mem_cons, List.not_mem_nil, or_false] at hmark
    rw [List.dropWhile_append_of_pos hw₁]
    rcases hmark with rfl | rfl | rfl
    · rw [List.nil_append, dropWhile_isBlanks hw₂ hsolid, afterMark_of_head hbody]
      exact dropWhile_isBlanks (w := []) (by simp [IsBlanks]) hsolid
    · exact dropWhile_isBlanks hw₂ hsolid
    · exact dropWhile_isBlanks hw₂ hsolid
  rw [targetText?, hword]
  simp only [Option.bind_eq_bind, Option.bind_some, hmarked]
  rw [trimEnd_append_isBlanks hw₃ fun c hc => (hlast c hc).isBlank_eq_false,
    if_neg (by simpa using hline)]

/-! ### The names -/

namespace IsName
variable {t : List Char} (h : IsName t)
include h

theorem head (c : Char) (hc : c ∈ t.head?) : IsNameChar c :=
  h.chars c (List.mem_of_head? hc)

theorem last (c : Char) (hc : c ∈ t.getLast?) : IsNameChar c :=
  h.chars c (List.mem_of_getLast? hc)

theorem trimChars_eq {w w' : List Char} (hw : IsBlanks w) (hw' : IsBlanks w') :
    trimChars (w ++ t ++ w') = t :=
  trimChars_padded hw hw' h.nonempty (fun c hc => (h.head c hc).isBlank_eq_false)
    fun c hc => (h.last c hc).isBlank_eq_false

theorem comma_not_mem {w w' : List Char} (hw : IsBlanks w) (hw' : IsBlanks w') :
    ',' ∉ w ++ t ++ w' := by
  have hblank : ∀ {v : List Char}, IsBlanks v → ',' ∉ v := fun hv hmem =>
    absurd (hv _ hmem) (by decide)
  have hname : ',' ∉ t := fun hmem => absurd (h.chars _ hmem) (by decide)
  simp [hblank hw, hblank hw', hname]

end IsName

namespace Lists
variable {refs : List (List Char)} {body : List Char}

/-- Dividing at commas and trimming gives back the names. -/
theorem map_splitChars (h : Lists refs body) (names : ∀ t ∈ refs, IsName t) {w : List Char}
    (hw : IsBlanks w) : (splitChars ',' (w ++ body)).map trimChars = refs := by
  have hnone : IsBlanks [] := fun _ hc => absurd hc List.not_mem_nil
  induction h generalizing w with
  | last t =>
    have ht := names t List.mem_cons_self
    have hsplit := splitChars_of_not_mem (ht.comma_not_mem hw hnone)
    have htrim := ht.trimChars_eq hw hnone
    rw [List.append_nil] at hsplit htrim
    rw [hsplit, List.map_singleton, htrim]
  | @next t w₁ w₂ cs ts hw₁ hw₂ rest ih =>
    obtain ⟨ht, hrest⟩ := List.forall_mem_cons.mp names
    have hparts : w ++ (t ++ w₁ ++ ',' :: (w₂ ++ cs)) = w ++ t ++ w₁ ++ ',' :: (w₂ ++ cs) := by
      simp only [List.append_assoc]
    rw [hparts, splitChars_append (ht.comma_not_mem hw hw₁), List.map_cons,
      ht.trimChars_eq hw hw₁, ih hrest hw₂]

theorem ne_nil (h : Lists refs body) (names : ∀ t ∈ refs, IsName t) : body ≠ [] := by
  cases h with
  | last => exact (names _ List.mem_cons_self).nonempty
  | next => simp

theorem head (h : Lists refs body) (names : ∀ t ∈ refs, IsName t) :
    ∀ c ∈ body.head?, IsNameChar c := by
  cases h with
  | last => exact (names _ List.mem_cons_self).head
  | next =>
    obtain ⟨ht, -⟩ := List.forall_mem_cons.mp names
    rw [List.append_assoc, List.head?_append_of_ne_nil _ ht.nonempty]
    exact ht.head

theorem last_isNameChar (h : Lists refs body) (names : ∀ t ∈ refs, IsName t) :
    ∀ c ∈ body.getLast?, IsNameChar c := by
  induction h with
  | last t => exact (names t List.mem_cons_self).last
  | @next t w₁ w₂ cs ts hw₁ hw₂ rest ih =>
    obtain ⟨-, hrest⟩ := List.forall_mem_cons.mp names
    have hparts : t ++ w₁ ++ ',' :: (w₂ ++ cs) = t ++ w₁ ++ ',' :: w₂ ++ cs := by
      simp only [List.append_assoc, List.cons_append]
    rw [hparts, List.getLast?_append_of_ne_nil _ (rest.ne_nil hrest)]
    exact ih hrest

/-- Pieces between commas are names with blanks around them. -/
theorem exists_of_pieces : ∀ {pieces : List (List Char)}, pieces ≠ [] →
    (∀ c ∈ ([','].intercalate pieces).getLast?, isBlank c = false) →
    ∃ w body, IsBlanks w ∧ [','].intercalate pieces = w ++ body ∧
      Lists (pieces.map trimChars) body
  | [], hne, _ => absurd rfl hne
  | [piece], _, hlast => by
    obtain ⟨w, w', hw, hw', hpiece⟩ := exists_trimChars piece
    have hend : w' = [] := by
      by_contra hne
      rw [List.intercalate_singleton, hpiece, List.getLast?_append_of_ne_nil _ hne,
        List.getLast?_eq_getLast_of_ne_nil hne] at hlast
      have hblank := hw' _ (List.getLast_mem hne)
      rw [hlast _ rfl] at hblank
      cases hblank
    refine ⟨w, trimChars piece, hw, ?_, .last _⟩
    rw [List.intercalate_singleton]
    rwa [hend, List.append_nil] at hpiece
  | piece :: other :: pieces, _, hlast => by
    obtain ⟨w, w', hw, hw', hpiece⟩ := exists_trimChars piece
    have hjoin : [','].intercalate (piece :: other :: pieces) =
        piece ++ ',' :: [','].intercalate (other :: pieces) := by
      simp [List.intercalate]
    have hrest : ∀ c ∈ ([','].intercalate (other :: pieces)).getLast?, isBlank c = false := by
      intro c hc
      apply hlast c
      rw [hjoin, List.getLast?_append, List.getLast?_cons, Option.mem_def.mp hc]
      rfl
    obtain ⟨v, body, hv, heq, hlists⟩ := exists_of_pieces (List.cons_ne_nil _ _) hrest
    refine ⟨w, trimChars piece ++ w' ++ ',' :: (v ++ body), hw, ?_, .next hw' hv hlists⟩
    rw [hjoin, heq]
    nth_rewrite 1 [hpiece]
    simp only [List.append_assoc]

end Lists

/-! ### The reader -/

theorem targets_eq_ok_iff {reg : Registry} {text : String} {names : List String} :
    targets reg.contains text = .ok names ↔
      ∃ body, targetText? text.toList = some body ∧ body ≠ [] ∧
      (∀ part ∈ splitChars ',' body, IsReference reg (trimChars part)) ∧
      names = ((splitChars ',' body).map fun part => meaning (trimChars part)).eraseDups := by
  unfold targets
  cases htext : targetText? text.toList with
  | none => simp
  | some body =>
    cases body with
    | nil => simp
    | cons c rest =>
      have hmap (found : List String) :
          (splitChars ',' (c :: rest)).mapM (target reg.contains) = .ok found ↔ _ ∧ found = _ :=
        mapM_eq_ok_iff target_eq_ok_iff
      constructor
      · intro h
        obtain ⟨found, hfound, h⟩ := bind_ok h
        obtain ⟨hrefs, rfl⟩ := (hmap found).mp hfound
        cases h
        exact ⟨_, rfl, List.cons_ne_nil _ _, hrefs, rfl⟩
      · rintro ⟨_, ⟨⟩, -, hrefs, rfl⟩
        change (_ >>= _) = _
        rw [(hmap _).mpr ⟨hrefs, rfl⟩]
        rfl

end Directive

namespace Registry
open Directive Text

theorem spells_of_parseDirective {reg : Registry} {text : String} {names : List String}
    (h : reg.parseDirective text = .ok names) : ∃ refs, Spells reg refs text := by
  obtain ⟨body, htext, -, hrefs, -⟩ := targets_eq_ok_iff.mp h
  obtain ⟨hframes, hline, hhead, hlast⟩ := frames_of_targetText? htext
  have hne : splitChars ',' body ≠ [] := by
    rw [splitChars_eq_splitOn]
    exact List.splitOnP_ne_nil _ _
  have hjoin := intercalate_splitChars ',' body
  obtain ⟨w, list, hw, heq, hlists⟩ := Lists.exists_of_pieces hne (by rwa [hjoin])
  rw [hjoin] at heq
  -- The body starts with no blank, so none stands before the first name.
  have hstart : w = [] := by
    cases w with
    | nil => rfl
    | cons c rest =>
      have hblank := hw c List.mem_cons_self
      rw [hhead c (by rw [heq]; rfl)] at hblank
      cases hblank
  rw [hstart, List.nil_append] at heq
  subst heq
  refine ⟨_, ⟨body, hframes, hlists, hline⟩, fun t ht => ?_⟩
  obtain ⟨part, hpart, rfl⟩ := List.mem_map.mp ht
  exact hrefs part hpart

theorem parseDirective_of_spells {reg : Registry} {text : String} {refs : List (List Char)}
    (h : Spells reg refs text) : reg.parseDirective text = .ok (refs.map meaning).eraseDups := by
  obtain ⟨body, hframes, hlists, hline⟩ := h.form
  have hnames : ∀ t ∈ refs, IsName t := fun t ht => (h.references t ht).toIsName
  have hsplit := hlists.map_splitChars hnames (w := []) fun _ hc => absurd hc List.not_mem_nil
  rw [List.nil_append] at hsplit
  refine targets_eq_ok_iff.mpr ⟨body, ?_, hlists.ne_nil hnames, fun part hpart => ?_, ?_⟩
  · exact targetText?_of_frames hframes hline (hlists.ne_nil hnames) (hlists.head hnames)
      (hlists.last_isNameChar hnames)
  · exact h.references _ (hsplit ▸ List.mem_map_of_mem hpart)
  · rw [← hsplit, List.map_map]
    rfl

/-- The reader of directives accepts the texts of its grammar and no others, and gives what the
names in them stand for, each once. -/
theorem parseDirective_grammar (reg : Registry) (text : String) :
    ((∃ names, reg.parseDirective text = .ok names) ↔ ∃ refs, Spells reg refs text) ∧
    (∀ refs names, Spells reg refs text → reg.parseDirective text = .ok names →
      names.Nodup ∧ ∀ name, name ∈ names ↔ ∃ t ∈ refs, meaning t = name) ∧
    ((¬ ∃ refs, Spells reg refs text) → ∃ error, reg.parseDirective text = .error error) := by
  refine ⟨⟨fun ⟨_, h⟩ => spells_of_parseDirective h, fun ⟨_, h⟩ =>
    ⟨_, parseDirective_of_spells h⟩⟩, fun refs names hspells hnames => ?_, fun hnone => ?_⟩
  · rw [parseDirective_of_spells hspells] at hnames
    cases hnames
    exact ⟨nodup_eraseDups _, fun name => by simp [List.mem_eraseDups]⟩
  · cases h : reg.parseDirective text with
    | ok names => exact absurd (spells_of_parseDirective h) hnone
    | error error => exact ⟨error, rfl⟩

/-- A registry that knows one rule. -/
def loneRegistry : Registry where
  config := {}
  entries := [(Rule.suppressionSyntax, .null)]

theorem parseDirective_grammar_loneRegistry :
    (∃ names, loneRegistry.parseDirective "\u00a0Dıſable\n=ALL ,\tengine/suppression-syntax\n" =
      .ok names ∧ "all" ∈ names ∧ "engine/suppression-syntax" ∈ names) ∧
    ∃ error, loneRegistry.parseDirective "disable all,\nall" = .error error := by
  have hspells : Spells loneRegistry ["ALL".toList, "engine/suppression-syntax".toList]
      "\u00a0Dıſable\n=ALL ,\tengine/suppression-syntax\n" := by
    refine ⟨⟨"ALL ,\tengine/suppression-syntax".toList, ⟨['\u00a0'], "Dıſable".toList, ['\n'],
      ['='], [], ['\n'], by decide, by decide, by decide, by decide, by decide, ?_, by decide⟩,
      @Lists.next "ALL".toList [' '] ['\t'] _ _ (by decide) (by decide) (.last _), by decide⟩, ?_⟩
    · decide +kernel
    · simp only [List.forall_mem_cons, List.not_mem_nil, false_implies, implies_true, and_true]
      exact ⟨⟨by decide, .inl (by decide)⟩, ⟨by decide, .inr ⟨_, List.mem_cons_self, rfl⟩⟩⟩
  have hbroken : ¬ ∃ refs, Spells loneRegistry refs "disable all,\nall" := fun h => by
    obtain ⟨names, hnames⟩ := (parseDirective_grammar _ _).1.mpr h
    have herror : loneRegistry.parseDirective "disable all,\nall" = .error .notDirective := by
      decide +kernel
    rw [herror] at hnames
    cases hnames
  obtain ⟨names, hnames⟩ := (parseDirective_grammar _ _).1.mpr ⟨_, hspells⟩
  have hmeaning := ((parseDirective_grammar _ _).2.1 _ _ hspells hnames).2
  refine ⟨⟨names, hnames, (hmeaning _).mpr ⟨"ALL".toList, List.mem_cons_self, by decide⟩, ?_⟩,
    (parseDirective_grammar _ _).2.2 hbroken⟩
  exact (hmeaning _).mpr ⟨_, List.mem_cons_of_mem _ List.mem_cons_self, by decide⟩

end Registry

end Conformance
