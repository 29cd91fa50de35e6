import Conformance.Pattern.Basic
import Mathlib.Algebra.BigOperators.Group.List.Basic
import Mathlib.Computability.Language

/-!
# The languages of patterns

A pattern without anchors, references, atomic parts and looks to either side stands for a regular
language. For such a pattern the order in which its alternatives are tried does not matter: it
matches a whole text exactly if the text is a word of its language, `Pattern.matchesWhole_iff`. The
matcher does not repeat a step that took nothing; a word of a power is also a product of nonempty
words, so nothing is lost by that.
-/

namespace Conformance

namespace Pattern

/-- At least `least` and at most `most` words of a language, one after another. -/
def powers (least : Nat) (most : Option Nat) (l : Language Char) : Language Char :=
  {w | ∃ n, least ≤ n ∧ (∀ m ∈ most, n ≤ m) ∧ w ∈ l ^ n}

/-- The words of a pattern; those that are not regular are given none. -/
def language : Pattern → Language Char
  | empty => 1
  | char s => {w | ∃ x, s.admits x = true ∧ w = [x]}
  | seq first second => first.language * second.language
  | alt first second => first.language + second.language
  | repetition _ least most body => powers least most body.language
  | group _ body => body.language
  | _ => 0

theorem language_seq (p q : Pattern) : (seq p q).language = p.language * q.language := rfl

theorem language_alt (p q : Pattern) : (alt p q).language = p.language + q.language := rfl

theorem language_repetition (greed : Greed) (least : Nat) (most : Option Nat) (p : Pattern) :
    (repetition greed least most p).language = powers least most p.language := rfl

/-- Whether a pattern is made of characters, sequences, alternatives, groups and repetitions that
give back what they took. -/
def isRegular : Pattern → Bool
  | empty => true
  | char _ => true
  | seq first second => first.isRegular && second.isRegular
  | alt first second => first.isRegular && second.isRegular
  | repetition greed least most body =>
    greed != .possessive && most.all (least ≤ ·) && body.isRegular
  | group _ body => body.isRegular
  | _ => false

/-! ## Places and words -/

namespace Cursor

/-- From one place to a later one over the characters of a word. -/
structure Reads (c : Cursor) (w : List Char) (d : Cursor) : Prop where
  after : c.after = w ++ d.after
  before : d.before = w.reverse ++ c.before

/-- A word of the language leads to a place with the property. -/
def Leads (c : Cursor) (l : Language Char) (P : Cursor → Prop) : Prop :=
  ∃ w ∈ l, ∃ d, c.Reads w d ∧ P d

variable {c d e : Cursor} {v w : List Char} {l m : Language Char} {P Q : Cursor → Prop}

theorem reads_nil : c.Reads [] d ↔ d = c := by
  constructor
  · rintro ⟨hafter, hbefore⟩
    obtain ⟨before, after⟩ := d
    obtain rfl : before = c.before := hbefore
    obtain rfl : c.after = after := hafter
    rfl
  · rintro rfl
    exact ⟨rfl, rfl⟩

theorem reads_append : c.Reads (v ++ w) e ↔ ∃ d, c.Reads v d ∧ d.Reads w e := by
  constructor
  · rintro ⟨hafter, hbefore⟩
    refine ⟨⟨v.reverse ++ c.before, w ++ e.after⟩, ⟨?_, rfl⟩, ⟨rfl, ?_⟩⟩
    · rw [hafter, List.append_assoc]
    · rw [hbefore, List.reverse_append, List.append_assoc]
  · rintro ⟨d, hv, hw⟩
    constructor
    · rw [hv.after, hw.after, List.append_assoc]
    · rw [hw.before, hv.before, List.reverse_append, List.append_assoc]

theorem Reads.left_eq (h : c.Reads w d) : c.left = w.length + d.left := by
  rw [left, h.after, List.length_append, left]

theorem Leads.imp (h : c.Leads l P) (hPQ : ∀ d, P d → Q d) : c.Leads l Q := by
  obtain ⟨w, hw, d, hd, hP⟩ := h
  exact ⟨w, hw, d, hd, hPQ d hP⟩

theorem leads_congr (h : ∀ d, P d ↔ Q d) : c.Leads l P ↔ c.Leads l Q :=
  ⟨fun hP => hP.imp fun d => (h d).mp, fun hQ => hQ.imp fun d => (h d).mpr⟩

theorem leads_one : c.Leads 1 P ↔ P c := by
  constructor
  · rintro ⟨w, rfl, d, hd, hP⟩
    rwa [← reads_nil.mp hd]
  · intro hP
    exact ⟨[], rfl, c, reads_nil.mpr rfl, hP⟩

theorem leads_mul : c.Leads (l * m) P ↔ c.Leads l fun d => d.Leads m P := by
  constructor
  · rintro ⟨w, hw, e, he, hP⟩
    obtain ⟨u, hu, v, hv, rfl⟩ := Language.mem_mul.mp hw
    obtain ⟨d, hd, hde⟩ := reads_append.mp he
    exact ⟨u, hu, d, hd, v, hv, e, hde, hP⟩
  · rintro ⟨u, hu, d, hd, v, hv, e, he, hP⟩
    exact ⟨u ++ v, Language.append_mem_mul hu hv, e, reads_append.mpr ⟨d, hd, he⟩, hP⟩

theorem leads_add : c.Leads (l + m) P ↔ c.Leads l P ∨ c.Leads m P := by
  constructor
  · rintro ⟨w, hw | hw, d, hd, hP⟩
    · exact .inl ⟨w, hw, d, hd, hP⟩
    · exact .inr ⟨w, hw, d, hd, hP⟩
  · rintro (⟨w, hw, d, hd, hP⟩ | ⟨w, hw, d, hd, hP⟩)
    · exact ⟨w, .inl hw, d, hd, hP⟩
    · exact ⟨w, .inr hw, d, hd, hP⟩

end Cursor

/-! ## Steps that follow a language -/

/-- Whether the rest succeeds does not depend on what the groups have taken. -/
def Rest.Blind (k : Rest) : Prop := ∀ c g h, (k c g).isSome = (k c h).isSome

/-- A step goes on to the rest from the places that the words of a language lead to. -/
def Follows (step : Rest → Rest) (l : Language Char) : Prop :=
  ∀ k, Rest.Blind k → ∀ c g, (step k c g).isSome = true ↔ c.Leads l fun d => (k d g).isSome = true

section Steps
variable {step : Rest → Rest} {l : Language Char} {k : Rest}

theorem Follows.blind (follows : Follows step l) (blind : Rest.Blind k) :
    Rest.Blind (step k) := by
  intro c g h
  rw [Bool.eq_iff_iff, follows k blind, follows k blind]
  exact Cursor.leads_congr fun d => by rw [blind d g h]

theorem follows_times (follows : Follows step l) (n : Nat) :
    Follows (fun k => times step k n) (l ^ n) := by
  induction n with
  | zero =>
    intro k _ c g
    rw [pow_zero, Cursor.leads_one]
    rfl
  | succ n ih =>
    intro k blind c g
    rw [pow_succ', Cursor.leads_mul]
    exact (follows _ (ih.blind blind) c g).trans (Cursor.leads_congr fun d => ih k blind d g)

/-! ### Repeated steps -/

/-- A repetition tries the rest, and a step with the repetition after it, in some order. It has no
step left if its room is used up or if the last step took nothing. -/
structure IsLoop (step : Rest → Rest) (k : Rest) (loop : Nat → Option Nat → Option Nat → Rest) :
    Prop where
  zero : ∀ room last c g, (loop 0 room last c g).isSome = (k c g).isSome
  succ : ∀ fuel room last c g, (loop (fuel + 1) room last c g).isSome = true ↔
    (k c g).isSome = true ∨ room ≠ some 0 ∧ last ≠ some c.left ∧
      (step (loop fuel (room.map (· - 1)) (some c.left)) c g).isSome = true

theorem isLoop_greedily (step : Rest → Rest) (k : Rest) : IsLoop step k (greedily step k) where
  zero room last c g := rfl
  succ fuel room last c g := by
    rw [greedily]
    split
    · rename_i hstop
      simp only [Bool.or_eq_true, beq_iff_eq] at hstop
      tauto
    · rename_i hgo
      simp only [Bool.or_eq_true, beq_iff_eq, not_or] at hgo
      cases step (greedily step k fuel (room.map (· - 1)) (some c.left)) c g with
      | none => simp
      | some r => simp [hgo]

theorem isLoop_reluctantly (step : Rest → Rest) (k : Rest) :
    IsLoop step k (reluctantly step k) where
  zero room last c g := rfl
  succ fuel room last c g := by
    rw [reluctantly]
    cases k c g with
    | some r => simp
    | none =>
      dsimp only
      split
      · rename_i hstop
        simp only [Bool.or_eq_true, beq_iff_eq] at hstop
        simp
        tauto
      · rename_i hgo
        simp only [Bool.or_eq_true, beq_iff_eq, not_or] at hgo
        simp [hgo]

section Loops
variable {loop : Nat → Option Nat → Option Nat → Rest}
variable (follows : Follows step l) (hk : Rest.Blind k) (isLoop : IsLoop step k loop)
include follows hk isLoop

theorem IsLoop.blind (fuel : Nat) : ∀ room last, Rest.Blind (loop fuel room last) := by
  induction fuel with
  | zero =>
    intro room last c g h
    rw [isLoop.zero, isLoop.zero, hk c g h]
  | succ fuel ih =>
    intro room last c g h
    rw [Bool.eq_iff_iff, isLoop.succ, isLoop.succ, hk c g h, follows.blind (ih _ _) c g h]

/-- A repetition that succeeds has taken some number of words, for which there was room. -/
theorem IsLoop.sound {fuel : Nat} {room last : Option Nat} {c : Cursor} {g : Captures}
    (h : (loop fuel room last c g).isSome = true) :
    c.Leads (powers 0 room l) fun d => (k d g).isSome = true := by
  have hnone {c : Cursor} {room : Option Nat} (h : (k c g).isSome = true) :
      c.Leads (powers 0 room l) fun d => (k d g).isSome = true :=
    ⟨[], ⟨0, le_rfl, fun m _ => m.zero_le, rfl⟩, c, Cursor.reads_nil.mpr rfl, h⟩
  induction fuel generalizing room last c with
  | zero =>
    rw [isLoop.zero] at h
    exact hnone h
  | succ fuel ih =>
    rcases (isLoop.succ ..).mp h with h | ⟨hroom, -, h⟩
    · exact hnone h
    · obtain ⟨v, hv, d, hd, hloop⟩ := (follows _ (isLoop.blind follows hk fuel _ _) c g).mp h
      obtain ⟨w, ⟨n, -, hn, hw⟩, e, he, hk⟩ := ih hloop
      refine ⟨v ++ w, ⟨n + 1, (n + 1).zero_le, ?_, ?_⟩, e, Cursor.reads_append.mpr ⟨d, hd, he⟩, hk⟩
      · intro m hm
        cases Option.mem_def.mp hm
        have hpos : m ≠ 0 := fun h => hroom (congrArg some h)
        have := hn (m - 1) rfl
        omega
      · rw [pow_succ']
        exact Language.append_mem_mul hv hw

/-- Nonempty words can be taken one by one, as long as there is room and fuel for them. -/
theorem IsLoop.complete {words : List (List Char)} (hwords : ∀ w ∈ words, w ∈ l ∧ w ≠ [])
    {fuel : Nat} {room last : Option Nat} {c d : Cursor} {g : Captures}
    (hroom : ∀ m ∈ room, words.length ≤ m) (hfuel : words.length ≤ fuel)
    (hlast : last ≠ some c.left) (reads : c.Reads words.flatten d)
    (h : (k d g).isSome = true) : (loop fuel room last c g).isSome = true := by
  induction words generalizing fuel room last c with
  | nil =>
    rw [List.flatten_nil, Cursor.reads_nil] at reads
    subst reads
    cases fuel with
    | zero => rwa [isLoop.zero]
    | succ fuel => exact (isLoop.succ ..).mpr (.inl h)
  | cons w words ih =>
    obtain ⟨⟨hw, hne⟩, hrest⟩ := List.forall_mem_cons.mp hwords
    obtain ⟨e, hwe, hed⟩ := Cursor.reads_append.mp reads
    obtain ⟨fuel, rfl⟩ : ∃ n, fuel = n + 1 := Nat.exists_eq_succ_of_ne_zero (by
      rw [List.length_cons] at hfuel
      omega)
    have hsmaller : (some c.left : Option Nat) ≠ some e.left := by
      have := List.length_pos_iff.mpr hne
      have := hwe.left_eq
      simp only [ne_eq, Option.some.injEq]
      omega
    have hnext : (loop fuel (room.map (· - 1)) (some c.left) e g).isSome = true := by
      refine ih hrest ?_ (Nat.le_of_succ_le_succ hfuel) hsmaller hed
      intro m hm
      obtain ⟨n, hn, rfl⟩ := Option.map_eq_some_iff.mp hm
      exact Nat.le_sub_one_of_lt (hroom n hn)
    refine (isLoop.succ ..).mpr (.inr ⟨?_, hlast, ?_⟩)
    · rintro rfl
      exact absurd (hroom 0 rfl) (by simp)
    · exact (follows _ (isLoop.blind follows hk fuel _ _) c g).mpr ⟨w, hw, e, hwe, hnext⟩

end Loops

/-- A word of a power is a product of as many words at most, none of which is empty. -/
theorem exists_nonempty_words {w : List Char} {n : Nat} (h : w ∈ l ^ n) :
    ∃ words : List (List Char), words.flatten = w ∧ words.length ≤ n ∧
      words.length ≤ w.length ∧ ∀ v ∈ words, v ∈ l ∧ v ≠ [] := by
  obtain ⟨all, rfl, rfl, hall⟩ := Language.mem_pow.mp h
  have hwords : ∀ v ∈ all.filter fun v => !v.isEmpty, v ∈ l ∧ v ≠ [] := by
    intro v hv
    obtain ⟨hv, hne⟩ := List.mem_filter.mp hv
    exact ⟨hall v hv, by simpa using hne⟩
  have hlength (words : List (List Char)) (h : ∀ v ∈ words, v ∈ l ∧ v ≠ []) :
      words.length ≤ words.flatten.length := by
    rw [List.length_flatten, ← List.length_map (f := List.length)]
    apply List.length_le_sum_of_one_le
    intro i hi
    obtain ⟨v, hv, rfl⟩ := List.mem_map.mp hi
    exact List.length_pos_iff.mpr (h v hv).2
  refine ⟨_, List.flatten_filter_not_isEmpty, List.length_filter_le _ _, ?_, hwords⟩
  rw [← List.flatten_filter_not_isEmpty (L := all)]
  exact hlength _ hwords

theorem powers_eq_mul {least : Nat} {most : Option Nat} (h : ∀ m ∈ most, least ≤ m) :
    powers least most l = l ^ least * powers 0 (most.map (· - least)) l := by
  ext w
  rw [Language.mem_mul]
  constructor
  · rintro ⟨n, hleast, hmost, hw⟩
    rw [← Nat.add_sub_cancel' hleast, pow_add] at hw
    obtain ⟨u, hu, v, hv, rfl⟩ := Language.mem_mul.mp hw
    refine ⟨u, hu, v, ⟨n - least, Nat.zero_le _, ?_, hv⟩, rfl⟩
    intro room hroom
    obtain ⟨m, hm, rfl⟩ := Option.map_eq_some_iff.mp hroom
    exact Nat.sub_le_sub_right (hmost m hm) least
  · rintro ⟨u, hu, v, ⟨n, -, hn, hv⟩, rfl⟩
    refine ⟨least + n, Nat.le_add_right _ _, ?_, ?_⟩
    · intro m hm
      have := hn (m - least) (Option.map_eq_some_iff.mpr ⟨m, hm, rfl⟩)
      have := h m hm
      omega
    · rw [pow_add]
      exact Language.append_mem_mul hu hv

/-- A repetition whose fuel is more than the number of characters left follows the powers of the
language of its step. -/
theorem follows_loop (follows : Follows step l) {least : Nat} {most : Option Nat}
    (h : ∀ m ∈ most, least ≤ m) {loop : Rest → Nat → Option Nat → Option Nat → Rest}
    (isLoop : ∀ k, IsLoop step k (loop k)) :
    Follows (fun k => times step
      (fun c g => loop k (2 * c.left + 2) (most.map (· - least)) none c g) least)
      (powers least most l) := by
  have hloop : Follows (fun k c g => loop k (2 * c.left + 2) (most.map (· - least)) none c g)
      (powers 0 (most.map (· - least)) l) := by
    intro k hk c g
    constructor
    · exact fun hsome => (isLoop k).sound follows hk hsome
    · rintro ⟨w, ⟨n, -, hn, hw⟩, d, hd, hsome⟩
      obtain ⟨words, rfl, hcount, hlength, hwords⟩ := exists_nonempty_words hw
      have hleft := hd.left_eq
      refine (isLoop k).complete follows hk hwords ?_ (by omega) (Option.some_ne_none _).symm hd
        hsome
      exact fun m hm => hcount.trans (hn m hm)
  intro k hk c g
  rw [powers_eq_mul h, Cursor.leads_mul]
  exact (follows_times follows least _ (hloop.blind hk) c g).trans
    (Cursor.leads_congr fun d => hloop k hk d g)

end Steps

/-! ### Runs of characters -/

theorem firstOf_isSome {k : Rest} {g : Captures} {places : List Cursor} :
    (firstOf k g places).isSome = true ↔ ∃ d ∈ places, (k d g).isSome = true := by
  induction places with
  | nil => simp [firstOf]
  | cons c others ih =>
    rw [firstOf, List.exists_mem_cons_iff, ← ih]
    cases k c g <;> simp

namespace Cursor

/-- The place a number of characters later. -/
def advance (c : Cursor) (n : Nat) : Cursor :=
  ⟨(c.after.take n).reverse ++ c.before, c.after.drop n⟩

theorem reads_advance (c : Cursor) (n : Nat) : c.Reads (c.after.take n) (c.advance n) :=
  ⟨(List.take_append_drop n c.after).symm, rfl⟩

theorem Reads.eq_advance {c d : Cursor} {w : List Char} (h : c.Reads w d) :
    w = c.after.take w.length ∧ d = c.advance w.length := by
  obtain ⟨before, after⟩ := d
  have hafter := h.after
  have hbefore := h.before
  constructor
  · rw [hafter, List.take_left]
  · rw [advance, hafter, List.take_left, List.drop_left, ← hbefore]

/-- The places of a run are those that a number of characters of the class lead to, up to the first
that is not in the class and up to the bound. -/
theorem run_eq (s : CharClass) (before : List Char) (found : List Cursor) (room : Option Nat)
    (rest : List Char) :
    ∃ most, run s before found room rest =
        ((List.range most).map fun n => advance ⟨before, rest⟩ (n + 1)).reverse ++ found ∧
      ∀ n, n ≤ most ↔
        n ≤ rest.length ∧ (∀ m ∈ room, n ≤ m) ∧ ∀ x ∈ rest.take n, s.admits x = true := by
  fun_induction run s before found room rest with
  | case1 before found rest =>
    refine ⟨0, rfl, fun n => ⟨fun h => ?_, fun h => h.2.1 0 rfl⟩⟩
    rw [Nat.le_zero.mp h]
    simp
  | case2 before found room _ => exact ⟨0, rfl, by simp⟩
  | case3 before found room x rest hroom hx ih =>
    obtain ⟨most, hrun, hmost⟩ := ih
    refine ⟨most + 1, ?_, fun n => ?_⟩
    · rw [hrun, List.range_succ_eq_map, List.map_cons, List.reverse_cons, List.append_assoc,
        List.map_map]
      simp [advance, Function.comp_def]
    · cases n with
      | zero => simp
      | succ n =>
        have hroom' : (∀ m ∈ room.map (· - 1), n ≤ m) ↔ ∀ m ∈ room, n + 1 ≤ m := by
          cases room with
          | none => simp
          | some m =>
            have hpos : m ≠ 0 := fun h => hroom (congrArg some h)
            simp only [Option.map_some, Option.mem_def, Option.some.injEq, forall_eq']
            omega
        rw [Nat.succ_le_succ_iff, hmost, hroom', List.take_succ_cons, List.forall_mem_cons,
          List.length_cons, Nat.succ_le_succ_iff]
        simp only [hx, true_and]
  | case4 before found room x rest hroom hx =>
    refine ⟨0, rfl, fun n => ?_⟩
    cases n with
    | zero => simp
    | succ n => simp [hx]

/-- The places of a run from which at least so many characters were taken. -/
theorem mem_run_take {s : CharClass} {c d : Cursor} {least : Nat} {most : Option Nat} :
    d ∈ (run s c.before [c] most c.after).take
        ((run s c.before [c] most c.after).length - least) ↔
      ∃ n, least ≤ n ∧ n ≤ c.after.length ∧ (∀ m ∈ most, n ≤ m) ∧
        (∀ x ∈ c.after.take n, s.admits x = true) ∧ d = c.advance n := by
  obtain ⟨last, hrun, hlast⟩ := run_eq s c.before [c] most c.after
  have hplaces : run s c.before [c] most c.after =
      ((List.range (last + 1)).map c.advance).reverse := by
    rw [hrun, List.range_succ_eq_map, List.map_cons, List.reverse_cons, List.map_map]
    rfl
  rw [hplaces, List.take_reverse, List.mem_reverse, List.mem_drop_iff_getElem]
  simp only [List.length_reverse, List.length_map, List.length_range, List.getElem_map,
    List.getElem_range]
  constructor
  · rintro ⟨i, hi, rfl⟩
    obtain ⟨hlength, hmost, hadmits⟩ := (hlast (last + 1 - (last + 1 - least) + i)).mp (by omega)
    exact ⟨_, by omega, hlength, hmost, hadmits, rfl⟩
  · rintro ⟨n, hleast, hlength, hmost, hadmits, rfl⟩
    have hn := (hlast n).mpr ⟨hlength, hmost, hadmits⟩
    exact ⟨n - least, by omega, congrArg c.advance (by omega)⟩

end Cursor

theorem mem_char_pow {s : CharClass} {n : Nat} {w : List Char} :
    w ∈ (char s).language ^ n ↔ w.length = n ∧ ∀ x ∈ w, s.admits x = true := by
  induction n generalizing w with
  | zero =>
    rw [pow_zero, Language.mem_one, List.length_eq_zero_iff]
    exact ⟨fun h => ⟨h, by simp [h]⟩, fun h => h.1⟩
  | succ n ih =>
    rw [pow_succ', Language.mem_mul]
    constructor
    · rintro ⟨_, ⟨x, hx, rfl⟩, v, hv, rfl⟩
      obtain ⟨hlength, hadmits⟩ := ih.mp hv
      exact ⟨congrArg (· + 1) hlength, List.forall_mem_cons.mpr ⟨hx, hadmits⟩⟩
    · rintro ⟨hlength, hadmits⟩
      cases w with
      | nil => cases hlength
      | cons x v =>
        obtain ⟨hx, hv⟩ := List.forall_mem_cons.mp hadmits
        exact ⟨[x], ⟨x, hx, rfl⟩, v, ih.mpr ⟨Nat.succ.inj hlength, hv⟩, rfl⟩

theorem follows_runThen {greed : Greed} (hgreed : greed ≠ .possessive) (least : Nat)
    (most : Option Nat) (s : CharClass) :
    Follows (runThen greed least most s) (powers least most (char s).language) := by
  intro k _ c g
  have hplaces : (runThen greed least most s k c g).isSome = true ↔
      ∃ d ∈ (Cursor.run s c.before [c] most c.after).take
        ((Cursor.run s c.before [c] most c.after).length - least), (k d g).isSome = true := by
    unfold runThen
    cases greed with
    | greedy => exact firstOf_isSome
    | reluctant => simp only [firstOf_isSome, List.mem_reverse]
    | possessive => exact absurd rfl hgreed
  simp only [hplaces, Cursor.mem_run_take]
  constructor
  · rintro ⟨_, ⟨n, hleast, hlength, hmost, hadmits, rfl⟩, hk⟩
    refine ⟨c.after.take n, ⟨n, hleast, hmost, mem_char_pow.mpr ⟨?_, hadmits⟩⟩, _,
      c.reads_advance n, hk⟩
    exact List.length_take_of_le hlength
  · rintro ⟨w, ⟨n, hleast, hmost, hw⟩, d, hd, hk⟩
    obtain ⟨rfl, hadmits⟩ := mem_char_pow.mp hw
    obtain ⟨htake, rfl⟩ := hd.eq_advance
    refine ⟨_, ⟨w.length, hleast, ?_, hmost, htake ▸ hadmits, rfl⟩, hk⟩
    rw [hd.after, List.length_append]
    exact Nat.le_add_right _ _

/-! ## Matching -/

theorem follows_char (s : CharClass) : Follows (char s).thenMatch (char s).language := by
  intro k _ c g
  constructor
  · intro h
    obtain ⟨before, after⟩ := c
    cases after with
    | nil => cases h
    | cons x rest =>
      by_cases hx : s.admits x = true
      · simp only [thenMatch, Cursor.step?, hx, if_true] at h
        exact ⟨[x], ⟨x, hx, rfl⟩, _, ⟨rfl, rfl⟩, h⟩
      · simp [thenMatch, Cursor.step?, hx] at h
  · rintro ⟨_, ⟨x, hx, rfl⟩, d, ⟨hafter, hbefore⟩, hk⟩
    have hstep : c.step? s = some d := by
      rw [Cursor.step?, hafter]
      simp only [List.singleton_append, hx, if_true]
      exact congrArg some (congrArg (Cursor.mk · d.after) hbefore.symm)
    simp only [thenMatch, hstep, hk]

theorem thenMatch_repetition {greed : Greed} {least : Nat} {most : Option Nat} {body : Pattern}
    (h : ∀ s, body ≠ char s) :
    (repetition greed least most body).thenMatch = loopThen greed least most body.thenMatch := by
  cases body with
  | char s => exact absurd rfl (h s)
  | _ => rfl

/-- A regular pattern goes on to the rest from exactly the places that its words lead to. -/
theorem follows_thenMatch {p : Pattern} (regular : p.isRegular = true) :
    Follows p.thenMatch p.language := by
  induction p with
  | empty =>
    intro k _ c g
    exact (Cursor.leads_one (P := fun d => (k d g).isSome = true)).symm
  | char s => exact follows_char s
  | seq first second ihFirst ihSecond =>
    simp only [isRegular, Bool.and_eq_true] at regular
    have hsecond := ihSecond regular.2
    intro k hk c g
    rw [language_seq, Cursor.leads_mul]
    exact (ihFirst regular.1 _ (hsecond.blind hk) c g).trans
      (Cursor.leads_congr fun d => hsecond k hk d g)
  | alt first second ihFirst ihSecond =>
    simp only [isRegular, Bool.and_eq_true] at regular
    intro k hk c g
    rw [language_alt, Cursor.leads_add, ← ihFirst regular.1 k hk, ← ihSecond regular.2 k hk]
    cases hfirst : first.thenMatch k c g <;> simp [thenMatch, hfirst]
  | repetition greed least most body ih =>
    simp only [isRegular, Bool.and_eq_true, bne_iff_ne, Option.all_eq_true, decide_eq_true_eq]
      at regular
    obtain ⟨⟨hgreed, hmost⟩, hbody⟩ := regular
    by_cases hchar : ∃ s, body = char s
    · obtain ⟨s, rfl⟩ := hchar
      exact follows_runThen hgreed least most s
    · rw [thenMatch_repetition (not_exists.mp hchar)]
      cases greed with
      | greedy => exact follows_loop (ih hbody) hmost (isLoop_greedily _)
      | reluctant => exact follows_loop (ih hbody) hmost (isLoop_reluctantly _)
      | possessive => exact absurd rfl hgreed
  | group number body ih =>
    intro k hk c g
    rw [thenMatch, ih regular _ fun d h h' => hk d _ _]
    exact Cursor.leads_congr fun d => by rw [hk d _ g]
  | _ => cases regular

/-- A regular pattern matches a whole text exactly if the text is one of its words. -/
theorem matchesWhole_iff {p : Pattern} (regular : p.isRegular = true) (s : String) :
    p.matchesWhole s = true ↔ s.toList ∈ p.language := by
  have hend (d : Cursor) (g : Captures) : (atEnd d g).isSome = true ↔ d.after = [] := by
    simp [atEnd]
  have hblind : Rest.Blind atEnd := by
    intro c g h
    rw [Bool.eq_iff_iff, hend, hend]
  rw [matchesWhole, follows_thenMatch regular atEnd hblind]
  constructor
  · rintro ⟨w, hw, d, hd, hdone⟩
    have hafter : s.toList = w ++ d.after := hd.after
    rwa [hafter, (hend d []).mp hdone, List.append_nil]
  · intro hw
    exact ⟨s.toList, hw, ⟨s.toList.reverse, []⟩,
      ⟨(List.append_nil _).symm, (List.append_nil _).symm⟩, (hend _ _).mpr rfl⟩

end Pattern

end Conformance
