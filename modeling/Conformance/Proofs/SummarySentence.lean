import Conformance.Check.Documentation
import Conformance.Proofs.DirectiveGrammar
import Conformance.Symbol.Reading
import Mathlib.Data.String.Basic
import Mathlib.Algebra.Order.Group.Nat

/-!
# Summaries of one sentence

Whether a summary ends a sentence is found out when its comment is read, on the text as written; the
check looks at the trimmed text later. Blanks around the text make no difference to the search, so
the two agree, and the check asks for a full stop at the end of the trimmed text and for none before
it that white space follows.
-/

namespace Conformance

/-! ### The end of a sentence -/

/-- A full stop stands at the place, and white space follows it. -/
def StopsEarly (cs : List Char) (i : Nat) : Prop :=
  cs[i]? = some '.' ∧ ∃ c, cs[i + 1]? = some c ∧ Text.isBlank c = true

instance (cs : List Char) (i : Nat) : Decidable (StopsEarly cs i) :=
  decidable_of_iff (cs[i]? = some '.' ∧ cs[i + 1]?.any Text.isBlank = true)
    (by simp only [StopsEarly, Option.any_eq_true])

/-- A full stop stands at the place, and white space or nothing follows it. -/
def StopsAt (cs : List Char) (i : Nat) : Prop :=
  cs[i]? = some '.' ∧ ∀ c, cs[i + 1]? = some c → Text.isBlank c = true

section Stops
variable {cs : List Char} {i : Nat}

theorem StopsEarly.stopsAt (h : StopsEarly cs i) : StopsAt cs i := by
  obtain ⟨hdot, c, hc, hblank⟩ := h
  refine ⟨hdot, fun c' hc' => ?_⟩
  cases hc.symm.trans hc'
  exact hblank

/-- A sentence that ends does so early, or at the end of the text. -/
theorem StopsAt.cases (h : StopsAt cs i) : StopsEarly cs i ∨ i + 1 = cs.length := by
  obtain ⟨hdot, hafter⟩ := h
  cases hnext : cs[i + 1]? with
  | some c => exact Or.inl ⟨hdot, c, hnext, hafter c hnext⟩
  | none =>
    obtain ⟨hi, _⟩ := List.getElem?_eq_some_iff.mp hdot
    have := List.getElem?_eq_none_iff.mp hnext
    exact Or.inr (by omega)

theorem stopsAt_last (h : cs.getLast? = some '.') : StopsAt cs (cs.length - 1) := by
  rw [List.getLast?_eq_getElem?] at h
  refine ⟨h, fun c hc => ?_⟩
  obtain ⟨hlt, _⟩ := List.getElem?_eq_some_iff.mp hc
  omega

/-- The search looks at one character after another. -/
theorem sentenceEnd?_cons (c : Char) (rest : List Char) :
    (StopsAt (c :: rest) 0 ∧ sentenceEnd? (c :: rest) = some (0, min 2 (c :: rest).length)) ∨
      (¬ StopsAt (c :: rest) 0 ∧
        sentenceEnd? (c :: rest) = (sentenceEnd? rest).map sentenceEnd?.next) := by
  by_cases hdot : c = '.'
  · subst hdot
    cases rest with
    | nil => exact Or.inl ⟨⟨rfl, by simp⟩, rfl⟩
    | cons d rest =>
      rw [sentenceEnd?]
      split
      · rename_i hblank
        refine Or.inl ⟨⟨rfl, by simpa using hblank⟩, ?_⟩
        simp
      · rename_i hblank
        exact Or.inr ⟨fun h => hblank (h.2 d rfl), rfl⟩
  · refine Or.inr ⟨fun h => hdot (Option.some.inj h.1), ?_⟩
    rw [sentenceEnd?]
    exact hdot

theorem next_found (i length : Nat) :
    sentenceEnd?.next (i, min (i + 2) length) = (i + 1, min (i + 1 + 2) (length + 1)) := by
  rw [sentenceEnd?.next, Nat.add_right_comm i 1 2, Nat.add_min_add_right]

/-- The search finds the first place where a sentence ends, and takes the white space after it. -/
theorem sentenceEnd?_eq_some_iff {found : Nat × Nat} :
    sentenceEnd? cs = some found ↔
      ∃ i, found = (i, min (i + 2) cs.length) ∧ StopsAt cs i ∧ ∀ j < i, ¬ StopsAt cs j := by
  induction cs generalizing found with
  | nil => simp [sentenceEnd?, StopsAt]
  | cons c rest ih =>
    rcases sentenceEnd?_cons c rest with ⟨hstop, heq⟩ | ⟨hgo, heq⟩
    · rw [heq]
      constructor
      · intro h
        cases h
        exact ⟨0, rfl, hstop, fun j hj => absurd hj (Nat.not_lt_zero j)⟩
      · rintro ⟨i, rfl, _, hfirst⟩
        cases i with
        | zero => rfl
        | succ i => exact absurd hstop (hfirst 0 (Nat.succ_pos i))
    · rw [heq, Option.map_eq_some_iff]
      constructor
      · rintro ⟨m, hm, rfl⟩
        obtain ⟨i, rfl, hstop, hfirst⟩ := ih.mp hm
        refine ⟨i + 1, next_found i rest.length, hstop, fun j hj => ?_⟩
        cases j with
        | zero => exact hgo
        | succ j => exact hfirst j (Nat.lt_of_succ_lt_succ hj)
      · rintro ⟨i, rfl, hstop, hfirst⟩
        cases i with
        | zero => exact absurd hstop hgo
        | succ i =>
          refine ⟨_, ih.mpr ⟨i, rfl, hstop, fun j hj => ?_⟩, next_found i rest.length⟩
          exact hfirst (j + 1) (Nat.succ_lt_succ hj)

section Trimmed
variable (trimmed : ∀ c ∈ cs.getLast?, Text.isBlank c = false)
include trimmed

/-- The white space after a sentence that ends early is not the end of a trimmed text. -/
theorem StopsEarly.lt_length (h : StopsEarly cs i) : i + 2 < cs.length := by
  obtain ⟨_, c, hc, hblank⟩ := h
  obtain ⟨hlt, _⟩ := List.getElem?_eq_some_iff.mp hc
  by_contra hlast
  have hi : cs.length - 1 = i + 1 := by omega
  rw [List.getLast?_eq_getElem?, hi] at trimmed
  rw [trimmed c hc] at hblank
  cases hblank

/-- In a trimmed text the search ends before the text does exactly if a sentence ends early; it then
finds the first such place. -/
theorem sentenceEnd?_early_iff {found : Nat × Nat} :
    (sentenceEnd? cs = some found ∧ found.2 < cs.length) ↔
      ∃ i, found = (i, i + 2) ∧ StopsEarly cs i ∧ ∀ j < i, ¬ StopsEarly cs j := by
  rw [sentenceEnd?_eq_some_iff]
  constructor
  · rintro ⟨⟨i, rfl, hstop, hfirst⟩, hlt⟩
    have hroom : i + 2 < cs.length := by omega
    refine ⟨i, by rw [Nat.min_eq_left hroom.le], ?_, fun j hj hearly => ?_⟩
    · exact hstop.cases.resolve_right (by omega)
    · exact hfirst j hj hearly.stopsAt
  · rintro ⟨i, rfl, hearly, hfirst⟩
    have hroom := hearly.lt_length trimmed
    refine ⟨⟨i, by rw [Nat.min_eq_left hroom.le], hearly.stopsAt, fun j hj hstop => ?_⟩, hroom⟩
    exact hfirst j hj (hstop.cases.resolve_right (by omega))

/-- In a trimmed text the search ends with the text exactly if a full stop is at its end and no
sentence ends early. -/
theorem sentenceEnd?_last_iff :
    (∃ found, sentenceEnd? cs = some found ∧ ¬ found.2 < cs.length) ↔
      cs.getLast? = some '.' ∧ ∀ i, ¬ StopsEarly cs i := by
  simp only [sentenceEnd?_eq_some_iff]
  constructor
  · rintro ⟨_, ⟨i, rfl, hstop, hfirst⟩, hend⟩
    have hlast : i + 1 = cs.length := by
      refine hstop.cases.resolve_left fun hearly => hend ?_
      have hroom := hearly.lt_length trimmed
      omega
    have hlast' : cs.length - 1 = i := by omega
    refine ⟨by rw [List.getLast?_eq_getElem?, hlast', hstop.1], fun j hearly => ?_⟩
    have hroom := hearly.lt_length trimmed
    exact hfirst j (by omega) hearly.stopsAt
  · rintro ⟨hlast, hnone⟩
    have hne : cs.length ≠ 0 := by
      intro hzero
      simp [List.length_eq_zero_iff.mp hzero] at hlast
    refine ⟨_, ⟨cs.length - 1, rfl, stopsAt_last hlast, fun j hj hstop => ?_⟩, by omega⟩
    exact hnone j (hstop.cases.resolve_right (by omega))

end Trimmed

end Stops

/-! ### Blanks around the text -/

theorem isSome_sentenceEnd?_cons {c : Char} (h : c ≠ '.') (rest : List Char) :
    (sentenceEnd? (c :: rest)).isSome = (sentenceEnd? rest).isSome := by
  rcases sentenceEnd?_cons c rest with ⟨hstop, _⟩ | ⟨_, heq⟩
  · exact absurd (Option.some.inj hstop.1) h
  · rw [heq, Option.isSome_map]

theorem ne_dot_of_isBlank {c : Char} (h : Text.isBlank c = true) : c ≠ '.' := by
  rintro rfl
  exact absurd h (by decide)

section Blanks
variable {w : List Char} (blanks : Text.IsBlanks w)
include blanks

theorem isSome_sentenceEnd?_blanks_append (cs : List Char) :
    (sentenceEnd? (w ++ cs)).isSome = (sentenceEnd? cs).isSome := by
  induction w with
  | nil => rfl
  | cons c rest ih =>
    obtain ⟨hc, hrest⟩ := List.forall_mem_cons.mp blanks
    rw [List.cons_append, isSome_sentenceEnd?_cons (ne_dot_of_isBlank hc), ih hrest]

theorem isSome_sentenceEnd?_append_blanks (cs : List Char) :
    (sentenceEnd? (cs ++ w)).isSome = (sentenceEnd? cs).isSome := by
  induction cs with
  | nil =>
    have h := isSome_sentenceEnd?_blanks_append blanks []
    rwa [List.append_nil] at h
  | cons c rest ih =>
    rw [List.cons_append]
    by_cases hdot : c = '.'
    · subst hdot
      cases rest with
      | nil =>
        cases w with
        | nil => rfl
        | cons d w =>
          have hd : Text.isBlank d = true := blanks d List.mem_cons_self
          simp [sentenceEnd?, hd]
      | cons d rest =>
        rw [List.cons_append, sentenceEnd?, sentenceEnd?]
        split
        · rfl
        · rw [Option.isSome_map, Option.isSome_map]
          exact ih
    · rw [isSome_sentenceEnd?_cons hdot, isSome_sentenceEnd?_cons hdot, ih]

end Blanks

/-- The search comes to the same on a text and on the trimmed text. -/
theorem isSome_sentenceEnd?_trimChars (cs : List Char) :
    (sentenceEnd? (Text.trimChars cs)).isSome = (sentenceEnd? cs).isSome := by
  obtain ⟨w, w', hw, hw', hcs⟩ := Text.exists_trimChars cs
  conv_rhs => rw [hcs]
  rw [isSome_sentenceEnd?_append_blanks hw', isSome_sentenceEnd?_blanks_append hw]

/-! ### The check -/

/-- A comment that does not say whether its summary ends a sentence is read with the answer that the
summary gives. -/
theorem Reading.terminalPeriod_of_doc {v : Value} {entries : Entries} {d : DocComment}
    (given : v.bare = .map entries) (open' : optional entries "terminal_period" .null = .null)
    (loaded : doc v = .ok d) : d.terminalPeriod = (sentenceEnd? d.summary.toList).isSome := by
  obtain ⟨found, hfound, loaded⟩ := bind_ok loaded
  obtain ⟨_, _, loaded⟩ := bind_ok loaded
  obtain ⟨_, _, loaded⟩ := bind_ok loaded
  obtain ⟨_, _, loaded⟩ := bind_ok loaded
  obtain ⟨_, _, loaded⟩ := bind_ok loaded
  rw [mapping, given] at hfound
  cases hfound
  rw [open'] at loaded
  cases loaded
  rfl

namespace Check

/-- The detail of a sentence that ends early. -/
def earlyDetail (fragment : String) : String := s!"summary sentence ends early at '{fragment}'"

theorem toList_earlyDetail (fragment : String) :
    (earlyDetail fragment).toList =
      "summary sentence ends early at '".toList ++ fragment.toList ++ "'".toList := by
  change ("summary sentence ends early at '" ++ fragment ++ "'").toList = _
  rw [String.toList_append, String.toList_append]

theorem earlyDetail_inj {a b : String} : earlyDetail a = earlyDetail b ↔ a = b := by
  rw [← String.toList_inj, toList_earlyDetail, toList_earlyDetail, List.append_left_inj,
    List.append_right_inj, String.toList_inj]

/-- No other detail reads like that of a sentence that ends early. -/
theorem earlyDetail_ne {detail : String}
    (h : detail.toList.take 9 = "summary f".toList) (fragment : String) :
    detail ≠ earlyDetail fragment := by
  rintro rfl
  rw [toList_earlyDetail] at h
  simp at h

section Doc
variable {d : DocComment}
  (searched : d.terminalPeriod = (sentenceEnd? d.summary.toList).isSome)
include searched

/-- What the check finds wrong, told by one search in the trimmed summary. -/
theorem summaryDetail?_cases {summary : List Char}
    (trimmed : summary = Text.trimChars d.summary.toList) :
    (sentenceEnd? summary = none ∧
        ∃ detail, summaryDetail? d = some detail ∧ ∀ fragment, detail ≠ earlyDetail fragment) ∨
      ∃ found, sentenceEnd? summary = some found ∧
        (found.2 < summary.length ∧
            summaryDetail? d = some (earlyDetail (String.ofList (summary.take (found.1 + 1)))) ∨
          ¬ found.2 < summary.length ∧ summaryDetail? d = none) := by
  rw [← isSome_sentenceEnd?_trimChars, ← trimmed] at searched
  simp only [summaryDetail?, ← trimmed, searched]
  cases hend : sentenceEnd? summary with
  | none =>
    refine Or.inl ⟨rfl, ?_⟩
    split
    · exact ⟨_, rfl, earlyDetail_ne (by decide)⟩
    · exact ⟨_, rfl, earlyDetail_ne (by decide)⟩
  | some found =>
    have hne : summary.isEmpty = false := by
      cases summary with
      | nil => cases hend
      | cons _ _ => rfl
    simp only [hne]
    refine Or.inr ⟨found, rfl, ?_⟩
    by_cases hlt : found.2 < summary.length
    · exact Or.inl ⟨hlt, if_pos hlt⟩
    · exact Or.inr ⟨hlt, if_neg hlt⟩

theorem summaryDetail?_eq_none_iff :
    summaryDetail? d = none ↔
      ∃ found, sentenceEnd? (Text.trimChars d.summary.toList) = some found ∧
        ¬ found.2 < (Text.trimChars d.summary.toList).length := by
  rcases summaryDetail?_cases searched rfl with
    ⟨hend, _, heq, _⟩ | ⟨found, hend, ⟨hlt, heq⟩ | ⟨hlt, heq⟩⟩
  · simp [hend, heq]
  · simp [hend, heq, hlt]
  · simpa [hend, heq] using hlt

theorem summaryDetail?_early_iff {fragment : String} :
    summaryDetail? d = some (earlyDetail fragment) ↔
      ∃ found, (sentenceEnd? (Text.trimChars d.summary.toList) = some found ∧
          found.2 < (Text.trimChars d.summary.toList).length) ∧
        fragment = String.ofList ((Text.trimChars d.summary.toList).take (found.1 + 1)) := by
  rcases summaryDetail?_cases searched rfl with
    ⟨hend, detail, heq, hne⟩ | ⟨⟨start, stop⟩, hend, ⟨hlt, heq⟩ | ⟨hlt, heq⟩⟩
  · simp [hend, heq, hne]
  · simp [hend, heq, hlt, earlyDetail_inj, eq_comm]
  · simp [hend, heq, hlt]

end Doc

section Report
variable (owner : Option Site) (d : DocComment) (context : Context)

theorem summaryPeriod_doc :
    summaryPeriod (.doc owner d) context =
      .ok ((summaryDetail? d).map fun detail => { values := [
        ("owner", .str ((owner.map Site.name).getD "?")), ("detail", .str detail)] }) := by
  simp only [summaryPeriod, Node.asDoc, bind, Except.bind]
  cases summaryDetail? d with
  | none => rfl
  | some detail => rfl

theorem summaryPeriod_eq_none_iff :
    summaryPeriod (.doc owner d) context = .ok none ↔ summaryDetail? d = none := by
  rw [summaryPeriod_doc, Except.ok.injEq, Option.map_eq_none_iff]

theorem summaryPeriod_reports_iff {detail : String} :
    (∃ m, summaryPeriod (.doc owner d) context = .ok (some m) ∧
        m.values.lookup "detail" = some (.str detail)) ↔ summaryDetail? d = some detail := by
  rw [summaryPeriod_doc]
  cases summaryDetail? d with
  | none => simp
  | some found => simp [List.lookup_cons]

end Report

/-- A comment that does not say whether its summary ends a sentence passes exactly if the trimmed
summary ends with a full stop and no full stop before that is followed by white space. The fragment
that is shown if the sentence ends early goes up to the first such full stop. -/
theorem summaryPeriod_decides {v : Value} {entries : Entries} {d : DocComment}
    (given : v.bare = .map entries)
    (undecided : Reading.optional entries "terminal_period" .null = .null)
    (loaded : Reading.doc v = .ok d) (owner : Option Site) (context : Context) :
    let summary := (Text.trim d.summary).toList
    (summaryPeriod (.doc owner d) context = .ok none ↔
        summary ≠ [] ∧ summary.getLast? = some '.' ∧ ∀ i, ¬ StopsEarly summary i) ∧
      ∀ fragment : String,
        (∃ m, summaryPeriod (.doc owner d) context = .ok (some m) ∧
            m.values.lookup "detail" =
              some (.str s!"summary sentence ends early at '{fragment}'")) ↔
          ∃ i, StopsEarly summary i ∧ (∀ j < i, ¬ StopsEarly summary j) ∧
            fragment = String.ofList (summary.take (i + 1)) := by
  intro summary
  have hsummary : summary = Text.trimChars d.summary.toList := by
    simp only [summary, Text.trim, String.toList_ofList]
  have searched := Reading.terminalPeriod_of_doc given undecided loaded
  have trimmed : ∀ c ∈ (Text.trimChars d.summary.toList).getLast?, Text.isBlank c = false :=
    Text.getLast?_trimEnd _
  rw [hsummary, summaryPeriod_eq_none_iff, summaryDetail?_eq_none_iff searched,
    sentenceEnd?_last_iff trimmed]
  refine ⟨⟨fun h => ⟨?_, h⟩, fun h => h.2⟩, fun fragment => ?_⟩
  · intro hnil
    rw [hnil] at h
    cases h.1
  · refine (summaryPeriod_reports_iff owner d context).trans
      ((summaryDetail?_early_iff searched).trans ?_)
    simp only [sentenceEnd?_early_iff trimmed]
    constructor
    · rintro ⟨_, ⟨i, rfl, hi, hfirst⟩, hfragment⟩
      exact ⟨i, hi, hfirst, hfragment⟩
    · rintro ⟨i, hi, hfirst, hfragment⟩
      exact ⟨(i, i + 2), ⟨i, rfl, hi, hfirst⟩, hfragment⟩

/-- A comment whose summary has a full stop inside and blanks around. -/
def abbreviatedDoc : DocComment where
  span := .ofInts 1 1 2 1
  summary := " See e.g. Reader.\n"
  tags := []
  terminalPeriod := true

/-- The document that the comment is read from. -/
def abbreviatedEntries : Entries :=
  [(.str "span", .list [.int 1, .int 1, .int 2, .int 1]),
    (.str "summary", .str " See e.g. Reader.\n")]

theorem summaryPeriod_decides_abbreviatedDoc :
    Reading.optional abbreviatedEntries "terminal_period" .null = .null ∧
      Reading.doc (.map abbreviatedEntries) = .ok abbreviatedDoc ∧
      StopsEarly "See e.g. Reader.".toList 7 ∧
      ∃ m, summaryPeriod (.doc none abbreviatedDoc) ⟨⟨"A", "", [], [], [], []⟩, [], false⟩ =
          .ok (some m) ∧
        m.values.lookup "detail" = some (.str "summary sentence ends early at 'See e.g.'") := by
  have undecided : Reading.optional abbreviatedEntries "terminal_period" .null = .null := rfl
  have loaded : Reading.doc (.map abbreviatedEntries) = .ok abbreviatedDoc := rfl
  have hstop : StopsEarly "See e.g. Reader.".toList 7 := by decide
  have hfirst : ∀ j < 7, ¬ StopsEarly "See e.g. Reader.".toList j := by decide
  have htrim : (Text.trim abbreviatedDoc.summary).toList = "See e.g. Reader.".toList := by decide
  have hreport := (summaryPeriod_decides rfl undecided loaded none
    ⟨⟨"A", "", [], [], [], []⟩, [], false⟩).2 "See e.g."
  rw [htrim] at hreport
  exact ⟨undecided, loaded, hstop, hreport.mpr ⟨7, hstop, hfirst, by decide⟩⟩

end Check

end Conformance
