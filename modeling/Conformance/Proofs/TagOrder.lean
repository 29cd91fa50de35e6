import Conformance.Proofs.StandardChecks
import Mathlib.Computability.RegularExpressions
import Mathlib.Data.List.Lex
import Mathlib.Tactic.IntervalCases

/-!
# The order of tags as a language

The check of block tags goes once over the tags of a comment and remembers the last of them, the
kinds seen, and the last exception. What it accepts is a regular language: the kinds in their order,
each any number of times, or at most once if it is single. Besides, the exceptions are sorted. The
tag that is reported is the first with which the tags so far leave the language or the sorting.
-/

namespace Conformance.Check

/-! ### What is accepted -/

/-- The kinds that are ordered if no others are given. -/
def canonicalKinds : List String := ["param", "return", "throws", "see", "since", "deprecated"]

/-- Those of them that stand at most once if no others are given. -/
def canonicalSingle : List String := ["return", "since", "deprecated"]

/-- The kind of a tag; an exception has two names. -/
def tagKind (t : DocTag) : String := if t.kind = "exception" then "throws" else t.kind

def keptTags (order : List String) (tags : List DocTag) : List DocTag :=
  tags.filter fun t => tagKind t ∈ order

/-- The kinds in their order, those that are single at most once. -/
def tagExpression (order single : List String) : RegularExpression String :=
  (order.map fun kind => if kind ∈ single then 1 + .char kind else .star (.char kind)).prod

/-- The kinds in the order that is used if none is given. -/
def canonicalExpression : RegularExpression String :=
  .star (.char "param") * (1 + .char "return") * .star (.char "throws") * .star (.char "see") *
    (1 + .char "since") * (1 + .char "deprecated")

/-- The code points of the first word in lower case: what comes after white space, up to the next
white space. -/
def subjectCodes (t : DocTag) : List Nat :=
  let word := (t.text.toList.dropWhile Text.isBlank).takeWhile fun c => !Text.isBlank c
  Text.codes (Text.lower (String.ofList word))

/-- The kinds of the tags that the order knows are in the language, and their exceptions are
sorted. -/
structure InOrder (language : Language String) (order : List String) (tags : List DocTag) :
    Prop where
  kinds : (keptTags order tags).map tagKind ∈ language
  throws : (((keptTags order tags).filter fun t => tagKind t = "throws").map subjectCodes).Pairwise
    (· ≤ ·)

/-- The answer is no match exactly if the tags are good, and otherwise a match at the first tag with
which they are not good any more. -/
def PointsAtBreak (good : List DocTag → Prop) (tags : List DocTag)
    (answer : Except Fault (Option Match)) : Prop :=
  (answer = .ok none ↔ good tags) ∧
    (¬ good tags → ∃ before tag after m, tags = before ++ tag :: after ∧
      (∀ shorter, shorter <+: before → good shorter) ∧ ¬ good (before ++ [tag]) ∧
      answer = .ok (some m) ∧ m.span = some tag.span)

/-! ### The language by pairs -/

/-- The second kind may come after the first. -/
def Follows (order single : List String) (a b : String) : Prop :=
  order.idxOf a ≤ order.idxOf b ∧ (a = b → a ∉ single)

theorem mem_star_char {kind : String} {w : List String} :
    w ∈ (RegularExpression.char kind).star.matches' ↔ ∃ n, w = List.replicate n kind := by
  rw [RegularExpression.matches'_star, RegularExpression.matches'_char, Language.mem_kstar]
  constructor
  · rintro ⟨parts, rfl, hparts⟩
    refine ⟨parts.length, ?_⟩
    induction parts with
    | nil => rfl
    | cons part rest ih =>
      obtain ⟨hpart, hrest⟩ := List.forall_mem_cons.mp hparts
      rw [List.flatten_cons, ih hrest, Set.mem_singleton_iff.mp hpart]
      rfl
  · rintro ⟨n, rfl⟩
    refine ⟨List.replicate n [kind], ?_, ?_⟩
    · simp
    · intro y hy
      exact (List.mem_replicate.mp hy).2

theorem mem_optional_char {kind : String} {w : List String} :
    w ∈ (1 + .char kind : RegularExpression String).matches' ↔
      ∃ n ≤ 1, w = List.replicate n kind := by
  rw [RegularExpression.matches'_add, RegularExpression.matches'_char,
    RegularExpression.matches'_epsilon, Language.mem_add, Language.mem_one]
  constructor
  · rintro (rfl | h)
    · exact ⟨0, by omega, rfl⟩
    · exact ⟨1, le_rfl, h⟩
  · rintro ⟨n, hn, rfl⟩
    interval_cases n
    · exact .inl rfl
    · exact .inr rfl

/-- A word of the language is a run of the first kind and a word of the others. -/
theorem mem_tagExpression_cons {kind : String} {order single w : List String} :
    w ∈ (tagExpression (kind :: order) single).matches' ↔
      ∃ n v, (kind ∈ single → n ≤ 1) ∧ v ∈ (tagExpression order single).matches' ∧
        w = List.replicate n kind ++ v := by
  simp only [tagExpression, List.map_cons, List.prod_cons, RegularExpression.matches'_mul,
    Language.mem_mul]
  by_cases h : kind ∈ single
  · simp only [if_pos h, mem_optional_char]
    constructor
    · rintro ⟨_, ⟨n, hn, rfl⟩, v, hv, rfl⟩
      exact ⟨n, v, fun _ => hn, hv, rfl⟩
    · rintro ⟨n, v, hn, hv, rfl⟩
      exact ⟨_, ⟨n, hn h, rfl⟩, v, hv, rfl⟩
  · simp only [if_neg h, mem_star_char]
    constructor
    · rintro ⟨_, ⟨n, rfl⟩, v, hv, rfl⟩
      exact ⟨n, v, fun h' => absurd h' h, hv, rfl⟩
    · rintro ⟨n, v, -, hv, rfl⟩
      exact ⟨_, ⟨n, rfl⟩, v, hv, rfl⟩

theorem follows_cons_iff {kind a b : String} {order single : List String} (ha : a ≠ kind)
    (hb : b ≠ kind) : Follows (kind :: order) single a b ↔ Follows order single a b := by
  simp only [Follows, List.idxOf_cons_ne _ ha.symm, List.idxOf_cons_ne _ hb.symm,
    Nat.succ_le_succ_iff]

theorem follows_cons_self {kind b : String} {order single : List String} :
    Follows (kind :: order) single kind b ↔ (kind = b → kind ∉ single) := by
  simp [Follows]

/-- Nothing but the first kind comes before the first kind. -/
theorem not_follows_cons {kind a : String} {order single : List String} (ha : a ≠ kind) :
    ¬ Follows (kind :: order) single a kind := by
  rintro ⟨h, -⟩
  rw [List.idxOf_cons_ne _ ha.symm, List.idxOf_cons_self] at h
  omega

/-- Where every kind follows those before it, the first kind stands at the front. -/
theorem exists_run {kind : String} {order single : List String} :
    ∀ {w : List String}, w.Pairwise (Follows (kind :: order) single) →
      ∃ n v, w = List.replicate n kind ++ v ∧ kind ∉ v
  | [], _ => ⟨0, [], rfl, List.not_mem_nil⟩
  | a :: w, sorted => by
    obtain ⟨hhead, htail⟩ := List.pairwise_cons.mp sorted
    by_cases ha : a = kind
    · obtain ⟨n, v, rfl, hv⟩ := exists_run htail
      exact ⟨n + 1, v, by rw [ha, List.replicate_succ, List.cons_append], hv⟩
    · refine ⟨0, a :: w, rfl, ?_⟩
      rintro (_ | ⟨_, hmem⟩)
      · exact ha rfl
      · exact not_follows_cons ha (hhead kind hmem)

theorem pairwise_run_iff {kind : String} {order single v : List String} {n : Nat}
    (hv : kind ∉ v) : (List.replicate n kind ++ v).Pairwise (Follows (kind :: order) single) ↔
      (kind ∈ single → n ≤ 1) ∧ v.Pairwise (Follows order single) := by
  have hne : ∀ a ∈ v, a ≠ kind := fun a ha h => hv (h ▸ ha)
  have hrest : v.Pairwise (Follows (kind :: order) single) ↔ v.Pairwise (Follows order single) :=
    List.Pairwise.iff_of_mem fun ha hb => follows_cons_iff (hne _ ha) (hne _ hb)
  have hcross : ∀ a ∈ List.replicate n kind, ∀ b ∈ v, Follows (kind :: order) single a b := by
    intro a ha b hb
    rw [List.eq_of_mem_replicate ha, follows_cons_self]
    exact fun h => absurd h.symm (hne b hb)
  rw [List.pairwise_append, List.pairwise_replicate, follows_cons_self, hrest]
  constructor
  · rintro ⟨hn, hv, -⟩
    exact ⟨fun h => hn.resolve_right fun hs => hs rfl h, hv⟩
  · rintro ⟨hn, hv⟩
    refine ⟨?_, hv, hcross⟩
    by_cases h : kind ∈ single
    · exact .inl (hn h)
    · exact .inr fun _ => h

/-- A word is in the language exactly if each of its kinds follows all of those before it. -/
theorem mem_tagExpression {order single : List String} (nodup : order.Nodup) {w : List String} :
    w ∈ (tagExpression order single).matches' ↔
      (∀ kind ∈ w, kind ∈ order) ∧ w.Pairwise (Follows order single) := by
  induction order generalizing w with
  | nil =>
    rw [tagExpression, List.map_nil, List.prod_nil, RegularExpression.matches'_epsilon,
      Language.mem_one]
    constructor
    · rintro rfl
      exact ⟨by simp, .nil⟩
    · rintro ⟨h, -⟩
      exact List.eq_nil_iff_forall_not_mem.mpr fun kind hk => by simpa using h kind hk
  | cons kind order ih =>
    obtain ⟨hfresh, hnodup⟩ := List.nodup_cons.mp nodup
    rw [mem_tagExpression_cons]
    constructor
    · rintro ⟨n, v, hn, hv, rfl⟩
      obtain ⟨hmem, hsorted⟩ := (ih hnodup).mp hv
      refine ⟨fun k hk => ?_, (pairwise_run_iff fun h => hfresh (hmem _ h)).mpr ⟨hn, hsorted⟩⟩
      rcases List.mem_append.mp hk with hk | hk
      · exact List.eq_of_mem_replicate hk ▸ List.mem_cons_self
      · exact List.mem_cons_of_mem _ (hmem k hk)
    · rintro ⟨hmem, hsorted⟩
      obtain ⟨n, v, rfl, hv⟩ := exists_run hsorted
      obtain ⟨hn, hsorted⟩ := (pairwise_run_iff hv).mp hsorted
      refine ⟨n, v, hn, (ih hnodup).mpr ⟨fun k hk => ?_, hsorted⟩, rfl⟩
      have hk' := hmem k (List.mem_append_right _ hk)
      exact (List.mem_cons.mp hk').resolve_left fun h => hv (h ▸ hk)

theorem canonicalExpression_matches' :
    canonicalExpression.matches' = (tagExpression canonicalKinds canonicalSingle).matches' := by
  simp [canonicalExpression, tagExpression, canonicalKinds, canonicalSingle, mul_assoc]

/-! ### The good lists of tags by pairs -/

/-- A tag may come after another: by its kind, and by its subject if both are exceptions. -/
def Agrees (order single : List String) (a b : DocTag) : Prop :=
  Follows order single (tagKind a) (tagKind b) ∧
    (tagKind a = "throws" → tagKind b = "throws" → subjectCodes a ≤ subjectCodes b)

theorem inOrder_iff {order single : List String} (nodup : order.Nodup) {tags : List DocTag} :
    InOrder (tagExpression order single).matches' order tags ↔
      (keptTags order tags).Pairwise (Agrees order single) := by
  have hkept : ∀ kind ∈ (keptTags order tags).map tagKind, kind ∈ order := by
    intro kind hk
    obtain ⟨t, ht, rfl⟩ := List.mem_map.mp hk
    exact of_decide_eq_true (List.mem_filter.mp ht).2
  have hkinds : (keptTags order tags).map tagKind ∈ (tagExpression order single).matches' ↔
      (keptTags order tags).Pairwise fun a b => Follows order single (tagKind a) (tagKind b) := by
    rw [mem_tagExpression nodup, List.pairwise_map]
    exact and_iff_right hkept
  have hthrows : (((keptTags order tags).filter fun t => tagKind t = "throws").map
      subjectCodes).Pairwise (· ≤ ·) ↔ (keptTags order tags).Pairwise fun a b =>
        tagKind a = "throws" → tagKind b = "throws" → subjectCodes a ≤ subjectCodes b := by
    simp only [List.pairwise_map, List.pairwise_filter, decide_eq_true_eq]
  unfold Agrees
  rw [List.pairwise_and_iff, ← hkinds, ← hthrows]
  exact ⟨fun h => ⟨h.kinds, h.throws⟩, fun h => ⟨h.1, h.2⟩⟩

theorem InOrder.of_shorter {order single : List String} (nodup : order.Nodup)
    {shorter tags : List DocTag} (h : shorter <+: tags)
    (good : InOrder (tagExpression order single).matches' order tags) :
    InOrder (tagExpression order single).matches' order shorter := by
  rw [inOrder_iff nodup] at good ⊢
  exact good.sublist (h.sublist.filter _)

/-! ### One pass over the tags -/

theorem canonicalTag_kind (t : DocTag) : canonicalTag t.kind = tagKind t := by
  simp only [canonicalTag, tagKind, beq_iff_eq]

theorem codes_subject (t : DocTag) : Text.codes (Text.lower t.subject) = subjectCodes t := rfl

theorem lastIndex_texts {order : List String} (nodup : order.Nodup) (kind : String) (k : Nat) :
    ((((order.map Value.str).zipIdx k).filter fun item => item.1.isText kind).getLast?).map
      Prod.snd = if kind ∈ order then some (k + order.idxOf kind) else none := by
  induction order generalizing k with
  | nil => rfl
  | cons first order ih =>
    obtain ⟨hfresh, hnodup⟩ := List.nodup_cons.mp nodup
    have ih := ih hnodup (k + 1)
    rw [List.map_cons, List.zipIdx_cons, List.filter_cons, Value.isText_str]
    by_cases h : first = kind
    · subst h
      rw [if_neg hfresh, Option.map_eq_none_iff, List.getLast?_eq_none_iff] at ih
      simp [ih]
    · have h' : kind ≠ first := fun e => h e.symm
      rw [if_neg (by simpa using h), ih, List.idxOf_cons_ne _ h]
      simp only [List.mem_cons, h', false_or]
      congr 2
      omega

theorem tagRank?_texts {order : List String} (nodup : order.Nodup) (kind : String) :
    tagRank? (order.map .str) kind = if kind ∈ order then some (order.idxOf kind) else none := by
  rw [tagRank?, lastIndex_texts nodup kind 0, Nat.zero_add]

/-- What is remembered of the tags that have been gone through and kept. -/
structure Records (order : List String) (done : List DocTag) (progress : TagProgress) : Prop where
  previous : progress.previous =
    done.getLast?.map fun t => (order.idxOf (tagKind t), tagKind t)
  seen : ∀ kind, kind ∈ progress.seen ↔ kind ∈ done.map tagKind
  lastThrows : progress.lastThrows =
    (done.filter fun t => tagKind t = "throws").getLast?.map DocTag.subject

theorem Records.start (order : List String) : Records order [] {} := ⟨rfl, by simp, rfl⟩

theorem Records.next {order : List String} {done : List DocTag} {progress : TagProgress}
    (h : Records order done progress) (t : DocTag) :
    Records order (done ++ [t])
      { previous := some (order.idxOf (tagKind t), tagKind t)
        seen := tagKind t :: progress.seen
        lastThrows := if tagKind t == "throws" then some t.subject else progress.lastThrows } where
  previous := by simp
  seen kind := by simp [h.seen, or_comm]
  lastThrows := by
    by_cases ht : tagKind t = "throws"
    · simp [ht, List.filter_append]
    · simp [ht, List.filter_append, h.lastThrows]

/-- In a sorted list, the last item stands for all of them. -/
theorem forall_le_iff_last {α β : Type} [Preorder β] (f : α → β) {l : List α}
    (sorted : l.Pairwise fun a b => f a ≤ f b) (c : β) :
    (∀ a ∈ l, f a ≤ c) ↔ ∀ z ∈ l.getLast?, f z ≤ c := by
  rcases List.eq_nil_or_concat l with rfl | ⟨front, z, rfl⟩
  · simp
  · rw [List.concat_eq_append] at sorted ⊢
    obtain ⟨-, -, hlast⟩ := List.pairwise_append.mp sorted
    simp only [List.mem_append, List.mem_singleton, List.getLast?_append, List.getLast?_singleton]
    constructor
    · intro h z' hz
      exact h z' (.inr (by simpa using hz.symm))
    · rintro h a (ha | rfl)
      · exact (hlast a ha z List.mem_cons_self).trans (h z (by simp))
      · exact h a (by simp)

theorem tagDetail?_eq_none_iff {single : List String} {progress : TagProgress} {rank r : Nat}
    {kind subject k : String} (h : progress.previous = some (r, k)) :
    tagDetail? (single.map .str) progress rank kind subject = none ↔
      r ≤ rank ∧ (kind ∈ single → kind ∉ progress.seen) ∧ (kind = "throws" →
        ∀ last ∈ progress.lastThrows,
          Text.codes (Text.lower last) ≤ Text.codes (Text.lower subject)) := by
  have hsingle : (single.map Value.str).any (·.isText kind) = true ↔ kind ∈ single := by
    simp [List.any_map]
  simp only [tagDetail?, h, Bool.and_eq_true, hsingle, List.contains_iff_mem, beq_iff_eq]
  split_ifs with hr hs ht
  · simp [not_le.mpr hr]
  · simp [hs]
  · have hs' : kind ∈ single → kind ∉ progress.seen := fun h₁ h₂ => hs ⟨h₁, h₂⟩
    rw [and_iff_right (not_lt.mp hr), and_iff_right hs', forall_prop_of_true ht]
    cases progress.lastThrows with
    | none => simp
    | some last => simp [← not_lt]
  · have hs' : kind ∈ single → kind ∉ progress.seen := fun h₁ h₂ => hs ⟨h₁, h₂⟩
    exact iff_of_true rfl ⟨not_lt.mp hr, hs', fun h' => absurd h' ht⟩

section Pass
variable {order single : List String} {done : List DocTag} {progress : TagProgress}

/-- Nothing is wrong with a tag exactly if it may come after all those kept before. -/
theorem Records.tagDetail?_eq_none_iff (records : Records order done progress)
    (sorted : done.Pairwise (Agrees order single)) (t : DocTag) :
    tagDetail? (single.map .str) progress (order.idxOf (tagKind t)) (tagKind t) t.subject = none ↔
      ∀ a ∈ done, Agrees order single a t := by
  obtain ⟨hfollows, hthrows⟩ := List.pairwise_and_iff.mp sorted
  have hrank := forall_le_iff_last (fun a => order.idxOf (tagKind a))
    (hfollows.imp fun h => h.1) (order.idxOf (tagKind t))
  have hsubject := forall_le_iff_last subjectCodes (l := done.filter fun t => tagKind t = "throws")
    (by simpa [List.pairwise_filter] using hthrows) (subjectCodes t)
  cases hlast : done.getLast? with
  | none =>
    have hprevious : progress.previous = none := by rw [records.previous, hlast]; rfl
    rw [List.getLast?_eq_none_iff.mp hlast, tagDetail?, hprevious]
    simp
  | some z =>
    have hprevious := records.previous
    rw [hlast, Option.map_some] at hprevious
    have hrank : order.idxOf (tagKind z) ≤ order.idxOf (tagKind t) ↔
        ∀ a ∈ done, order.idxOf (tagKind a) ≤ order.idxOf (tagKind t) := by
      simp [hrank, hlast]
    have hthrows : (∀ last ∈ progress.lastThrows,
        Text.codes (Text.lower last) ≤ Text.codes (Text.lower t.subject)) ↔
          ∀ a ∈ done, tagKind a = "throws" → subjectCodes a ≤ subjectCodes t := by
      rw [records.lastThrows]
      simpa [codes_subject] using hsubject.symm
    rw [Check.tagDetail?_eq_none_iff hprevious, hrank, hthrows, records.seen]
    constructor
    · rintro ⟨h₁, h₂, h₃⟩ a ha
      refine ⟨⟨h₁ a ha, fun heq hs => ?_⟩, fun hthrows ht => h₃ ht a ha hthrows⟩
      rw [heq] at hs
      exact h₂ hs (List.mem_map.mpr ⟨a, ha, heq⟩)
    · intro h
      refine ⟨fun a ha => (h a ha).1.1, fun hs hmem => ?_, fun ht a ha hthrows =>
        (h a ha).2 hthrows ht⟩
      obtain ⟨a, ha, heq⟩ := List.mem_map.mp hmem
      exact (h a ha).1.2 heq (heq ▸ hs)

/-- Where a list stops to be good: nowhere, or at a tag. -/
def BreaksAt (good : List DocTag → Prop) (tags : List DocTag) : Option DocTag → Prop
  | none => good tags
  | some tag => ∃ before after, tags = before ++ tag :: after ∧ good before ∧
      ¬ good (before ++ [tag])

theorem BreaksAt.cons {good : List DocTag → Prop} {t : DocTag} {tags : List DocTag}
    {found : Option DocTag} (h : BreaksAt (fun rest => good (t :: rest)) tags found) :
    BreaksAt good (t :: tags) found := by
  cases found with
  | none => exact h
  | some tag =>
    obtain ⟨before, after, rfl, hbefore, hbreak⟩ := h
    exact ⟨t :: before, after, rfl, hbefore, hbreak⟩

/-- After the tags in `done`, the first misplaced tag is the one at which they stop to agree. -/
theorem Records.firstMisplaced_breaksAt (nodup : order.Nodup) :
    ∀ {tags done : List DocTag} {progress : TagProgress}, Records order done progress →
      done.Pairwise (Agrees order single) →
      BreaksAt (fun rest => (done ++ keptTags order rest).Pairwise (Agrees order single)) tags
        ((firstMisplaced (order.map .str) (single.map .str) progress tags).map Prod.fst)
  | [], done, progress, _, sorted => by simpa [firstMisplaced, BreaksAt, keptTags] using sorted
  | t :: tags, done, progress, records, sorted => by
    have hrank := tagRank?_texts nodup (tagKind t)
    have hdetail := records.tagDetail?_eq_none_iff sorted t
    have hkind := canonicalTag_kind t
    by_cases hmem : tagKind t ∈ order
    · rw [if_pos hmem] at hrank
      cases hd : tagDetail? (single.map .str) progress (order.idxOf (tagKind t)) (tagKind t)
          t.subject with
      | none =>
        have hsorted : (done ++ [t]).Pairwise (Agrees order single) := by
          rw [List.pairwise_append]
          exact ⟨sorted, List.pairwise_singleton .., fun a ha b hb =>
            List.mem_singleton.mp hb ▸ hdetail.mp hd a ha⟩
        have hkept : ∀ rest, done ++ keptTags order (t :: rest) =
            done ++ [t] ++ keptTags order rest := by simp [keptTags, hmem]
        simp only [firstMisplaced, hkind, hrank, hd]
        apply BreaksAt.cons
        simp only [hkept]
        exact (records.next t).firstMisplaced_breaksAt nodup hsorted
      | some detail =>
        simp only [firstMisplaced, hkind, hrank, hd]
        have hkept : keptTags order [t] = [t] := by simp [keptTags, hmem]
        refine ⟨[], tags, rfl, by simpa [keptTags] using sorted,
          fun (h : (done ++ keptTags order [t]).Pairwise (Agrees order single)) => ?_⟩
        rw [hkept, List.pairwise_append] at h
        have hagrees := hdetail.mpr fun a ha => h.2.2 a ha t List.mem_cons_self
        rw [hagrees] at hd
        cases hd
    · rw [if_neg hmem] at hrank
      have hkept : ∀ rest, keptTags order (t :: rest) = keptTags order rest := by
        simp [keptTags, hmem]
      simp only [firstMisplaced, hkind, hrank]
      apply BreaksAt.cons
      simp only [hkept]
      exact records.firstMisplaced_breaksAt nodup sorted

end Pass

/-! ### The check -/

section Answer
variable {context : Context} {owner : Option Site} {doc : DocComment} {order single : List String}

theorem tagOrder_eq
    (horder : (context.params.valueOr "order" (.ofTexts canonicalKinds)).iterate =
      .ok (order.map .str))
    (hsingle : (context.params.valueOr "single" (.ofTexts canonicalSingle)).iterate =
      .ok (single.map .str)) :
    tagOrder (.doc owner doc) context =
      .ok ((firstMisplaced (order.map .str) (single.map .str) {} doc.tags).map fun found =>
        { span := found.1.span
          values := [("tag", .str found.2.1), ("detail", .str found.2.2)] }) := by
  have hkeys : (Value.list (order.map .str)).keyItems = .ok (order.map .str) :=
    Value.keyItems_ofTexts order
  have hkinds : canonicalTagOrder = canonicalKinds := rfl
  have honce : singleTags = canonicalSingle := rfl
  simp only [tagOrder, hkinds, honce, horder, Value.keyItems_of_iterate hsingle, hkeys, Node.asDoc,
    bind, Except.bind]
  cases firstMisplaced (order.map .str) (single.map .str) {} doc.tags <;> rfl

theorem tagOrder_breaks (nodup : order.Nodup)
    (horder : (context.params.valueOr "order" (.ofTexts canonicalKinds)).iterate =
      .ok (order.map .str))
    (hsingle : (context.params.valueOr "single" (.ofTexts canonicalSingle)).iterate =
      .ok (single.map .str)) :
    PointsAtBreak (InOrder (tagExpression order single).matches' order) doc.tags
      (tagOrder (.doc owner doc) context) := by
  have hbreaks : BreaksAt (fun rest => ([] ++ keptTags order rest).Pairwise (Agrees order single))
      doc.tags ((firstMisplaced (order.map .str) (single.map .str) {} doc.tags).map Prod.fst) :=
    (Records.start order).firstMisplaced_breaksAt nodup .nil
  simp only [List.nil_append, ← inOrder_iff nodup] at hbreaks
  rw [tagOrder_eq horder hsingle]
  cases hfound : firstMisplaced (order.map .str) (single.map .str) {} doc.tags with
  | none =>
    rw [hfound] at hbreaks
    exact ⟨iff_of_true rfl hbreaks, fun h => absurd hbreaks h⟩
  | some found =>
    rw [hfound] at hbreaks
    obtain ⟨before, after, htags, hbefore, hbreak⟩ := hbreaks
    have hbad : ¬ InOrder (tagExpression order single).matches' order doc.tags := by
      intro h
      refine hbreak (h.of_shorter nodup ⟨after, ?_⟩)
      rw [htags, List.append_assoc, List.singleton_append]
    refine ⟨iff_of_false (by intro h; cases h) hbad, fun _ => ?_⟩
    exact ⟨before, found.1, after, _, htags, fun _ h => hbefore.of_shorter nodup h, hbreak, rfl,
      rfl⟩

end Answer

/-- The check of block tags decides a regular language and reports the first tag that leaves it:
the canonical one if the parameters are not given, and the one that they describe if they are. -/
theorem tagOrder_decides (context : Context) (owner : Option Site) (doc : DocComment) :
    (context.params.get? "order" = none → context.params.get? "single" = none →
      PointsAtBreak (InOrder canonicalExpression.matches' canonicalKinds) doc.tags
        (tagOrder (.doc owner doc) context)) ∧
    ∀ order single : List String, order.Nodup →
      (context.params.valueOr "order" (.ofTexts canonicalKinds)).iterate =
        .ok (order.map .str) →
      (context.params.valueOr "single" (.ofTexts canonicalSingle)).iterate =
        .ok (single.map .str) →
      PointsAtBreak (InOrder (tagExpression order single).matches' order) doc.tags
        (tagOrder (.doc owner doc) context) := by
  refine ⟨fun horder hsingle => ?_, fun order single nodup horder hsingle =>
    tagOrder_breaks nodup horder hsingle⟩
  rw [canonicalExpression_matches']
  refine tagOrder_breaks (by decide) ?_ ?_
  · rw [Params.valueOr, horder]
    rfl
  · rw [Params.valueOr, hsingle]
    rfl

/-- A comment with two exceptions, each under another name and the wrong way round in lower case
only. -/
def mixedDoc : DocComment where
  span := .ofInts 1 1 7 1
  summary := "Reads."
  tags := [⟨"param", "line", .ofInts 2 1 2 9⟩, ⟨"throws", "Broken pipe", .ofInts 3 1 3 9⟩,
    ⟨"author", "unknown", .ofInts 4 1 4 9⟩, ⟨"exception", " \tabsent file", .ofInts 5 1 5 9⟩,
    ⟨"see", "Reader", .ofInts 6 1 6 9⟩]
  terminalPeriod := true

/-- A context in which references come first, and only one of them, and exceptions do not count. -/
def referencesFirst : Context where
  unit := ⟨"A.java", "", [], [], [], []⟩
  params := [(.str "order", .value (.ofTexts ["see", "param"])),
    (.str "single", .value (.ofTexts ["see"]))]
  permissive := false

theorem tagOrder_decides_mixedDoc :
    tagOrder (.doc none mixedDoc) { referencesFirst with params := [] } = .ok (some {
      span := some (.ofInts 5 1 5 9)
      values := [("tag", .str "throws"),
        ("detail", .str "@throws absent must come before @throws Broken")] }) ∧
    (∃ before tag after, mixedDoc.tags = before ++ tag :: after ∧ tag.kind = "exception" ∧
      InOrder canonicalExpression.matches' canonicalKinds before ∧
      ¬ InOrder canonicalExpression.matches' canonicalKinds (before ++ [tag])) ∧
    tagOrder (.doc none mixedDoc) referencesFirst = .ok (some {
      span := some (.ofInts 6 1 6 9)
      values := [("tag", .str "see"), ("detail", .str "@see must come before @param")] }) ∧
    ¬ InOrder (tagExpression ["see", "param"] ["see"]).matches' ["see", "param"] mixedDoc.tags := by
  have hplain : tagOrder (.doc none mixedDoc) { referencesFirst with params := [] } = .ok (some {
      span := some (.ofInts 5 1 5 9)
      values := [("tag", .str "throws"),
        ("detail", .str "@throws absent must come before @throws Broken")] }) := rfl
  have hgiven : tagOrder (.doc none mixedDoc) referencesFirst = .ok (some {
      span := some (.ofInts 6 1 6 9)
      values := [("tag", .str "see"), ("detail", .str "@see must come before @param")] }) := rfl
  have hkind : ∀ tag ∈ mixedDoc.tags, tag.span = .ofInts 5 1 5 9 → tag.kind = "exception" := by
    decide
  have hcanonical :=
    (tagOrder_decides { referencesFirst with params := [] } none mixedDoc).1 rfl rfl
  have hother := (tagOrder_decides referencesFirst none mixedDoc).2 ["see", "param"] ["see"]
    (by decide) rfl rfl
  refine ⟨hplain, ?_, hgiven, fun good => ?_⟩
  · have hbad : ¬ InOrder canonicalExpression.matches' canonicalKinds mixedDoc.tags :=
      fun good => by cases hplain.symm.trans (hcanonical.1.mpr good)
    obtain ⟨before, tag, after, m, htags, hgood, hbreak, hanswer, hspan⟩ := hcanonical.2 hbad
    cases hplain.symm.trans hanswer
    have hmem : tag ∈ mixedDoc.tags := htags ▸ List.mem_append_right _ List.mem_cons_self
    exact ⟨before, tag, after, htags, hkind tag hmem (Option.some.inj hspan).symm,
      hgood before List.prefix_rfl, hbreak⟩
  · cases hgiven.symm.trans (hother.1.mpr good)

end Conformance.Check
