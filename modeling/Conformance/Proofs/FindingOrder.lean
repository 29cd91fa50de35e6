import Conformance.Aggregation
import Mathlib.Data.List.Sort

/-!
# The order of findings and the choice of one for each identity

Findings are sorted by seven components and then by whether they are suppressed, but told apart by
fewer: the message counts for the identity only if the finding comes from the engine. The two keys
meet in one fact, that findings with equal sort keys have equal identities. Hence a sorted list,
thinned out to the first finding of each identity, is strictly increasing, and what is kept is least
among those of its identity.
-/

namespace Conformance

namespace Finding

theorem compareKey_eq_compareLex :
    compareKey =
      compareLex (compareOn fun f => Text.codes f.unit)
        (compareLex (compareOn fun f => f.span.start.line)
          (compareLex (compareOn fun f => f.span.start.column)
            (compareLex (compareOn fun f => Text.codes f.rule)
              (compareLex (compareOn fun f => f.span.stop.line)
                (compareLex (compareOn fun f => f.span.stop.column)
                  (compareOn fun f => Text.codes f.message)))))) := rfl

instance : Std.TransCmp compareKey := by
  rw [compareKey_eq_compareLex]
  infer_instance

instance : Std.TransCmp compareActive :=
  inferInstanceAs (Std.TransCmp (compareLex compareKey (compareOn suppressed)))

theorem compareKey_eq_iff {a b : Finding} :
    compareKey a b = .eq ↔
      a.unit = b.unit ∧ a.span = b.span ∧ a.rule = b.rule ∧ a.message = b.message := by
  obtain ⟨_, _, _, ⟨⟨_, _⟩, ⟨_, _⟩⟩, _, _⟩ := a
  obtain ⟨_, _, _, ⟨⟨_, _⟩, ⟨_, _⟩⟩, _, _⟩ := b
  simp only [compareKey, Ordering.then_eq_eq, Std.LawfulEqOrd.compare_eq_iff_eq, Text.codes_inj,
    Span.mk.injEq, Position.mk.injEq]
  constructor
  · rintro ⟨hu, hsl, hsc, hr, hel, hec, hm⟩
    exact ⟨hu, ⟨⟨hsl, hsc⟩, hel, hec⟩, hr, hm⟩
  · rintro ⟨hu, ⟨⟨hsl, hsc⟩, hel, hec⟩, hr, hm⟩
    exact ⟨hu, hsl, hsc, hr, hel, hec, hm⟩

instance : Std.Irrefl fun a b : Finding => compareKey a b = .lt where
  irrefl a h := by
    have hself : compareKey a a = .eq := Std.ReflCmp.compare_self
    rw [hself] at h
    cases h

instance : Std.Antisymm fun a b : Finding => compareKey a b = .lt where
  antisymm a b hab hba := by
    have hlt := Std.TransCmp.lt_trans hab hba
    exact absurd hlt (Std.Irrefl.irrefl (r := fun a b => compareKey a b = .lt) a)

theorem identity_eq_of_compareKey_eq {a b : Finding} (h : compareKey a b = .eq) :
    a.identity = b.identity := by
  obtain ⟨hu, hs, hr, hm⟩ := compareKey_eq_iff.mp h
  have he : a.isEngine = b.isEngine := congrArg Rule.engineIds.contains hr
  unfold identity
  rw [hu, hs, hr, hm, he]

theorem identity_eq_iff {a b : Finding} :
    a.identity = b.identity ↔ a.rule = b.rule ∧ a.unit = b.unit ∧ a.span = b.span ∧
      (b.isEngine = true → a.message = b.message) := by
  simp only [identity, Identity.mk.injEq]
  refine and_congr_right fun hrule => and_congr_right fun _ => and_congr_right fun _ => ?_
  rw [show a.isEngine = b.isEngine from congrArg Rule.engineIds.contains hrule]
  cases b.isEngine <;> simp

theorem compareActive_swap (a b : Finding) : compareActive b a = (compareActive a b).swap :=
  Std.OrientedCmp.eq_swap

theorem precedes_refl (a : Finding) : a.precedes a = true := by
  have h : compareActive a a = .eq := Std.ReflCmp.compare_self
  simp only [precedes, h, Ordering.isLE_eq]

theorem precedes_trans (a b c : Finding) (hab : a.precedes b = true) (hbc : b.precedes c = true) :
    a.precedes c = true :=
  Std.TransCmp.isLE_trans hab hbc

theorem precedes_total (a b : Finding) : (a.precedes b || b.precedes a) = true := by
  unfold precedes
  rw [compareActive_swap a b]
  cases compareActive a b <;> rfl

/-- The flag decides only between equal keys, so what stands before in the full order does not stand
after by its key; if the identities differ, neither are the keys equal. -/
theorem compareKey_lt_of_precedes {a b : Finding} (h : a.precedes b = true)
    (hne : a.identity ≠ b.identity) : compareKey a b = .lt := by
  obtain ⟨hle, _⟩ := Ordering.isLE_then_iff_and.mp h
  cases hk : compareKey a b with
  | lt => rfl
  | eq => exact absurd (identity_eq_of_compareKey_eq hk) hne
  | gt => rw [hk] at hle; cases hle

theorem compareActive_eq_of_precedes {a b : Finding} (hab : a.precedes b = true)
    (hba : b.precedes a = true) : compareActive a b = .eq := by
  unfold precedes at hab hba
  rw [compareActive_swap a b] at hba
  cases hk : compareActive a b with
  | eq => rfl
  | lt => rw [hk] at hba; cases hba
  | gt => rw [hk] at hab; cases hab

/-- Of findings of the engine with one identity, those that are active stand before the others. -/
theorem active_of_precedes {a b : Finding} (h : a.precedes b = true)
    (hid : a.identity = b.identity) (hengine : b.isEngine = true) (hactive : b.suppressed = false) :
    a.suppressed = false := by
  obtain ⟨hrule, hunit, hspan, hmessage⟩ := identity_eq_iff.mp hid
  have hkey := compareKey_eq_iff.mpr ⟨hunit, hspan, hrule, hmessage hengine⟩
  obtain ⟨_, hlt | hflag⟩ := Ordering.isLE_then_iff_and.mp h
  · rw [hkey] at hlt
    cases hlt
  · rw [hactive] at hflag
    cases hsuppressed : a.suppressed with
    | false => rfl
    | true =>
      rw [hsuppressed] at hflag
      cases hflag

end Finding

theorem firstsFrom_cons_of_mem {seen : List Finding.Identity} {f : Finding}
    (h : f.identity ∈ seen) (rest : List Finding) :
    firstsFrom seen (f :: rest) = firstsFrom seen rest := by
  simp only [firstsFrom, List.contains_iff_mem.mpr h, if_true]

theorem firstsFrom_cons_of_not_mem {seen : List Finding.Identity} {f : Finding}
    (h : f.identity ∉ seen) (rest : List Finding) :
    firstsFrom seen (f :: rest) = f :: firstsFrom (f.identity :: seen) rest := by
  simp only [firstsFrom, List.contains_iff_mem, h, if_false]

theorem firstsFrom_sublist (seen : List Finding.Identity) (findings : List Finding) :
    (firstsFrom seen findings).Sublist findings := by
  induction findings generalizing seen with
  | nil => exact .slnil
  | cons f rest ih =>
    by_cases h : f.identity ∈ seen
    · rw [firstsFrom_cons_of_mem h]
      exact (ih seen).cons f
    · rw [firstsFrom_cons_of_not_mem h]
      exact (ih _).cons_cons f

theorem identity_not_mem_of_mem_firstsFrom {seen : List Finding.Identity}
    {findings : List Finding} {f : Finding} (hf : f ∈ firstsFrom seen findings) :
    f.identity ∉ seen := by
  induction findings generalizing seen with
  | nil => cases hf
  | cons g rest ih =>
    by_cases h : g.identity ∈ seen
    · rw [firstsFrom_cons_of_mem h] at hf
      exact ih hf
    · rw [firstsFrom_cons_of_not_mem h] at hf
      rcases List.mem_cons.mp hf with rfl | hf
      · exact h
      · exact fun hs => ih hf (List.mem_cons_of_mem _ hs)

theorem firstsFrom_distinct (seen : List Finding.Identity) (findings : List Finding) :
    (firstsFrom seen findings).Pairwise fun a b => a.identity ≠ b.identity := by
  induction findings generalizing seen with
  | nil => exact .nil
  | cons f rest ih =>
    by_cases h : f.identity ∈ seen
    · rw [firstsFrom_cons_of_mem h]
      exact ih seen
    · rw [firstsFrom_cons_of_not_mem h]
      refine List.pairwise_cons.mpr ⟨?_, ih _⟩
      intro g hg heq
      exact identity_not_mem_of_mem_firstsFrom hg (heq ▸ List.mem_cons_self)

/-- In a sorted list, every finding of an identity that was not met before is represented by one
that stands at or before it. -/
theorem exists_firstsFrom_precedes {findings : List Finding}
    (hs : findings.Pairwise fun a b => a.precedes b = true) {seen : List Finding.Identity}
    {f : Finding} (hf : f ∈ findings) (hn : f.identity ∉ seen) :
    ∃ g ∈ firstsFrom seen findings, g.identity = f.identity ∧ g.precedes f = true := by
  induction findings generalizing seen with
  | nil => cases hf
  | cons g rest ih =>
    obtain ⟨hg, hrest⟩ := List.pairwise_cons.mp hs
    by_cases h : g.identity ∈ seen
    · rw [firstsFrom_cons_of_mem h]
      rcases List.mem_cons.mp hf with rfl | hf
      · exact absurd h hn
      · exact ih hrest hf hn
    · rw [firstsFrom_cons_of_not_mem h]
      by_cases heq : g.identity = f.identity
      · refine ⟨g, List.mem_cons_self, heq, ?_⟩
        rcases List.mem_cons.mp hf with rfl | hf
        · exact Finding.precedes_refl f
        · exact hg f hf
      · rcases List.mem_cons.mp hf with rfl | hf
        · exact absurd rfl heq
        have hn' : f.identity ∉ g.identity :: seen := by
          simp only [List.mem_cons, not_or]
          exact ⟨fun h => heq h.symm, hn⟩
        obtain ⟨k, hk, hid, hle⟩ := ih hrest hf hn'
        exact ⟨k, List.mem_cons_of_mem _ hk, hid, hle⟩

section Merging
variable {findings : List Finding}

theorem sorted_precedes (findings : List Finding) :
    (findings.mergeSort Finding.precedes).Pairwise fun a b => a.precedes b = true :=
  List.pairwise_mergeSort Finding.precedes_trans Finding.precedes_total findings

theorem mergeFindings_distinct (findings : List Finding) :
    (mergeFindings findings).Pairwise fun a b => a.identity ≠ b.identity :=
  firstsFrom_distinct [] _

theorem mergeFindings_ordered (findings : List Finding) :
    (mergeFindings findings).Pairwise fun a b => a.compareKey b = .lt := by
  have hs := (sorted_precedes findings).sublist (firstsFrom_sublist [] _)
  exact (hs.and (mergeFindings_distinct findings)).imp fun h =>
    Finding.compareKey_lt_of_precedes h.1 h.2

theorem mem_of_mem_mergeFindings {f : Finding} (hf : f ∈ mergeFindings findings) : f ∈ findings :=
  List.mem_mergeSort.mp ((firstsFrom_sublist [] _).subset hf)

theorem exists_mergeFindings_precedes {f : Finding} (hf : f ∈ findings) :
    ∃ g ∈ mergeFindings findings, g.identity = f.identity ∧ g.precedes f = true :=
  exists_firstsFrom_precedes (sorted_precedes findings) (List.mem_mergeSort.mpr hf)
    List.not_mem_nil

theorem eq_of_mem_mergeFindings {f g : Finding} (hf : f ∈ mergeFindings findings)
    (hg : g ∈ mergeFindings findings) (h : f.identity = g.identity) : f = g := by
  have hd : (mergeFindings findings).Pairwise fun a b => a.identity = b.identity → a = b :=
    (mergeFindings_distinct findings).imp fun hne heq => absurd heq hne
  have hflip : (mergeFindings findings).Pairwise
      (flip fun a b => a.identity = b.identity → a = b) :=
    hd.imp fun hab heq => (hab heq.symm).symm
  exact List.Pairwise.forall_of_forall_of_flip (fun _ _ _ => rfl) hd hflip hf hg h

/-- What a merge keeps is least among the findings of its identity. -/
theorem mergeFindings_least {f g : Finding} (hg : g ∈ mergeFindings findings) (hf : f ∈ findings)
    (h : f.identity = g.identity) : g.precedes f = true := by
  obtain ⟨k, hk, hid, hle⟩ := exists_mergeFindings_precedes hf
  rwa [eq_of_mem_mergeFindings hg hk (h.symm.trans hid.symm)]

end Merging

/-- Findings that differ at most in their severity do not differ at all. -/
def SeveritiesAgree (findings : List Finding) : Prop :=
  ∀ f ∈ findings, ∀ g ∈ findings, f.rule = g.rule → f.unit = g.unit → f.span = g.span →
    f.message = g.message → f.suppressed = g.suppressed → f.severity = g.severity

instance (findings : List Finding) : Decidable (SeveritiesAgree findings) :=
  inferInstanceAs (Decidable (∀ f ∈ findings, ∀ g ∈ findings, _))

namespace SeveritiesAgree
variable {findings : List Finding} (agree : SeveritiesAgree findings)
include agree

theorem eq_of_precedes {f g : Finding} (hf : f ∈ findings) (hg : g ∈ findings)
    (hfg : f.precedes g = true) (hgf : g.precedes f = true) : f = g := by
  obtain ⟨hkey, hflag⟩ := Ordering.then_eq_eq.mp (Finding.compareActive_eq_of_precedes hfg hgf)
  obtain ⟨hu, hs, hr, hm⟩ := Finding.compareKey_eq_iff.mp hkey
  have hsup : f.suppressed = g.suppressed := Std.LawfulEqOrd.compare_eq_iff_eq.mp hflag
  have hsev := agree f hf g hg hr hu hs hm hsup
  cases f
  cases g
  simp_all

/-- Without ties, a merge keeps exactly the least findings, so it depends only on which findings
there are. -/
theorem mem_mergeFindings_iff {f : Finding} :
    f ∈ mergeFindings findings ↔
      f ∈ findings ∧ ∀ g ∈ findings, g.identity = f.identity → f.precedes g = true := by
  constructor
  · intro hf
    exact ⟨mem_of_mem_mergeFindings hf, fun g hg h => mergeFindings_least hf hg h⟩
  · rintro ⟨hf, hleast⟩
    obtain ⟨g, hg, hid, hle⟩ := exists_mergeFindings_precedes hf
    have hmem := mem_of_mem_mergeFindings hg
    rwa [agree.eq_of_precedes hf hmem (hleast g hmem hid) hle]

theorem congr {others : List Finding} (same : ∀ f, f ∈ findings ↔ f ∈ others) :
    SeveritiesAgree others :=
  fun f hf g hg => agree f ((same f).mpr hf) g ((same g).mpr hg)

theorem mergeFindings_eq {others : List Finding} (same : ∀ f, f ∈ findings ↔ f ∈ others) :
    mergeFindings findings = mergeFindings others := by
  apply (mergeFindings_ordered findings).eq_of_mem_iff (mergeFindings_ordered others)
  intro f
  rw [agree.mem_mergeFindings_iff, (agree.congr same).mem_mergeFindings_iff]
  simp only [same]

end SeveritiesAgree

end Conformance
