import Conformance.Proofs.ReadErrors
import Conformance.Proofs.SkippedUnits
import Mathlib.Data.List.Basic

/-!
# Documents that are read or rejected

A document that can be managed gives its unit or is rejected with a model error, so a run over such
documents has either a unit or a result for each. One that cannot be managed ends the run.
-/

namespace Conformance

namespace FileTree

/-- What cannot be read is reported, and what can be read can be managed. -/
def Manageable (t : FileTree) (p : Path) : Prop :=
  match t.readDocument p with
  | .error e => e.isReported = true
  | .ok none => True
  | .ok (some m) => ∀ e, ¬ (m.withDefault "path" (.str p.text)).Unmanageable e

/-- The name that a document is reported under: the path it gives, if it can be read. -/
def unitName? (t : FileTree) (p : Path) : Option String :=
  match t.readDocument p with
  | .ok (some m) => (SourceUnit.pathOf (m.withDefault "path" (.str p.text))).toOption
  | _ => some p.text

theorem loadUnit_cases {t : FileTree} {p : Path} (h : t.Manageable p) :
    (∃ unit, t.loadUnit p = .ok unit ∧ t.unitName? p = some unit.path) ∨
      ∃ name e, t.loadUnit p = .error (.rejected name e) ∧ t.unitName? p = some name ∧
        e.unit = some name := by
  unfold Manageable at h
  unfold loadUnit unitName?
  cases hread : t.readDocument p with
  | error e =>
    rw [hread] at h
    simp only at h
    simp only [h, if_true]
    exact Or.inr ⟨_, _, rfl, rfl, rfl⟩
  | ok found =>
    cases found with
    | none => exact Or.inr ⟨_, _, rfl, rfl, rfl⟩
    | some m =>
      rw [hread] at h
      simp only at h ⊢
      generalize m.withDefault "path" (.str p.text) = m at h
      cases hpath : SourceUnit.pathOf m with
      | error cause => exact absurd (.path hpath) (h _)
      | ok path =>
        simp only
        rcases SourceUnit.ofEntries_cases path m with
          ⟨unit, hunit, rfl⟩ | ⟨e, herror, hnamed⟩ | ⟨e, he, _⟩
        · rw [hunit]
          exact Or.inl ⟨unit, rfl, rfl⟩
        · rw [herror]
          exact Or.inr ⟨path, e, by simp only [hnamed, Option.getD_some], rfl, hnamed⟩
        · exact absurd he (h e)

/-- Each document has either a unit or a result. -/
theorem length_answers (t : FileTree) (reg : Registry) {paths : List Path}
    (loads : ∀ p ∈ paths, ∀ a, t.loadUnit p ≠ .error (.abort a)) :
    (paths.filterMap fun p => (t.loadUnit p).toOption).length +
      (paths.filterMap (t.rejection? reg)).length = paths.length := by
  induction paths with
  | nil => rfl
  | cons p rest ih =>
    have hrest := ih fun q hq => loads q (List.mem_cons_of_mem p hq)
    rw [List.filterMap_cons, List.filterMap_cons, rejection?, List.length_cons]
    cases hp : t.loadUnit p with
    | ok unit =>
      simp only [Except.toOption, List.length_cons] at hrest ⊢
      omega
    | error e =>
      cases e with
      | rejected name e =>
        simp only [Except.toOption, List.length_cons] at hrest ⊢
        omega
      | abort a => exact absurd hp (loads p List.mem_cons_self a)

end FileTree

/-- A document gives a unit or a model error that names its path, unless it cannot be managed; and a
run over documents that can be managed has for each of them either its unit or one result with a
model error, and does not end early. -/
theorem documents_read_or_rejected (t : FileTree) (reg : Registry) {paths : List Path}
    (manageable : ∀ p ∈ paths, t.Manageable p) :
    (∀ v : Value,
      (∃ unit, SourceUnit.ofDocument v = .ok unit ∧ v.unitPath? = some unit.path) ∨
      (∃ e, SourceUnit.ofDocument v = .error (.model e) ∧ e.unit = v.unitPath? ∧
        ∀ m, v.bare = .map m →
          ∃ path, SourceUnit.pathOf m = .ok path ∧ e.unit = some path) ∨
      ∃ (m : Entries) (e : ReadError), v.bare = .map m ∧ m.Unmanageable e ∧
        SourceUnit.ofDocument v = .error e) ∧
    ∃ units rejected, t.loadUnits reg paths = .ok (units, rejected) ∧
      units = paths.filterMap (fun p => (t.loadUnit p).toOption) ∧
      rejected = paths.filterMap (t.rejection? reg) ∧
      units.length + rejected.length = paths.length ∧
      ∀ p ∈ paths,
        (∃ unit, t.loadUnit p = .ok unit ∧ t.unitName? p = some unit.path ∧
          t.rejection? reg p = none) ∨
        ∃ name e, t.loadUnit p = .error (.rejected name e) ∧ t.unitName? p = some name ∧
          e.unit = some name ∧ t.rejection? reg p = some (reg.modelErrorResult name e.message) := by
  have loads : ∀ p ∈ paths, ∀ a, t.loadUnit p ≠ .error (.abort a) := by
    intro p hp a habort
    rcases FileTree.loadUnit_cases (manageable p hp) with ⟨_, hload, _⟩ | ⟨_, _, hload, _⟩
    · cases hload.symm.trans habort
    · cases hload.symm.trans habort
  refine ⟨SourceUnit.ofDocument_cases, _, _, t.loadUnits_eq reg loads, rfl, rfl,
    t.length_answers reg loads, fun p hp => ?_⟩
  rcases FileTree.loadUnit_cases (manageable p hp) with
    ⟨unit, hload, hname⟩ | ⟨name, e, hload, hname, hunit⟩
  · exact Or.inl ⟨unit, hload, hname, by rw [FileTree.rejection?, hload]⟩
  · exact Or.inr ⟨name, e, hload, hname, hunit, by rw [FileTree.rejection?, hload]⟩

/-- A document without parts, which does not count its lines, fails only for its path and for the
lengths of its lines. -/
theorem Entries.not_unmanageable {m : Entries} {path : String}
    (hpath : SourceUnit.pathOf m = .ok path)
    (hplain : ∀ key ∈ "line_count" :: "doc" :: partKeys, (m.get? key).isNone)
    (hlengths : ∀ l ns, m.get? "line_lengths" = some l → Reading.items l = .ok ns →
      ∀ n ∈ ns, ¬ n.IsInfinite) (e : ReadError) : ¬ m.Unmanageable e := by
  simp only [Option.isNone_iff_eq_none, List.forall_mem_cons] at hplain
  obtain ⟨hcount, hdoc, hparts⟩ := hplain
  have hitems {key : String} (hkey : key ∈ partKeys) : Reading.itemsUnder m key = .ok [] := by
    rw [Reading.itemsUnder, Reading.optional, hparts key hkey]
    rfl
  have huncounted (n : Value) : ¬ m.CountsLines n := by
    rintro ⟨_, _, h⟩
    cases h.symm.trans hcount
  have hapart (q : Entries) : ¬ m.Holds q := by
    rintro (⟨hkey, hvs, hv, _⟩ | ⟨hv, _⟩)
    · cases hvs.symm.trans (hitems hkey)
      cases hv
    · cases hv.symm.trans hdoc
  intro h
  cases h with
  | path h => cases h.symm.trans hpath
  | count hv => exact huncounted _ hv
  | lines hv => exact huncounted _ hv
  | circular hvs hv =>
    cases hvs.symm.trans (hitems (by decide))
    cases hv
  | infinite hn h =>
    cases hn with
    | length hl hns hn => exact hlengths _ _ hl hns _ hn h
    | width hn => exact huncounted _ hn
    | count hn => exact huncounted _ hn
    | corner hq => exact hapart _ hq

/-- The document gives the lengths of two lines, the second as a text. -/
def isTwoLines (first : Int) (second : String) : Entries → Bool
  | [(.str a, .list [.int n, .str s])] => a == "line_lengths" && n == first && s == second
  | _ => false

theorem eq_of_isTwoLines {first : Int} {second : String} {m : Entries}
    (h : isTwoLines first second m = true) :
    m = [(.str "line_lengths", .list [.int first, .str second])] := by
  unfold isTwoLines at h
  split at h
  · simp only [Bool.and_eq_true, beq_iff_eq] at h
    obtain ⟨⟨rfl, rfl⟩, rfl⟩ := h
    rfl
  · cases h

/-- The document gives a path and nothing else. -/
def isPathOnly (path : String) : Entries → Bool
  | [(.str a, .str b)] => a == "path" && b == path
  | _ => false

theorem eq_of_isPathOnly {path : String} {m : Entries} (h : isPathOnly path m = true) :
    m = [(.str "path", .str path)] := by
  unfold isPathOnly at h
  split at h
  · simp only [Bool.and_eq_true, beq_iff_eq] at h
    obtain ⟨rfl, rfl⟩ := h
    rfl
  · cases h

/-- A document with two lines, one without lines, and one that is not there. -/
theorem documents_read_or_rejected_in_turn :
    let bytes (text : String) := text.toList.map fun c => UInt8.ofNat c.toNat
    let t : FileTree := ⟨[(["a.json"], .file (bytes "\x7b\"line_lengths\":[3,\"4\"]\x7d")),
      (["b.json"], .file (bytes "\x7b\"path\":\"B\"\x7d"))]⟩
    let paths : List Path := [⟨["a.json"]⟩, ⟨["b.json"]⟩, ⟨["c.json"]⟩]
    ∃ reg, Registry.ofRules [] {} = .ok reg ∧ (∀ p ∈ paths, t.Manageable p) ∧
      ∃ units rejected, t.loadUnits reg paths = .ok (units, rejected) ∧
        units.map (·.path) = ["a.json"] ∧ rejected.map (·.unit) = ["B", "c.json"] := by
  intro bytes t paths
  obtain ⟨reg, built⟩ : ∃ reg, Registry.ofRules [] {} = .ok reg := ⟨_, rfl⟩
  have hlines : (t.readDocument ⟨["a.json"]⟩).toOption.join.any (isTwoLines 3 "4") = true := by
    decide +kernel
  have hpath : (t.readDocument ⟨["b.json"]⟩).toOption.join.any (isPathOnly "B") = true := by
    decide +kernel
  have hmissing : t.readDocument ⟨["c.json"]⟩ = .ok none := rfl
  have hloads : (t.loadUnit ⟨["a.json"]⟩).toOption.isSome = true := by decide +kernel
  have hrejects : (t.loadUnit ⟨["b.json"]⟩).toOption.isSome = false := by decide +kernel
  clear_value t
  obtain ⟨_, hfirst, htest⟩ := FileTree.readDocument_of_any hlines
  cases eq_of_isTwoLines htest
  obtain ⟨_, hsecond, htest⟩ := FileTree.readDocument_of_any hpath
  cases eq_of_isPathOnly htest
  have manageable : ∀ p ∈ paths, t.Manageable p := by
    simp only [paths, List.forall_mem_cons, FileTree.Manageable, hfirst, hsecond, hmissing]
    refine ⟨?_, ?_, trivial, List.forall_mem_nil _⟩
    · have hm : Entries.withDefault [(.str "line_lengths", .list [.int 3, .str "4"])] "path"
          (.str (Path.text ⟨["a.json"]⟩)) =
          [(.str "line_lengths", .list [.int 3, .str "4"]), (.str "path", .str "a.json")] := rfl
      rw [hm]
      apply Entries.not_unmanageable rfl (by decide)
      rintro l ns hl hns n hn ⟨x, _, rfl, _⟩
      cases hl
      cases hns
      simp at hn
    · have hm : Entries.withDefault [(.str "path", .str "B")] "path"
          (.str (Path.text ⟨["b.json"]⟩)) = [(.str "path", .str "B")] := rfl
      rw [hm]
      apply Entries.not_unmanageable rfl (by decide)
      intro l ns hl
      cases hl
  obtain ⟨unit, hunit, hnamed⟩ :
      ∃ unit, t.loadUnit ⟨["a.json"]⟩ = .ok unit ∧ unit.path = "a.json" := by
    have hname : t.unitName? ⟨["a.json"]⟩ = some "a.json" := by
      simp only [FileTree.unitName?, hfirst]
      rfl
    rcases FileTree.loadUnit_cases (manageable _ List.mem_cons_self) with
      ⟨unit, hunit, hpath⟩ | ⟨_, _, herror, _⟩
    · exact ⟨unit, hunit, Option.some.inj (hpath.symm.trans hname)⟩
    · rw [herror] at hloads
      cases hloads
  obtain ⟨e, hlineless⟩ : ∃ e, t.loadUnit ⟨["b.json"]⟩ = .error (.rejected "B" e) := by
    have hname : t.unitName? ⟨["b.json"]⟩ = some "B" := by
      simp only [FileTree.unitName?, hsecond]
      rfl
    rcases FileTree.loadUnit_cases (manageable _ (List.mem_cons_of_mem _ List.mem_cons_self)) with
      ⟨_, hunit, _⟩ | ⟨name, e, herror, hpath, _⟩
    · rw [hunit] at hrejects
      cases hrejects
    · cases hpath.symm.trans hname
      exact ⟨e, herror⟩
  have habsent : t.loadUnit ⟨["c.json"]⟩ =
      .error (.rejected "c.json" ⟨.notFound "c.json", some "c.json"⟩) := by
    simp only [FileTree.loadUnit, hmissing]
    rfl
  obtain ⟨_, units, rejected, hload, rfl, rfl, _⟩ := documents_read_or_rejected t reg manageable
  refine ⟨reg, built, manageable, _, _, hload, ?_, ?_⟩
  · simp [paths, hunit, hlineless, habsent, hnamed, Except.toOption]
  · simp [paths, FileTree.rejection?, hunit, hlineless, habsent, Registry.modelErrorResult]

/-- The document of a unit with a path and one line. -/
def oneLine (path : String) (length : Value) : Entries :=
  [(.str "path", .str path), (.str "line_lengths", .list [length])]

theorem ofEntries_oneLine {path : String} {length : Value} {detail : String}
    (h : Reading.integer length = .error (.overflow detail)) :
    SourceUnit.ofEntries path (oneLine path length) = .error (.overflow detail) := by
  have hlines : Reading.lineLengths (oneLine path length) = .error (.overflow detail) := by
    change [length].mapM Reading.integer = _
    rw [List.mapM_cons, h]
    rfl
  rw [SourceUnit.ofEntries, hlines]
  rfl

/-- The document is that of a unit with one line, which has no end. -/
def isEndless (path : String) : Entries → Bool
  | [(.str a, .str b), (.str c, .list [.float x])] =>
    [a, b, c] == ["path", path, "line_lengths"] && Decimal.Binary.ofFloat x == .infinite false
  | _ => false

theorem exists_of_isEndless {path : String} {m : Entries} (h : isEndless path m = true) :
    ∃ x, Decimal.Binary.ofFloat x = .infinite false ∧ m = oneLine path (.float x) := by
  unfold isEndless at h
  split at h
  · simp only [Bool.and_eq_true, beq_iff_eq, List.cons.injEq] at h
    obtain ⟨⟨rfl, rfl, rfl, _⟩, hx⟩ := h
    exact ⟨_, hx, rfl⟩
  · cases h

/-- A document with an infinite line is neither read nor rejected, and ends the run before another
document that would give a unit. -/
theorem infinite_line_ends_run :
    let bytes (text : String) := text.toList.map fun c => UInt8.ofNat c.toNat
    let t : FileTree :=
      ⟨[(["a.json"], .file (bytes "\x7b\"path\": \"A\", \"line_lengths\": [1e400]\x7d")),
        (["b.json"], .file (bytes "\x7b\"path\": \"B\", \"line_lengths\": [3]\x7d"))]⟩
    let infinite : String := "cannot convert float infinity to integer"
    ∃ m, t.readDocument ⟨["a.json"]⟩ = .ok (some m) ∧
      SourceUnit.ofDocument (.map m) = .error (.overflow infinite) ∧
      (∃ unit, t.loadUnit ⟨["b.json"]⟩ = .ok unit) ∧
      ∀ reg, t.loadUnits reg [⟨["a.json"]⟩, ⟨["b.json"]⟩] = .error (.overflow infinite) := by
  intro bytes t infinite
  have htest : (t.readDocument ⟨["a.json"]⟩).toOption.join.any (isEndless "A") = true := by
    decide +kernel
  have hother : (t.loadUnit ⟨["b.json"]⟩).toOption.isSome = true := by decide +kernel
  clear_value t
  obtain ⟨_, hread, hendless⟩ := FileTree.readDocument_of_any htest
  obtain ⟨x, hx, rfl⟩ := exists_of_isEndless hendless
  have hinteger : Reading.integer (.float x) = .error (.overflow infinite) := by
    simp only [Reading.integer, Value.toInteger, hx]
    rfl
  have hunit : SourceUnit.ofEntries "A" (oneLine "A" (.float x)) = .error (.overflow infinite) :=
    ofEntries_oneLine hinteger
  have hload : t.loadUnit ⟨["a.json"]⟩ = .error (.abort (.overflow infinite)) := by
    have hgiven (v : Value) :
        (oneLine "A" (.float x)).withDefault "path" v = oneLine "A" (.float x) := rfl
    have hpath : SourceUnit.pathOf (oneLine "A" (.float x)) = .ok "A" := rfl
    simp only [FileTree.loadUnit, hread, hgiven, hpath, hunit]
  refine ⟨_, hread, hunit, ?_, fun reg => by rw [FileTree.loadUnits, hload]⟩
  cases hb : t.loadUnit ⟨["b.json"]⟩ with
  | ok unit => exact ⟨unit, rfl⟩
  | error e =>
    rw [hb] at hother
    cases hother

end Conformance
