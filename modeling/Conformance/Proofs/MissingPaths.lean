import Conformance.CommandLine.Program
import Conformance.Proofs.Reporting

/-!
# Arguments that name nothing

The documents of a run are looked for at each argument. Where neither a file nor a directory stands
there are none, and nothing tells such an argument from a directory without documents: the run goes
on as if it had not been given. So a run of which all arguments are misspelt passes with an empty
report.
-/

namespace Conformance

namespace FileTree

variable {t : FileTree}

theorem isImplied_of_absent {place : List String} (h : t.at? place = none) :
    t.isImplied place = false := by
  unfold at? at h
  split at h
  · cases h
  · split at h
    · cases h
    · rename_i hnot
      exact Bool.eq_false_iff.mpr hnot

/-- Below a place where nothing stands there is no file: a file would imply the place. -/
theorem filesBelow_of_absent {place : List String} (h : t.at? place = none) :
    t.filesBelow place = [] := by
  have himplied := isImplied_of_absent h
  rw [isImplied, Bool.or_eq_false_iff, List.any_eq_false] at himplied
  rw [filesBelow, List.filterMap_eq_nil_iff]
  intro item hitem
  split
  · rfl
  · exact if_neg (himplied.2 item hitem)

theorem documentsAt_of_missing {p : Path} (h : t.contains p = false) : t.documentsAt p = [] := by
  have hnone : t.find? p = none := by simpa [contains] using h
  have hfile : t.isFile p = false := by rw [isFile, hnone]
  rw [documentsAt, hfile, if_neg Bool.false_ne_true, documentsBelow]
  cases hplace : t.resolve p with
  | none => rfl
  | some place =>
    rw [find?, hplace, Option.bind_some] at hnone
    simp [filesBelow_of_absent hnone]

theorem documents_of_missing {roots : List String}
    (h : ∀ root ∈ roots, t.contains (Path.parse root) = false) : t.documents roots = [] := by
  rw [documents, List.flatMap_eq_nil_iff]
  intro root hroot
  exact documentsAt_of_missing (h root hroot)

theorem documents_filter_contains (t : FileTree) (roots : List String) :
    t.documents (roots.filter fun root => t.contains (Path.parse root)) = t.documents roots := by
  unfold documents
  induction roots with
  | nil => rfl
  | cons root rest ih =>
    rw [List.flatMap_cons, ← ih, List.filter_cons]
    split
    · rw [List.flatMap_cons]
    · rename_i hmissing
      rw [documentsAt_of_missing (Bool.eq_false_iff.mpr hmissing), List.nil_append]

end FileTree

namespace Settings

/-- The settings without the arguments that name nothing. -/
def withoutMissing (s : Settings) (t : FileTree) : Settings :=
  { s with units := s.units.filter fun root => t.contains (Path.parse root) }

theorem report_withoutMissing (s : Settings) (t : FileTree) (reg : Registry) :
    (s.withoutMissing t).report t reg = s.report t reg := by
  rw [report, report, withoutMissing, t.documents_filter_contains]

section NoDocuments
variable {s : Settings} {t : FileTree} (h : t.documents s.units = []) {reg : Registry}
include h

/-- Without documents there is nothing to report. -/
theorem report_of_no_documents : s.report t reg = .ok (Report.ofFindings [] [] false) := by
  have hempty : reg.analyze [] [] false = Report.ofFindings [] [] false := by
    simp [Registry.analyze, Registry.collect, Registry.aggregate, mergeFindings, firstsFrom,
      mergeUnits]
  rw [report, h, ← hempty]
  rfl

theorem execute_of_no_documents (hreg : s.registry t = .ok reg) :
    s.execute t = s.publish t (Report.ofFindings [] [] false) 0 := by
  have hcode : (Report.ofFindings [] [] false).exitCode = 0 := by
    rw [Report.exitCode_ofFindings]
    simp
  simp only [execute, hreg, report_of_no_documents h, hcode]

end NoDocuments

/-- An argument that names nothing has no effect on a run, whatever the other arguments are: the run
prints, writes and answers the same without it. If no argument names anything, an accepted
configuration leads to a report without units and findings, and to an exit code of success. -/
theorem missing_arguments_ignored (s : Settings) (t : FileTree) :
    s.execute t = (s.withoutMissing t).execute t ∧
      ∀ reg, s.registry t = .ok reg → (∀ root ∈ s.units, t.contains (Path.parse root) = false) →
        ∃ r, s.report t reg = .ok r ∧ r.findings = [] ∧ r.units = [] ∧
          s.execute t = s.publish t r 0 := by
  constructor
  · simp only [execute, report_withoutMissing]
    rfl
  · intro reg hreg hmissing
    have hnone := FileTree.documents_of_missing hmissing
    exact ⟨_, report_of_no_documents hnone, rfl, rfl, execute_of_no_documents hnone hreg⟩

/-- A misspelt file in a directory that is there, and a directory that is not. -/
theorem missing_arguments_ignored_misspelt :
    let s : Settings := { units := ["models/Shlef.json", "modles"], packs := ["naming"] }
    let t : FileTree := ⟨[(["models"], .directory)]⟩
    ∃ reg, s.registry t = .ok reg ∧
      (∀ root ∈ s.units, t.contains (Path.parse root) = false) ∧
      ∃ r, s.report t reg = .ok r ∧ r.findings = [] ∧ r.units = [] ∧
        s.execute t = s.publish t r 0 := by
  intro s t
  have hmissing : ∀ root ∈ s.units, t.contains (Path.parse root) = false := by decide
  have haccepted : (s.registry t).isOk = true := by decide +kernel
  cases hreg : s.registry t with
  | error e =>
    rw [hreg] at haccepted
    cases haccepted
  | ok reg => exact ⟨reg, rfl, hmissing, (missing_arguments_ignored s t).2 reg hreg hmissing⟩

end Settings

/-- A run over a file that does not exist passes without a finding. -/
theorem missing_file_passes :
    let s : Settings := { units := ["missing.json"] }
    let t : FileTree := ⟨[]⟩
    Request.parse ["missing.json"] = .ok (.run s) ∧
      t.contains (Path.parse "missing.json") = false ∧
      ∃ reg r, s.registry t = .ok reg ∧ s.report t reg = .ok r ∧ r.findings = [] ∧
        runCommand t ["missing.json"] = .finished 0 (s.printed r) t := by
  intro s t
  have hparse : Request.parse ["missing.json"] = .ok (.run s) := rfl
  have hmissing : t.contains (Path.parse "missing.json") = false := by decide
  have hnone : t.documents s.units = [] :=
    FileTree.documents_of_missing (List.forall_mem_singleton.mpr hmissing)
  have haccepted : (s.registry t).isOk = true := by decide +kernel
  cases hreg : s.registry t with
  | error e =>
    rw [hreg] at haccepted
    cases haccepted
  | ok reg =>
    refine ⟨hparse, hmissing, reg, _, rfl, Settings.report_of_no_documents hnone, rfl, ?_⟩
    simp only [runCommand, hparse, Settings.execute_of_no_documents hnone hreg]
    rfl

end Conformance
