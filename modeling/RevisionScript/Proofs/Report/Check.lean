import RevisionScript.Proofs.Except
import RevisionScript.Proofs.File.Load
import RevisionScript.Report

namespace RevisionScript

namespace FileFault

theorem code_ne_empty (fault : FileFault) : fault.code ≠ "" := by
  cases fault <;> simp [code]

theorem message_ne_empty (fault : FileFault) : fault.message ≠ "" := by
  unfold message
  cases fault <;> simp [toString]

end FileFault

namespace Files

variable {files : Files} {encoding : String} {path : Path}

/-- Why a file is not a revision is told by a code and in words. -/
theorem exists_code_of_load_eq_error {e : RevisionFailure}
    (h : files.load path encoding = .error (.revision e)) :
    ∃ code, e.code = some code ∧ code ≠ "" ∧ e.message ≠ "" := by
  obtain ⟨fault, rfl, -⟩ | ⟨command, rfl⟩ := load_eq_error h
  · exact ⟨_, rfl, fault.code_ne_empty, fault.message_ne_empty⟩
  · refine ⟨_, rfl, by simp, ?_⟩
    unfold RevisionFailure.message
    simp [toString]

theorem collect_eq_ok_iff {paths found : List Path} :
    files.collect paths = .ok found ↔
      ∃ parts, paths.mapM (expand files) = .ok parts ∧ found = parts.flatten := by
  unfold collect
  rw [except_bind_eq_ok_iff]
  refine exists_congr fun parts ↦ and_congr_right fun _ ↦ ?_
  exact ⟨fun h ↦ (Except.ok.inj h).symm, fun h ↦ h ▸ rfl⟩

theorem collect_append_eq_ok_iff {ps qs found : List Path} :
    files.collect (ps ++ qs) = .ok found ↔
      ∃ xs ys, files.collect ps = .ok xs ∧ files.collect qs = .ok ys ∧ found = xs ++ ys := by
  simp only [collect_eq_ok_iff, mapM_append_eq_ok_iff]
  constructor
  · rintro ⟨_, ⟨as, bs, has, hbs, rfl⟩, rfl⟩
    exact ⟨_, _, ⟨as, has, rfl⟩, ⟨bs, hbs, rfl⟩, List.flatten_append⟩
  · rintro ⟨_, _, ⟨as, has, rfl⟩, ⟨bs, hbs, rfl⟩, rfl⟩
    exact ⟨_, ⟨as, bs, has, hbs, rfl⟩, List.flatten_append.symm⟩

end Files

namespace Check

variable {files : Files} {encoding : String} {path : Path} {paths : List Path}
  {checks : List Check} {c : Check}

/-- What a check says of a file: how many statements it has, or why it is not a revision. -/
inductive Reports (files : Files) (encoding : String) : Check → Prop
  | accepted {path : Path} {r : Revision} (h : files.load path encoding = .ok r) :
      Reports files encoding { path, statementCount := r.size }
  | rejected {path : Path} {e : RevisionFailure} {code : String}
      (h : files.load path encoding = .error (.revision e)) (hcode : e.code = some code) :
      Reports files encoding { path, errorCode := some code, errorMessage := some e.message }

theorem Reports.isOk_eq (h : c.Reports files encoding) :
    c.isOk = (files.load c.path encoding).isOk := by
  obtain hload | ⟨hload, -⟩ := h
  · rw [hload]
    rfl
  · rw [hload]
    rfl

theorem Reports.error_eq (h : c.Reports files encoding) {e : RevisionFailure}
    (hload : files.load c.path encoding = .error (.revision e)) :
    c.errorCode = e.code ∧ c.errorMessage = some e.message := by
  obtain hload' | ⟨hload', hcode⟩ := h
  · rw [hload'] at hload
    cases hload
  · rw [hload'] at hload
    cases hload
    exact ⟨hcode.symm, rfl⟩

theorem ofFile_eq_ok_iff :
    ofFile files encoding path = .ok c ↔ path = c.path ∧ c.Reports files encoding := by
  unfold ofFile
  constructor
  · intro h
    split at h
    · next r hload =>
      cases h
      exact ⟨rfl, .accepted hload⟩
    · next e hload =>
      obtain ⟨code, hcode, -⟩ := Files.exists_code_of_load_eq_error hload
      cases h
      rw [hcode]
      exact ⟨rfl, .rejected hload hcode⟩
    · cases h
  · rintro ⟨rfl, hload | ⟨hload, hcode⟩⟩
    · rw [hload]
    · rw [hload]
      simp only [hcode]

theorem mapM_ofFile_eq_ok_iff {found : List Path} :
    found.mapM (ofFile files encoding) = .ok checks ↔
      found = checks.map (·.path) ∧ ∀ c ∈ checks, c.Reports files encoding := by
  induction found generalizing checks with
  | nil =>
    rw [List.mapM_nil]
    cases checks <;> simp [pure, Except.pure]
  | cons path found ih =>
    rw [List.mapM_cons, except_bind_eq_ok_iff]
    simp only [except_bind_eq_ok_iff, ofFile_eq_ok_iff, ih]
    constructor
    · rintro ⟨c, ⟨rfl, hc⟩, checks, ⟨rfl, hchecks⟩, h⟩
      cases h
      exact ⟨rfl, List.forall_mem_cons.2 ⟨hc, hchecks⟩⟩
    · rintro ⟨hpaths, hall⟩
      cases checks with
      | nil => cases hpaths
      | cons c checks =>
        cases hpaths
        obtain ⟨hc, hchecks⟩ := List.forall_mem_cons.1 hall
        exact ⟨c, ⟨rfl, hc⟩, checks, ⟨rfl, hchecks⟩, rfl⟩

/-- The checks of the files found, each in its place. -/
theorem all_eq_ok_iff :
    all files encoding paths = .ok checks ↔
      files.collect paths = .ok (checks.map (·.path)) ∧ ∀ c ∈ checks, c.Reports files encoding := by
  unfold all
  simp only [except_bind_eq_ok_iff, mapM_ofFile_eq_ok_iff]
  constructor
  · rintro ⟨_, hfound, rfl, hchecks⟩
    exact ⟨hfound, hchecks⟩
  · rintro ⟨hfound, hchecks⟩
    exact ⟨_, hfound, rfl, hchecks⟩

theorem all_append_eq_ok_iff {ps qs : List Path} :
    all files encoding (ps ++ qs) = .ok checks ↔
      ∃ xs ys, all files encoding ps = .ok xs ∧ all files encoding qs = .ok ys ∧
        checks = xs ++ ys := by
  unfold all
  simp only [except_bind_eq_ok_iff, Files.collect_append_eq_ok_iff]
  constructor
  · rintro ⟨_, ⟨found, found', hfound, hfound', rfl⟩, h⟩
    obtain ⟨xs, ys, hxs, hys, rfl⟩ := mapM_append_eq_ok_iff.1 h
    exact ⟨xs, ys, ⟨found, hfound, hxs⟩, ⟨found', hfound', hys⟩, rfl⟩
  · rintro ⟨xs, ys, ⟨found, hfound, hxs⟩, ⟨found', hfound', hys⟩, rfl⟩
    exact ⟨_, ⟨found, found', hfound, hfound', rfl⟩,
      mapM_append_eq_ok_iff.2 ⟨xs, ys, hxs, hys, rfl⟩⟩

end Check

end RevisionScript
