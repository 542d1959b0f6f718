import RevisionScript.Proofs.File.Discovery
import RevisionScript.Proofs.File.Tree
import RevisionScript.Proofs.Report.Check

namespace RevisionScript.Files

variable {files files' : Files} {path directory stop : Path} {name : String} {names : List String}
  {part paths : List Path}

inductive Expands (files : Files) (path : Path) : List Path → Prop
  | directory {names found : List String} (h : files path = .ok (.directory names))
      (hfound : files.Discovers path names found) : Expands files path (found.map path.child)
  | other (h : ∀ names, files path ≠ .ok (.directory names)) : Expands files path [path]

def Relisted (files files' : Files) : Prop :=
  ∀ path, files path = files' path ∨ ∃ names names', files path = .ok (.directory names) ∧
    files' path = .ok (.directory names') ∧ names.Perm names'

theorem Relisted.symm (h : files.Relisted files') : files'.Relisted files := by
  intro path
  rcases h path with he | ⟨names, names', hnames, hnames', hperm⟩
  · exact .inl he.symm
  · exact .inr ⟨names', names, hnames', hnames, hperm.symm⟩

theorem Relisted.eq_error (h : files.Relisted files') {absence : Absence}
    (he : files path = .error absence) : files' path = .error absence := by
  rcases h path with hsame | ⟨names, names', hnames, -⟩
  · rw [← hsame, he]
  · rw [he] at hnames
    cases hnames

theorem Relisted.hasFile (h : files.Relisted files') (hfile : files.HasFile path) :
    files'.HasFile path := by
  obtain ⟨bytes, hbytes⟩ := hfile
  rcases h path with hsame | ⟨names, names', hnames, -⟩
  · exact ⟨bytes, hsame ▸ hbytes⟩
  · rw [hbytes] at hnames
    cases hnames

theorem Relisted.exists_names (h : files.Relisted files')
    (hnames : files path = .ok (.directory names)) :
    ∃ names', files' path = .ok (.directory names') ∧ names.Perm names' := by
  rcases h path with hsame | ⟨listed, names', hlisted, hnames', hperm⟩
  · exact ⟨names, hsame ▸ hnames, .refl names⟩
  · rw [hnames] at hlisted
    cases hlisted
    exact ⟨names', hnames', hperm⟩

theorem Relisted.hasRevision_iff (h : files.Relisted files') :
    files.HasRevision directory name ↔ files'.HasRevision directory name :=
  ⟨fun hrev ↦ ⟨h.hasFile hrev.file, hrev.suffix, hrev.longer⟩,
    fun hrev ↦ ⟨h.symm.hasFile hrev.file, hrev.suffix, hrev.longer⟩⟩

theorem Relisted.exists_stops (h : files.Relisted files') (hstop : ∃ stop, files.Stops path stop) :
    ∃ stop, files'.Stops path stop := by
  rw [exists_stops_iff] at hstop ⊢
  rcases hstop with hlong | ⟨names, hnames, name, hname, hlong⟩
  · exact .inl (h.eq_error hlong)
  · obtain ⟨names', hnames', hperm⟩ := h.exists_names hnames
    exact .inr ⟨names', hnames', name, hperm.mem_iff.1 hname, h.eq_error hlong⟩

theorem Expands.unique {part' : List Path} (h : files.Expands path part)
    (h' : files.Expands path part') : part = part' := by
  cases h with
  | directory hnames hfound =>
    cases h' with
    | directory hnames' hfound' =>
      rw [hnames] at hnames'
      cases hnames'
      rw [hfound.unique hfound']
    | other hnot => exact absurd hnames (hnot _)
  | other hnot =>
    cases h' with
    | directory hnames' => exact absurd hnames' (hnot _)
    | other => rfl

end RevisionScript.Files
