import RevisionScript.Proofs.File.Reading
import RevisionScript.Proofs.Report.Check

namespace RevisionScript.Check

variable {files : Files} {encoding : String} {e : Encoding} {path : Path} {paths : List Path}
  {checks : List Check} {c : Check}

/-- A file is checked when it can be read or the failure is told as its own. -/
theorem exists_ofFile_iff :
    (∃ c, ofFile files encoding path = .ok c) ↔ Files.Told (files.readText path encoding) := by
  constructor
  · rintro ⟨c, h⟩
    cases hread : files.readText path encoding with
    | ok text => exact .inl ⟨text, rfl⟩
    | error f =>
      unfold ofFile at h
      rw [Files.load_of_readText_eq_error hread] at h
      split at h
      · next hload => cases hload
      · next hload =>
        cases hload
        obtain ⟨fault, rfl, -⟩ := Files.readText_eq_error hread
        exact .inr ⟨fault, rfl⟩
      · cases h
  · rintro (⟨text, h⟩ | ⟨fault, h⟩)
    · unfold ofFile
      rw [Files.load_of_readText h]
      cases Revision.parse text with
      | ok r => exact ⟨_, rfl⟩
      | error command => exact ⟨_, rfl⟩
    · unfold ofFile
      rw [Files.load_of_readText_eq_error h]
      exact ⟨_, rfl⟩

theorem exists_all_iff {found : List Path} (hfound : files.collect paths = .ok found) :
    (∃ checks, all files encoding paths = .ok checks) ↔
      ∀ path ∈ found, Files.Told (files.readText path encoding) := by
  unfold all
  rw [hfound]
  exact exists_mapM_eq_ok_iff.trans (forall₂_congr fun _ _ ↦ exists_ofFile_iff)

theorem told_of_all (h : all files encoding paths = .ok checks) (hc : c ∈ checks) :
    Files.Told (files.readText c.path encoding) := by
  obtain ⟨hfound, -⟩ := all_eq_ok_iff.1 h
  exact (exists_all_iff hfound).1 ⟨checks, h⟩ c.path (List.mem_map_of_mem hc)

theorem error_of_not_reads (hname : Encoding.ofName encoding = .ok e)
    (h : all files encoding paths = .ok checks) (hc : c ∈ checks) {bytes : List UInt8}
    (hfile : files c.path = .ok (.file bytes)) (hreads : ∀ text, ¬ e.Reads text bytes) :
    c.errorCode = some "revision_decode_error" ∧
      ∃ u, c.errorMessage = some (FileFault.undecodable c.path.text encoding u).message := by
  obtain ⟨-, hreports⟩ := all_eq_ok_iff.1 h
  have hescapes := (Files.told_readText_iff hname).1 (told_of_all h hc)
  obtain ⟨u, hread⟩ := Files.readText_of_not_reads hname hfile hreads hescapes
  obtain ⟨hcode, hmessage⟩ := (hreports c hc).error_eq (Files.load_of_readText_eq_error hread)
  exact ⟨hcode, u, hmessage⟩

/-- A check of many files comes to its end exactly when none of them escapes, and has then recorded
each file that is not valid in the encoding. -/
theorem exists_all_iff_not_escapes (files : Files) (hname : Encoding.ofName encoding = .ok e) :
    (∀ path, Files.Told (files.readText path encoding) ↔ ¬ files.Escapes e path) ∧
      (∀ path bytes, files path = .ok (.file bytes) →
        ((∃ fault, files.readText path encoding = .error (.revision (.file fault)) ∧
            fault.code = "revision_decode_error") ↔
          (∀ text, ¬ e.Reads text bytes) ∧ ¬ files.Escapes e path)) ∧
      ∀ paths found, files.collect paths = .ok found →
        ((∃ checks, all files encoding paths = .ok checks) ↔
          ∀ path ∈ found, ¬ files.Escapes e path) ∧
          ∀ checks, all files encoding paths = .ok checks → checks.map (·.path) = found ∧
            ∀ c ∈ checks, ∀ bytes, files c.path = .ok (.file bytes) →
              (∀ text, ¬ e.Reads text bytes) →
              c.errorCode = some "revision_decode_error" ∧
                ∃ u, c.errorMessage =
                  some (FileFault.undecodable c.path.text encoding u).message := by
  refine ⟨fun path ↦ Files.told_readText_iff hname, ?_, ?_⟩
  · intro path bytes hfile
    constructor
    · rintro ⟨fault, hread, -⟩
      refine ⟨?_, (Files.told_readText_iff hname).1 (.inr ⟨fault, hread⟩)⟩
      intro text h
      rw [Files.readText_of_decode hname hfile (Encoding.decode_eq_ok_iff.2 h)] at hread
      cases hread
    · rintro ⟨hreads, hescapes⟩
      obtain ⟨u, hread⟩ := Files.readText_of_not_reads hname hfile hreads hescapes
      exact ⟨_, hread, rfl⟩
  · intro paths found hfound
    refine ⟨?_, ?_⟩
    · rw [exists_all_iff hfound]
      exact forall₂_congr fun _ _ ↦ Files.told_readText_iff hname
    · intro checks hchecks
      obtain ⟨hpaths, -⟩ := all_eq_ok_iff.1 hchecks
      rw [hfound] at hpaths
      refine ⟨(Except.ok.inj hpaths).symm, ?_⟩
      intro c hc bytes hfile hreads
      exact error_of_not_reads hname hchecks hc hfile hreads

/-- A file with half a unit, one with a byte order mark and a path with nothing there. -/
theorem exists_all_iff_not_escapes_of_half_unit :
    let files : Files := fun path ↦
      if path = Path.ofString "a.sql" then .ok (.file [0xff, 0xfe, 0x61])
      else if path = Path.ofString "b.sql" then .ok (.file [0xfe, 0xff, 0, 0x61])
      else .error .missing
    let paths := ["a.sql", "b.sql", "c.sql"].map Path.ofString
    Encoding.ofName "utf-16" = .ok .utf16 ∧ files.collect paths = .ok paths ∧
      (∀ path ∈ paths, ¬ files.Escapes .utf16 path) ∧
      (∀ path ∈ paths, Files.Told (files.readText path "utf-16")) ∧
      ∃ checks, all files "utf-16" paths = .ok checks ∧ checks.map (·.path) = paths ∧
        ∀ c ∈ checks, c.path = Path.ofString "a.sql" →
          c.errorCode = some "revision_decode_error" := by
  intro files paths
  have hname : Encoding.ofName "utf-16" = .ok .utf16 := Encoding.ofName_label .utf16
  have hcollect : files.collect paths = .ok paths := by rfl
  have ha : files (Path.ofString "a.sql") = .ok (.file [0xff, 0xfe, 0x61]) := by rfl
  have hb : files (Path.ofString "b.sql") = .ok (.file [0xfe, 0xff, 0, 0x61]) := by rfl
  have hc : files (Path.ofString "c.sql") = .error .missing := by rfl
  have hreads (text : String) : ¬ Encoding.utf16.Reads text [0xff, 0xfe, 0x61] := by
    intro h
    cases Encoding.decode_eq_ok_iff.2 h
  have hescapes : ∀ path ∈ paths, ¬ files.Escapes .utf16 path := by
    intro path hpath
    obtain rfl | rfl | rfl : path = Path.ofString "a.sql" ∨ path = Path.ofString "b.sql" ∨
      path = Path.ofString "c.sql" := by simpa [paths] using hpath
    · rw [Files.escapes_iff_of_file ha]
      exact fun h ↦ h.2.2.1 .little ⟨_, rfl⟩
    · rw [Files.escapes_iff_of_file hb]
      exact fun h ↦ h.2.2.1 .big ⟨_, rfl⟩
    · simp [Files.Escapes, hc]
  obtain ⟨htold, -, hall⟩ := exists_all_iff_not_escapes files hname
  obtain ⟨hends, hchecks⟩ := hall paths paths hcollect
  obtain ⟨checks, h⟩ := hends.2 hescapes
  obtain ⟨hpaths, hcodes⟩ := hchecks checks h
  refine ⟨hname, hcollect, hescapes, fun path hpath ↦ (htold path).2 (hescapes path hpath),
    checks, h, hpaths, ?_⟩
  intro c hmem hpath
  exact (hcodes c hmem _ (hpath ▸ ha) hreads).1

/-- Without a byte order mark a file in UTF-16 is neither read nor told as faulty, and the files
after it are not checked. -/
theorem not_told_of_unmarked :
    let files : Files := fun path ↦
      if path = Path.ofString "a.sql" then .ok (.file [0x61, 0, 0x62, 0])
      else .ok (.file [0xff, 0xfe, 0x61, 0])
    let path := Path.ofString "a.sql"
    Encoding.ofName "utf-16" = .ok .utf16 ∧
      (∀ text, ¬ Encoding.utf16.Reads text [0x61, 0, 0x62, 0]) ∧
      files.readText path "utf-16" = .error .noByteOrderMark ∧
      ¬ Files.Told (files.readText path "utf-16") ∧
      all files "utf-16" [path, Path.ofString "b.sql"] = .error .noByteOrderMark := by
  intro files path
  have hread : files.readText path "utf-16" = .error .noByteOrderMark := by rfl
  refine ⟨Encoding.ofName_label .utf16, ?_, hread, ?_, by rfl⟩
  · intro text h
    cases Encoding.decode_eq_ok_iff.2 h
  · rw [hread]
    rintro (⟨text, h⟩ | ⟨fault, h⟩) <;> cases h

end RevisionScript.Check
