import RevisionScript.File.Revision
import RevisionScript.Proofs.Encoding.Stored
import RevisionScript.Proofs.Except
import RevisionScript.Proofs.Script.LineEnd

namespace RevisionScript.Files

inductive Unreadable (path : Path) (encoding : String) : FileFault → Prop
  | notFound : Unreadable path encoding (.notFound path.text)
  | notFile : Unreadable path encoding (.notFile path.text)
  | undecodable (u : Undecodable) : Unreadable path encoding (.undecodable path.text encoding u)

variable {files : Files} {path : Path} {text : String} {bytes : List UInt8} {e : Encoding}

theorem load_of_readText {encoding : String} (h : files.readText path encoding = .ok text) :
    files.load path encoding = (Revision.parse text).mapError .reserved := by
  simp only [load, h, bind, Except.bind]

theorem load_of_readText_eq_error {encoding : String} {f : Failure}
    (h : files.readText path encoding = .error f) : files.load path encoding = .error f := by
  simp only [load, h, bind, Except.bind]

theorem readText_eq_error {encoding : String} {f : RevisionFailure}
    (h : files.readText path encoding = .error (.revision f)) :
    ∃ fault, f = .file fault ∧ Unreadable path encoding fault := by
  unfold readText at h
  split at h
  · cases h
    exact ⟨_, rfl, .notFound⟩
  · cases h
  · cases h
    exact ⟨_, rfl, .notFile⟩
  · cases hname : Encoding.ofName encoding with
    | error e =>
      rw [hname] at h
      cases h
    | ok e =>
      simp only [hname, Except.mapError, bind, Except.bind] at h
      split at h
      · cases h
      · cases h
      · cases h
        exact ⟨_, rfl, .undecodable _⟩

theorem readText_eq_ok {encoding : String} (h : files.readText path encoding = .ok text) :
    ∃ cs, text = String.ofList (unifyLineEnds cs) := by
  unfold readText at h
  split at h
  · cases h
  · cases h
  · cases h
  · obtain ⟨e, -, h⟩ := except_bind_eq_ok h
    split at h
    · cases h
      exact ⟨_, rfl⟩
    · cases h
    · cases h

/-- No carriage return is read from a file. -/
theorem return_not_mem_readText {encoding : String} (h : files.readText path encoding = .ok text) :
    '\r' ∉ text.toList := by
  obtain ⟨cs, rfl⟩ := readText_eq_ok h
  rw [String.toList_ofList]
  exact return_not_mem_unifyLineEnds cs

/-- What is wrong with a revision is wrong with its file or with one of its commands. -/
theorem load_eq_error {encoding : String} {f : RevisionFailure}
    (h : files.load path encoding = .error (.revision f)) :
    (∃ fault, f = .file fault ∧ Unreadable path encoding fault) ∨
      ∃ command : ReservedCommand, f = .reserved command.word := by
  cases hread : files.readText path encoding with
  | error e =>
    rw [load_of_readText_eq_error hread] at h
    cases h
    exact .inl (readText_eq_error hread)
  | ok text =>
    rw [load_of_readText hread] at h
    cases hparse : Revision.parse text with
    | ok r =>
      rw [hparse] at h
      cases h
    | error command =>
      rw [hparse] at h
      cases h
      exact .inr ⟨command, rfl⟩

theorem readText_of_decode {encoding : String} (hname : Encoding.ofName encoding = .ok e)
    (hfile : files path = .ok (.file bytes)) (h : e.decode bytes = .ok text.toList) :
    files.readText path encoding = .ok (String.ofList (unifyLineEnds text.toList)) := by
  simp only [readText, hfile, hname, h, bind, Except.bind, Except.mapError]

/-- A script is the same in a file as in memory, and with or without the carriage returns at the
ends of its lines. -/
theorem load_of_returnsPaired (hfile : files path = .ok (.file text.toUTF8.data.toList))
    (h : ReturnsPaired text.toList) :
    Revision.parse (String.ofList (pairsToFeeds text.toList)) = Revision.parse text ∧
      files.load path "utf-8" = (Revision.parse text).mapError .reserved := by
  have hparse := Revision.parse_pairsToFeeds h
  have hread := readText_of_decode (Encoding.ofName_label .utf8) hfile Encoding.Holds.utf8.decode
  rw [unifyLineEnds_of_returnsPaired h] at hread
  refine ⟨hparse, ?_⟩
  rw [← hparse]
  exact load_of_readText hread

/-- A quoted text and a comment reach over line ends. -/
theorem load_of_returnsPaired_of_quoted :
    let text := "select 'a\r\nb';\r\n-- note;\r\n select 2\r\n"
    let files : Files := fun _ ↦ .ok (.file text.toUTF8.data.toList)
    let path := Path.ofString "a.sql"
    let r : Revision := ⟨["select 'a\nb'", "select 2"]⟩
    files path = .ok (.file text.toUTF8.data.toList) ∧ ReturnsPaired text.toList ∧
      Revision.parse (String.ofList (pairsToFeeds text.toList)) = .ok r ∧
      files.load path "utf-8" = .ok r := by
  intro text files path r
  have hfile : files path = .ok (.file text.toUTF8.data.toList) := rfl
  have hpaired : ReturnsPaired text.toList := by decide +kernel
  have hparse : Revision.parse text = .ok r := by decide +kernel
  have h := load_of_returnsPaired hfile hpaired
  rw [hparse] at h
  exact ⟨hfile, hpaired, h⟩

/-- The encoding of a file does not matter to what is read from it. -/
theorem load_of_holds (hfile : files path = .ok (.file bytes)) (h : e.Holds text bytes) :
    let unified := String.ofList (returnsToFeeds (pairsToFeeds text.toList))
    files.readText path e.label = .ok unified ∧
      files.load path e.label = (Revision.parse unified).mapError .reserved := by
  intro unified
  have hread := readText_of_decode (Encoding.ofName_label e) hfile h.decode
  rw [unifyLineEnds_eq] at hread
  exact ⟨hread, load_of_readText hread⟩

/-- The text begins with a character that is also the mark of the encoding, and has one beyond the
basic plane. -/
theorem load_of_holds_of_marked :
    let text := "\ufeffselect '😀';\r\n-- note\rselect 2"
    let bytes := Utf16.ByteOrder.big.mark ++ Utf16.encode .big text.toList
    let files : Files := fun _ ↦ .ok (.file bytes)
    let path := Path.ofString "a.sql"
    files path = .ok (.file bytes) ∧ Encoding.utf16.Holds text bytes ∧
      files.readText path "utf-16" = .ok "\ufeffselect '😀';\n-- note\nselect 2" ∧
      files.load path "utf-16" = .ok ⟨["\ufeffselect '😀'", "select 2"]⟩ := by
  intro text bytes files path
  have hfile : files path = .ok (.file bytes) := rfl
  have hholds : Encoding.utf16.Holds text bytes := .utf16 .big
  have hunified : String.ofList (returnsToFeeds (pairsToFeeds text.toList)) =
      "\ufeffselect '😀';\n-- note\nselect 2" := by decide +kernel
  have hparse : Revision.parse "\ufeffselect '😀';\n-- note\nselect 2" =
      .ok ⟨["\ufeffselect '😀'", "select 2"]⟩ := by decide +kernel
  have h := load_of_holds hfile hholds
  dsimp only at h
  rw [hunified, hparse] at h
  exact ⟨hfile, hholds, h⟩

end RevisionScript.Files
