import RevisionScript.Proofs.Encoding.Utf8Fault
import RevisionScript.Proofs.File.Load

namespace RevisionScript.Files

variable {files : Files} {path : Path} {bytes : List UInt8}

theorem readText_of_encode {text : List Char} (hfile : files path = .ok (.file bytes))
    (h : bytes = Utf8.encode text) :
    files.readText path "utf-8" = .ok (String.ofList (returnsToFeeds (pairsToFeeds text))) := by
  have hdecode : Encoding.utf8.decode bytes = .ok (String.ofList text).toList := by
    rw [String.toList_ofList, Encoding.decode, Utf8.decode_eq_ok_iff.2 h]
    rfl
  have hread := readText_of_decode (Encoding.ofName_label .utf8) hfile hdecode
  rwa [String.toList_ofList, unifyLineEnds_eq] at hread

theorem readText_of_decode_eq_error {u : Undecodable} (hfile : files path = .ok (.file bytes))
    (h : Utf8.decode bytes = .error u) :
    files.readText path "utf-8" =
      .error (.revision (.file (.undecodable path.text "utf-8" u))) := by
  have hname : Encoding.ofName "utf-8" = .ok .utf8 := Encoding.ofName_label .utf8
  simp only [readText, hfile, hname, Encoding.decode, h, bind, Except.bind, Except.mapError]

theorem message_undecodable (path encoding : String) (u : Undecodable) :
    (FileFault.undecodable path encoding u).message =
      s!"Could not decode {path} as {encoding}: {u.message}" := rfl

theorem message_utf8 {u : Undecodable} (hcodec : u.codec = "utf-8") {range : String}
    (h : u.message = s!"'{u.codec}' codec can't decode {range}: {u.reason.text}") :
    (FileFault.undecodable path.text "utf-8" u).message =
      s!"Could not decode {path.text} as utf-8: " ++
        s!"'utf-8' codec can't decode {range}: {u.reason.text}" := by
  have hname : " as utf-8: " = " as " ++ "utf-8" ++ ": " := by decide
  have hcodec' : "'utf-8' codec can't decode " = "'" ++ "utf-8" ++ "' codec can't decode " := by
    decide
  rw [message_undecodable, h, hcodec, hname, hcodec']
  simp only [toString, String.append_assoc]

theorem message_of_single {u : Undecodable} {b : UInt8} (h : u.bytes = [b]) :
    u.message =
      let range := s!"byte 0x{hexByte b} in position {u.position}"
      s!"'{u.codec}' codec can't decode {range}: {u.reason.text}" := by
  simp only [Undecodable.message, h]

theorem message_of_length {u : Undecodable} (h : u.bytes.length ≠ 1) :
    u.message =
      let range := s!"bytes in position {u.position}-{u.position + u.bytes.length - 1}"
      s!"'{u.codec}' codec can't decode {range}: {u.reason.text}" := by
  unfold Undecodable.message
  split
  · next b hb =>
    rw [hb] at h
    exact absurd rfl h
  · rfl

/-- A file in UTF-8 is read exactly, or rejected at the first sequence that is not well formed. -/
theorem readText_utf8 (hfile : files path = .ok (.file bytes)) :
    ((∃ text, files.readText path "utf-8" = .ok text) ↔ Utf8.WellFormed bytes) ∧
      (∀ text, bytes = Utf8.encode text →
        files.readText path "utf-8" = .ok (String.ofList (returnsToFeeds (pairsToFeeds text)))) ∧
      (¬ Utf8.WellFormed bytes → ∃ fault position part reason,
        files.readText path "utf-8" = .error (.revision (.file fault)) ∧
          fault.code = "revision_decode_error" ∧
          (∀ b, part = [b] →
            let range := s!"byte 0x{hexByte b} in position {position}"
            fault.message = s!"Could not decode {path.text} as utf-8: " ++
              s!"'utf-8' codec can't decode {range}: {reason.text}") ∧
          (part.length ≠ 1 →
            let range := s!"bytes in position {position}-{position + part.length - 1}"
            fault.message = s!"Could not decode {path.text} as utf-8: " ++
              s!"'utf-8' codec can't decode {range}: {reason.text}") ∧
          Utf8.WellFormed (bytes.take position) ∧
          (∀ front, front <+: bytes → Utf8.WellFormed front → front.length ≤ position) ∧
          Utf8.Stop (bytes.drop position) part reason) := by
  cases hdecode : Utf8.decode bytes with
  | ok text =>
    have hbytes := Utf8.decode_eq_ok_iff.1 hdecode
    have hwell : Utf8.WellFormed bytes := ⟨text, hbytes⟩
    refine ⟨iff_of_true ⟨_, readText_of_encode hfile hbytes⟩ hwell, ?_, fun h ↦ absurd hwell h⟩
    intro text' h
    exact readText_of_encode hfile h
  | error u =>
    have hread := readText_of_decode_eq_error hfile hdecode
    have hfault := Utf8.firstFault_of_decode hdecode
    have hnot (text : List Char) : bytes ≠ Utf8.encode text := by
      intro h
      rw [Utf8.decode_eq_ok_iff.2 h] at hdecode
      cases hdecode
    refine ⟨iff_of_false ?_ ?_, fun text h ↦ absurd h (hnot text), fun _ ↦ ?_⟩
    · rintro ⟨text, h⟩
      rw [hread] at h
      cases h
    · rintro ⟨text, h⟩
      exact hnot text h
    · refine ⟨_, u.position, u.bytes, u.reason, hread, rfl, ?_, ?_, hfault.wellFormed,
        hfault.longest, hfault.stop⟩
      · intro b h
        exact message_utf8 hfault.codec (message_of_single h)
      · intro h
        exact message_utf8 hfault.codec (message_of_length h)

/-- A surrogate after a character of two bytes is no well-formed sequence, nor is any part of it
beyond the first byte. -/
theorem readText_utf8_of_surrogate :
    let bytes : List UInt8 := [0xc3, 0xa9, 0x0d, 0x0a, 0xed, 0xa0, 0x80]
    let files : Files := fun _ ↦ .ok (.file bytes)
    let path := Path.ofString "a.sql"
    files path = .ok (.file bytes) ∧ ¬ Utf8.WellFormed bytes ∧
      ∃ fault position part reason, files.readText path "utf-8" = .error (.revision (.file fault)) ∧
        fault.message =
          "Could not decode a.sql as utf-8: 'utf-8' codec can't decode byte 0xed in " ++
          "position 4: invalid continuation byte" ∧
        Utf8.WellFormed (bytes.take position) ∧ Utf8.Stop (bytes.drop position) part reason := by
  intro bytes files path
  have hfile : files path = .ok (.file bytes) := rfl
  have hnot : ¬ Utf8.WellFormed bytes := by
    rintro ⟨text, h⟩
    cases Utf8.decode_eq_ok_iff.2 h
  obtain ⟨-, -, hfault⟩ := readText_utf8 hfile
  obtain ⟨fault, position, part, reason, hread, -, -, -, hwell, -, hstop⟩ := hfault hnot
  refine ⟨hfile, hnot, fault, position, part, reason, hread, ?_, hwell, hstop⟩
  have hdirect : files.readText path "utf-8" = .error (.revision (.file
      (.undecodable "a.sql" "utf-8" ⟨"utf-8", 4, [0xed], .invalidContinuation⟩))) := by rfl
  rw [hdirect] at hread
  cases hread
  decide

end RevisionScript.Files
