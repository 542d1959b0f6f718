import RevisionScript.Proofs.Encoding.Reads
import RevisionScript.Proofs.File.Load

namespace RevisionScript.Files

variable {files : Files} {encoding : String} {e : Encoding} {path : Path}

inductive Reading (files : Files) (encoding : String) (e : Encoding) (path : Path) :
    Except Failure String → Prop
  | text {bytes : List UInt8} {text : String} (hfile : files path = .ok (.file bytes))
      (h : e.Reads text bytes) :
      Reading files encoding e path (.ok (String.ofList (unifyLineEnds text.toList)))
  | undecodable {bytes : List UInt8} (u : Undecodable) (hfile : files path = .ok (.file bytes))
      (hreads : ∀ text, ¬ e.Reads text bytes) (hmark : ¬ (e = .utf16 ∧ Utf16.Unmarked bytes)) :
      Reading files encoding e path (.error (.revision (.file (.undecodable path.text encoding u))))
  | unmarked {bytes : List UInt8} (hfile : files path = .ok (.file bytes)) (he : e = .utf16)
      (h : Utf16.Unmarked bytes) : Reading files encoding e path (.error .noByteOrderMark)
  | missing (h : files path = .error .missing) :
      Reading files encoding e path (.error (.revision (.file (.notFound path.text))))
  | directory {names : List String} (h : files path = .ok (.directory names)) :
      Reading files encoding e path (.error (.revision (.file (.notFile path.text))))
  | overlong (h : files path = .error .nameTooLong) :
      Reading files encoding e path (.error (.overlongPath path.text))

theorem reading_readText (hname : Encoding.ofName encoding = .ok e) :
    Reading files encoding e path (files.readText path encoding) := by
  unfold readText
  split
  · next h => exact .missing h
  · next h => exact .overlong h
  · next names h => exact .directory h
  · next bytes hfile =>
    simp only [hname, Except.mapError, bind, Except.bind]
    split
    · next cs hread =>
      rw [← String.toList_ofList (l := cs)] at hread ⊢
      exact .text hfile (Encoding.decode_eq_ok_iff.1 hread)
    · next hread =>
      obtain ⟨he, h⟩ := Encoding.decode_eq_noByteOrderMark_iff.1 hread
      exact .unmarked hfile he h
    · next u hread =>
      refine .undecodable u hfile ?_ ?_
      · intro text h
        rw [Encoding.decode_eq_ok_iff.2 h] at hread
        cases hread
      · intro h
        rw [Encoding.decode_eq_noByteOrderMark_iff.2 h] at hread
        cases hread

/-- What keeps a file from being read but is not told as a fault of the file. -/
def Escapes (files : Files) (e : Encoding) (path : Path) : Prop :=
  files path = .error .nameTooLong ∨
    e = .utf16 ∧ ∃ bytes, files path = .ok (.file bytes) ∧ Utf16.Unmarked bytes

theorem escapes_iff_of_file {bytes : List UInt8} (hfile : files path = .ok (.file bytes)) :
    files.Escapes e path ↔ e = .utf16 ∧ Utf16.Unmarked bytes := by
  unfold Escapes
  rw [hfile]
  constructor
  · rintro (h | ⟨he, bytes', h, hmark⟩)
    · cases h
    · cases h
      exact ⟨he, hmark⟩
  · rintro ⟨he, hmark⟩
    exact .inr ⟨he, bytes, rfl, hmark⟩

def Told (r : Except Failure String) : Prop :=
  (∃ text, r = .ok text) ∨ ∃ fault, r = .error (.revision (.file fault))

theorem Reading.told_iff {r : Except Failure String} (h : Reading files encoding e path r) :
    Told r ↔ ¬ files.Escapes e path := by
  cases h with
  | text hfile h =>
    rw [escapes_iff_of_file hfile]
    exact iff_of_true (.inl ⟨_, rfl⟩) h.not_unmarked
  | undecodable u hfile hreads hmark =>
    rw [escapes_iff_of_file hfile]
    exact iff_of_true (.inr ⟨_, rfl⟩) hmark
  | unmarked hfile he h =>
    rw [escapes_iff_of_file hfile]
    refine iff_of_false ?_ (not_not_intro ⟨he, h⟩)
    rintro (⟨text, h⟩ | ⟨fault, h⟩) <;> cases h
  | missing h => exact iff_of_true (.inr ⟨_, rfl⟩) (by simp [Escapes, h])
  | directory h => exact iff_of_true (.inr ⟨_, rfl⟩) (by simp [Escapes, h])
  | overlong h =>
    refine iff_of_false ?_ (not_not_intro (.inl h))
    rintro (⟨text, h⟩ | ⟨fault, h⟩) <;> cases h

theorem told_readText_iff (hname : Encoding.ofName encoding = .ok e) :
    Told (files.readText path encoding) ↔ ¬ files.Escapes e path :=
  (reading_readText hname).told_iff

/-- The fault of a file that holds no text. -/
theorem readText_of_not_reads (hname : Encoding.ofName encoding = .ok e) {bytes : List UInt8}
    (hfile : files path = .ok (.file bytes)) (hreads : ∀ text, ¬ e.Reads text bytes)
    (hescapes : ¬ files.Escapes e path) :
    ∃ u, files.readText path encoding =
      .error (.revision (.file (.undecodable path.text encoding u))) := by
  have h : Reading files encoding e path (files.readText path encoding) := reading_readText hname
  generalize files.readText path encoding = r at h
  cases h with
  | text hfile' h =>
    rw [hfile] at hfile'
    cases hfile'
    exact absurd h (hreads _)
  | undecodable u => exact ⟨u, rfl⟩
  | unmarked hfile' he h => exact absurd (.inr ⟨he, _, hfile', h⟩) hescapes
  | missing h =>
    rw [hfile] at h
    cases h
  | directory h =>
    rw [hfile] at h
    cases h
  | overlong h => exact absurd (.inl h) hescapes

end RevisionScript.Files
