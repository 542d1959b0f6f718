import RevisionScript.File.Revision
import RevisionScript.Proofs.Except
import RevisionScript.Proofs.Text.CodePoint

namespace RevisionScript

theorem isRevisionName_iff {name : String} :
    isRevisionName name = true ↔ ".sql".toList <:+ name.toList ∧ 4 < name.length := by
  rw [isRevisionName, Bool.and_eq_true, decide_eq_true_eq, beq_iff_eq, List.suffix_iff_eq_drop,
    and_comm, eq_comm]
  rfl

namespace Files

variable {files : Files} {path directory stop : Path} {name : String} {names found : List String}

def HasFile (files : Files) (path : Path) : Prop := ∃ bytes, files path = .ok (.file bytes)

instance decidableHasFile : Decidable (files.HasFile path) :=
  match h : files path with
  | .ok (.file bytes) => .isTrue ⟨bytes, h⟩
  | .ok (.directory _) => .isFalse fun hfile ↦ hfile.elim fun _ he ↦ nomatch h.symm.trans he
  | .error _ => .isFalse fun hfile ↦ hfile.elim fun _ he ↦ nomatch h.symm.trans he

structure HasRevision (files : Files) (directory : Path) (name : String) : Prop where
  file : files.HasFile (directory.child name)
  suffix : ".sql".toList <:+ name.toList
  longer : 4 < name.length

theorem hasRevision_iff :
    files.HasRevision directory name ↔
      files.HasFile (directory.child name) ∧ isRevisionName name = true := by
  rw [isRevisionName_iff]
  exact ⟨fun h ↦ ⟨h.file, h.suffix, h.longer⟩, fun h ↦ ⟨h.1, h.2.1, h.2.2⟩⟩

instance decidableHasRevision : Decidable (files.HasRevision directory name) :=
  decidable_of_iff' _ hasRevision_iff

structure Discovers (files : Files) (directory : Path) (names found : List String) : Prop where
  ascending : Ascending found
  mem_iff : ∀ name, name ∈ found ↔ name ∈ names ∧ files.HasRevision directory name

theorem Discovers.unique {found' : List String} (h : files.Discovers directory names found)
    (h' : files.Discovers directory names found') : found = found' := by
  apply h.ascending.ext h'.ascending
  intro name
  rw [h.mem_iff, h'.mem_iff]

/-- The first path that is too long to be asked for, of a path and the paths directly below it. -/
inductive Stops (files : Files) (path : Path) : Path → Prop
  | here (h : files path = .error .nameTooLong) : Stops files path path
  | below {before after : List String} {name : String}
      (h : files path = .ok (.directory (before ++ name :: after)))
      (hbefore : ∀ n ∈ before, files (path.child n) ≠ .error .nameTooLong)
      (hname : files (path.child name) = .error .nameTooLong) : Stops files path (path.child name)

theorem exists_stops (h : files directory = .ok (.directory names)) (hname : name ∈ names)
    (hlong : files (directory.child name) = .error .nameTooLong) :
    ∃ stop, files.Stops directory stop := by
  have hfind : (names.find? fun n ↦ files (directory.child n) = .error .nameTooLong).isSome := by
    rw [List.find?_isSome]
    exact ⟨name, hname, decide_eq_true hlong⟩
  obtain ⟨first, hfirst⟩ := Option.isSome_iff_exists.1 hfind
  obtain ⟨hlong, before, after, rfl, hbefore⟩ := List.find?_eq_some_iff_append.1 hfirst
  refine ⟨_, .below h ?_ (of_decide_eq_true hlong)⟩
  intro n hn
  simpa using hbefore n hn

theorem exists_stops_iff :
    (∃ stop, files.Stops path stop) ↔ files path = .error .nameTooLong ∨
      ∃ names, files path = .ok (.directory names) ∧
        ∃ name ∈ names, files (path.child name) = .error .nameTooLong := by
  constructor
  · intro h
    obtain ⟨stop, h | @⟨before, after, name, h, hbefore, hname⟩⟩ := h
    · exact .inl h
    · exact .inr ⟨_, h, name, by simp, hname⟩
  · intro h
    rcases h with h | ⟨names, h, name, hname, hlong⟩
    · exact ⟨path, .here h⟩
    · exact exists_stops h hname hlong

end Files

end RevisionScript
