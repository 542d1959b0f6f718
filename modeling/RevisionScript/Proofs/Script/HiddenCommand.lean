import RevisionScript.Proofs.Script.Statement

namespace RevisionScript

open Quoting

theorem length_afterComment_lt {s cs : List Char} (h : trimStart s = '-' :: '-' :: cs) :
    ((cs.dropWhile (· ≠ '\n')).drop 1).length < s.length := by
  have hs := (List.dropWhile_suffix isBlank (l := s)).length_le
  have hd := (List.dropWhile_suffix (· ≠ '\n') (l := cs)).length_le
  rw [← trimStart, h] at hs
  simp only [List.length_drop, List.length_cons] at hs ⊢
  omega

/-- What a text begins with after blanks and comments, each comment up to its line feed. -/
def afterComments (s : List Char) : List Char :=
  match _ : trimStart s with
  | '-' :: '-' :: cs => afterComments ((cs.dropWhile (· ≠ '\n')).drop 1)
  | t => t
termination_by s.length
decreasing_by exact length_afterComment_lt (by assumption)

def ManagesTransaction (statement : String) : Prop :=
  ∃ command : ReservedCommand, command.Opens (afterComments statement.toList)

/-- Behind a semicolon that ends a fragment, and on its line, stands a comment, and the statement
that begins with the comment manages the transaction. -/
def HidesCommand (script : List Char) : Prop :=
  ∃ before after, script = before ++ ';' :: after ∧ unquoted.afterText before = unquoted ∧
    isCommentLine (firstLine after) = true ∧
    ManagesTransaction (String.ofList (trim (unquoted.fragment after)))

theorem afterComments_of_not_dashes {s : List Char} (h : ¬ ['-', '-'] <+: trimStart s) :
    afterComments s = trimStart s := by
  rw [afterComments]
  split
  · next cs hs => exact absurd ⟨cs, by rw [hs]; rfl⟩ h
  · rfl

theorem not_managesTransaction_empty : ¬ ManagesTransaction "" := by
  intro hp
  rcases hp with ⟨command, h⟩
  rw [String.toList_empty, afterComments_of_not_dashes (by simp [trimStart])] at h
  exact command.not_opens_nil h

/-- A statement that passes the check manages the transaction only behind a comment. -/
theorem dashes_prefix_of_managesTransaction {s : String} (ht : IsTrimmed s.toList)
    (ho : ReservedCommand.opening? s = none) (hm : ManagesTransaction s) :
    ['-', '-'] <+: s.toList := by
  by_contra hn
  have hs := trimStart_eq_self_iff.2 ht.1
  obtain ⟨command, h⟩ := hm
  rw [afterComments_of_not_dashes (by rwa [hs]), hs] at h
  exact ReservedCommand.opening?_eq_none_iff.1 ho command h

/-- A comment that opens a fragment stands behind a semicolon on the same line. -/
theorem firstLine_isComment_of_fragment {script f : List Char} {fs : List (List Char)}
    (hs : Uncommented ('\n' :: script)) (h : Cuts script fs) (hf : f ∈ fs)
    (hd : ['-', '-'] <+: trim f) :
    ∃ before after, script = before ++ ';' :: after ∧ unquoted.afterText before = unquoted ∧
      isCommentLine (firstLine after) = true ∧ unquoted.fragment after = f := by
  obtain ⟨a, b, ha, -, hab⟩ := exists_trim f
  obtain hfirst | ⟨before, after, rfl, hq, hfrag⟩ := h.mem_iff.1 hf
  · exfalso
    obtain ⟨rest, hrest⟩ := fragment_prefix_self unquoted script
    have hu : Uncommented (('\n' :: a) ++ (trim f ++ (b ++ rest))) := by
      rw [← hrest, hfirst, hab] at hs
      simpa using hs
    have hn := Uncommented.newline_not_mem (List.forall_mem_cons.2 ⟨rfl, ha⟩)
      (hd.trans (List.prefix_append _ _)) hu
    simp at hn
  · refine ⟨before, after, rfl, hq, ?_, hfrag⟩
    obtain ⟨rest, hrest⟩ := fragment_prefix_self unquoted after
    have hafter : after = a ++ (trim f ++ (b ++ rest)) := by
      rw [← List.append_assoc, ← List.append_assoc, List.append_assoc a, ← hab, ← hfrag, hrest]
    have hu : Uncommented (a ++ (trim f ++ (b ++ rest))) := by
      rw [← hafter]
      exact Uncommented.of_infix (a := '\n' :: (before ++ [';'])) (b := []) (by simpa using hs)
    have hp : ['-', '-'] <+: trim f ++ (b ++ rest) := hd.trans (List.prefix_append _ _)
    rw [hafter, firstLine_append (Uncommented.newline_not_mem ha hp hu),
      isCommentLine_append_of_blank ha]
    exact isCommentLine_firstLine hp

namespace Revision

/-- The statements of an accepted script leave the transaction alone unless a comment hides a
reserved command. -/
theorem statements_managesTransaction_iff {text : String} {r : Revision} (h : parse text = .ok r) :
    (∀ s ∈ r.statements, ¬ ManagesTransaction s) ↔ ¬ HidesCommand (dropComments text.toList) := by
  obtain ⟨fs, hfs, hr⟩ := exists_cuts_of_parse h
  have ho := (parse_eq_ok_iff.1 h).2
  simp only [← not_exists, not_iff_not]
  constructor
  · intro hp
    rcases hp with ⟨s, hs, hm⟩
    have hopen := ho s hs
    rw [hr] at hs
    obtain ⟨f, hf, hsome⟩ := List.mem_filterMap.1 hs
    have htrim := (statement?_eq_some_iff.1 hsome).1
    have hd := dashes_prefix_of_managesTransaction (htrim ▸ isTrimmed_trim f) hopen hm
    obtain ⟨before, after, hscript, hq, hc, hfrag⟩ := firstLine_isComment_of_fragment
      (uncommented_dropComments text.toList) hfs hf (htrim ▸ hd)
    refine ⟨before, after, hscript, hq, hc, ?_⟩
    rwa [hfrag, htrim, String.ofList_toList]
  · intro hp
    rcases hp with ⟨before, after, hscript, hq, -, hm⟩
    refine ⟨_, ?_, hm⟩
    rw [hr]
    refine List.mem_filterMap.2 ⟨_, hfs.mem_iff.2 (.inr ⟨before, after, hscript, hq, rfl⟩), ?_⟩
    rw [statement?_eq_some_iff]
    refine ⟨by simp, fun he ↦ ?_⟩
    rw [he] at hm
    exact not_managesTransaction_empty hm

theorem statements_managesTransaction_iff_of_comment :
    parse "select 1; -- note\nselect 2" = .ok ⟨["select 1", "-- note\nselect 2"]⟩ ∧
      ((∀ s ∈ ["select 1", "-- note\nselect 2"], ¬ ManagesTransaction s) ↔
        ¬ HidesCommand (dropComments "select 1; -- note\nselect 2".toList)) :=
  ⟨by decide +kernel,
    statements_managesTransaction_iff (r := ⟨["select 1", "-- note\nselect 2"]⟩)
      (by decide +kernel)⟩

/-- The comment behind the semicolon hides a commit from the check. -/
theorem parse_accepts_hidden_commit :
    ∃ r, parse "select 1; -- note\ncommit" = .ok r ∧ ∃ s ∈ r.statements, ManagesTransaction s := by
  refine ⟨⟨["select 1", "-- note\ncommit"]⟩, by decide +kernel, "-- note\ncommit", by simp, ?_⟩
  have h : ReservedCommand.commit.word.toList <+: lower
      (afterComments "-- note\ncommit".toList) := by
    decide +kernel
  exact ⟨.commit, h⟩

end Revision

end RevisionScript
