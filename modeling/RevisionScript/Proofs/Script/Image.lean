import RevisionScript.Proofs.Script.Statement

namespace RevisionScript

open Quoting

structure Revision.Scriptable (statements : List String) : Prop where
  trimmed : ∀ s ∈ statements, s ≠ "" ∧ IsTrimmed s.toList
  whole : ∀ s ∈ statements, (fragments s).length = 1
  closed : ∀ s ∈ statements.dropLast, (({} : Scan).feed s).quoting = .unquoted
  uncommented : ∀ s ∈ statements, ∀ line ∈ (List.splitOn '\n' s.toList).tail,
    isCommentLine line = false
  allowed : ∀ s ∈ statements, ReservedCommand.first? [s] = none

theorem mem_dropLast_filterMap {α β : Type} {g : α → Option β} {l : List α} {b : β}
    (h : b ∈ (l.filterMap g).dropLast) : ∃ a ∈ l.dropLast, g a = some b := by
  obtain rfl | ⟨init, last, rfl⟩ := List.eq_nil_or_concat l
  · simp at h
  · rw [List.concat_eq_append] at h ⊢
    rw [List.dropLast_concat]
    apply List.mem_filterMap.1
    rw [List.filterMap_append] at h
    cases hg : g last with
    | none => exact List.dropLast_subset _ (by simpa [hg] using h)
    | some c => simpa [hg] using h

theorem Cuts.scriptable {s : List Char} {fs : List (List Char)} (hs : Uncommented s)
    (h : Cuts s fs)
    (ha : ∀ t ∈ fs.filterMap statement?, ReservedCommand.opening? t = none) :
    Revision.Scriptable (fs.filterMap statement?) where
  trimmed t ht := by
    obtain ⟨f, -, hf⟩ := List.mem_filterMap.1 ht
    obtain ⟨htrim, hn⟩ := statement?_eq_some_iff.1 hf
    exact ⟨hn, htrim ▸ isTrimmed_trim f⟩
  whole t ht := by
    obtain ⟨f, hm, hf⟩ := List.mem_filterMap.1 ht
    rw [length_fragments_eq_one_iff, ← (statement?_eq_some_iff.1 hf).1]
    exact (h.spans_of_mem hm).trim
  closed t ht := by
    obtain ⟨f, hm, hf⟩ := mem_dropLast_filterMap ht
    rw [Scan.quoting_feed, ← (statement?_eq_some_iff.1 hf).1, afterText_trim]
    exact h.afterText_of_mem_dropLast hm
  uncommented t ht := by
    obtain ⟨f, hm, hf⟩ := List.mem_filterMap.1 ht
    obtain ⟨a, b, -, -, hab⟩ := exists_trim f
    obtain ⟨u, v, huv⟩ := h.infix_of_mem hm
    rw [← uncommented_iff, ← (statement?_eq_some_iff.1 hf).1]
    apply Uncommented.of_infix (a := u ++ a) (b := b ++ v)
    rw [← huv, hab] at hs
    simpa using hs
  allowed t ht := by simpa [ReservedCommand.first?] using ha t ht

/-- The lines of a script with some statements. A semicolon before a statement keeps its first line
from being a comment. -/
def linesOf (statements : List (List Char)) : List (List Char) :=
  statements.flatMap fun s ↦ List.splitOn '\n' (';' :: s)

/-- A script with some statements. As one carriage return at the end of a line is dropped, each line
gets one. -/
def scriptOf (statements : List (List Char)) : List Char :=
  unlines ((linesOf statements).map (· ++ ['\r']))

variable {statements : List (List Char)}

theorem newline_not_mem_linesOf : ∀ l ∈ linesOf statements, '\n' ∉ l := by
  intro l hl
  obtain ⟨s, -, hs⟩ := List.mem_flatMap.1 hl
  exact not_mem_of_mem_splitOn hs

theorem scriptLines_scriptOf : scriptLines (scriptOf statements) = linesOf statements := by
  have hd (l : List Char) : dropReturn (l ++ ['\r']) = l := by simp [dropReturn]
  have hs : List.splitOn '\n' (scriptOf statements) =
      (linesOf statements).map (· ++ ['\r']) ++ [[]] := by
    apply splitOn_unlines
    simpa using newline_not_mem_linesOf
  have hm : (List.splitOn '\n' (scriptOf statements)).map dropReturn =
      linesOf statements ++ [[]] := by
    rw [hs, List.map_append, List.map_map, Function.comp_def]
    simp only [hd, List.map_id']
    rfl
  simp only [scriptLines, hm]
  simp

theorem isCommentLine_semicolon (s : List Char) : isCommentLine (';' :: s) = false := by
  rw [← Bool.not_eq_true, isCommentLine_iff, trimStart_eq_self_iff.2 (by simp [isBlank])]
  simp

theorem unlines_linesOf :
    unlines (linesOf statements) = statements.flatMap fun s ↦ ';' :: (s ++ ['\n']) := by
  have hl (s : List Char) : (List.splitOn '\n' (';' :: s)).flatMap (· ++ ['\n']) =
      ';' :: (s ++ ['\n']) :=
    unlines_splitOn (';' :: s)
  rw [unlines, linesOf, List.flatMap_assoc]
  simp only [hl]

theorem dropComments_scriptOf
    (h : ∀ s ∈ statements, ∀ line ∈ (List.splitOn '\n' s).tail, isCommentLine line = false) :
    dropComments (scriptOf statements) = statements.flatMap fun s ↦ ';' :: (s ++ ['\n']) := by
  have hf : (linesOf statements).filter (!isCommentLine ·) = linesOf statements := by
    rw [List.filter_eq_self]
    intro l hl
    obtain ⟨s, hs, hl⟩ := List.mem_flatMap.1 hl
    rw [splitOn_newline] at hl
    obtain rfl | hl := List.mem_cons.1 hl
    · simp [firstLine, isCommentLine_semicolon]
    · have ht : (List.splitOn '\n' (';' :: s)).tail = (List.splitOn '\n' s).tail := by
        simp [List.splitOn_cons_eq_if_modifyHead]
      rw [ht] at hl
      simp [h s hs l hl]
  rw [dropComments_eq_unlines, scriptLines_scriptOf, hf, unlines_linesOf]

theorem cuts_flatMap (hs : ∀ s ∈ statements, unquoted.Spans s)
    (hq : ∀ s ∈ statements.dropLast, unquoted.afterText s = unquoted) :
    Cuts (statements.flatMap fun s ↦ ';' :: (s ++ ['\n']))
      ([] :: statements.map (· ++ ['\n'])) := by
  induction statements with
  | nil => exact .last trivial
  | cons s rest ih =>
    rw [List.forall_mem_cons] at hs
    have hline : unquoted.Spans (s ++ ['\n']) := by
      simp [spans_append, hs.1, endsFragment]
    rw [List.flatMap_cons, List.map_cons, List.cons_append]
    refine .cut (a := []) trivial rfl ?_
    cases rest with
    | nil => simpa using Cuts.last hline
    | cons t ts =>
      rw [List.dropLast_cons_cons, List.forall_mem_cons] at hq
      have hclosed : unquoted.afterText (s ++ ['\n']) = unquoted := by
        simp [afterText_append, hq.1, after]
      simpa using (ih hs.2 hq.2).extend hline hclosed

theorem statement?_append_newline {s : String} (hn : s ≠ "") (h : IsTrimmed s.toList) :
    statement? (s.toList ++ ['\n']) = some s := by
  rw [statement?_eq_some_iff]
  exact ⟨trim_append_of_blank (a := []) (by simp [AllBlank]) (by simp [AllBlank, isBlank]) h, hn⟩

namespace Revision

theorem Scriptable.parse_scriptOf {statements : List String} (h : Scriptable statements) :
    parse (String.ofList (scriptOf (statements.map String.toList))) = .ok ⟨statements⟩ := by
  have hdrop : withoutComments (String.ofList (scriptOf (statements.map String.toList))) =
      String.ofList ((statements.map String.toList).flatMap fun s ↦ ';' :: (s ++ ['\n'])) := by
    rw [withoutComments, String.toList_ofList, dropComments_scriptOf]
    simpa using h.uncommented
  have hcuts : Cuts ((statements.map String.toList).flatMap fun s ↦ ';' :: (s ++ ['\n']))
      ([] :: (statements.map String.toList).map (· ++ ['\n'])) := by
    apply cuts_flatMap
    · simpa [length_fragments_eq_one_iff] using h.whole
    · intro s hs
      rw [← List.map_dropLast] at hs
      obtain ⟨t, ht, rfl⟩ := List.mem_map.1 hs
      simpa only [Scan.quoting_feed] using h.closed t ht
  rw [parse_eq_ok_iff]
  constructor
  · rw [hdrop, hcuts.fragments_ofList, statementsOf_eq_filterMap, List.filterMap_cons_none rfl,
      List.map_map, List.filterMap_map]
    have hsome : ∀ s ∈ statements, (statement? ∘ (· ++ ['\n']) ∘ String.toList) s = some s :=
      fun s hs ↦ statement?_append_newline (h.trimmed s hs).1 (h.trimmed s hs).2
    rw [List.filterMap_congr hsome, List.filterMap_some]
  · simpa [ReservedCommand.first?] using h.allowed

theorem scriptable_of_parse {text : String} {r : Revision} (h : parse text = .ok r) :
    Scriptable r.statements := by
  obtain ⟨fs, hfs, hs⟩ := exists_cuts_of_parse h
  have ha := (parse_eq_ok_iff.1 h).2
  rw [hs] at ha ⊢
  refine hfs.scriptable ?_ ha
  exact Uncommented.of_infix (a := ['\n']) (b := [])
    (by simpa using uncommented_dropComments text.toList)

/-- The statements that scripts have are exactly the lists that look like it. -/
theorem exists_parse_eq_ok_iff (statements : List String) :
    (∃ text, parse text = .ok ⟨statements⟩) ↔ Scriptable statements := by
  constructor
  · intro hp
    rcases hp with ⟨text, h⟩
    exact scriptable_of_parse h
  · exact fun h ↦ ⟨_, h.parse_scriptOf⟩

end Revision

end RevisionScript
