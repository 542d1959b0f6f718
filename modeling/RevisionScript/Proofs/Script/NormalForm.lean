import RevisionScript.Proofs.File.Load
import RevisionScript.Proofs.Script.Kept

namespace RevisionScript

variable {s line : List Char} {ls ms : List (List Char)}

theorem unlines_inj (hls : ∀ l ∈ ls, '\n' ∉ l) (hms : ∀ l ∈ ms, '\n' ∉ l) :
    unlines ls = unlines ms ↔ ls = ms := by
  constructor
  · intro h
    have hsplit := congrArg (List.splitOn '\n') h
    rw [splitOn_unlines hls, splitOn_unlines hms] at hsplit
    exact List.append_cancel_right hsplit
  · intro h
    rw [h]

theorem dropReturn_eq_self_iff : dropReturn line = line ↔ line.getLast? ≠ some '\r' := by
  constructor
  · intro h hreturn
    obtain ⟨init, rfl⟩ := List.getLast?_eq_some_iff.1 hreturn
    rw [dropReturn_concat] at h
    have hlength := congrArg List.length h
    simp at hlength
  · exact dropReturn_of_ne

theorem map_dropReturn_eq_self_iff :
    ls.map dropReturn = ls ↔ ∀ l ∈ ls, l.getLast? ≠ some '\r' := by
  have hid : ls.map dropReturn = ls.map id ↔ ∀ l ∈ ls, dropReturn l = id l := List.map_inj_left
  rw [List.map_id] at hid
  exact hid.trans (forall₂_congr fun _ _ ↦ dropReturn_eq_self_iff)

theorem exists_dropComments_eq (s : List Char) :
    ∃ ls, (∀ l ∈ ls, l ∈ scriptLines s) ∧ (∀ l ∈ ls, isCommentLine l = false) ∧
      dropComments s = unlines ls := by
  refine ⟨(scriptLines s).filter (!isCommentLine ·), ?_, ?_, dropComments_eq_unlines s⟩
  · intro l hl
    exact List.mem_of_mem_filter hl
  · intro l hl
    simpa using List.of_mem_filter hl

/-- Lines that are no comments lose at most a carriage return each. -/
theorem dropComments_unlines (hls : ∀ l ∈ ls, '\n' ∉ l)
    (hcode : ∀ l ∈ ls, isCommentLine l = false) :
    dropComments (unlines ls) = unlines (ls.map dropReturn) := by
  have hkept : ∀ l ∈ ls.map dropReturn, (!isCommentLine l) = true := by
    intro l hl
    obtain ⟨l', hl', rfl⟩ := List.mem_map.1 hl
    rw [isCommentLine_dropReturn, hcode l' hl']
    rfl
  rw [dropComments_eq_unlines, scriptLines_unlines hls, List.filter_eq_self.2 hkept]

theorem dropComments_dropComments_iff (s : List Char) :
    dropComments (dropComments s) = dropComments s ↔ ¬ ['\r', '\n'] <:+: dropComments s := by
  obtain ⟨ls, hmem, hcode, hs⟩ := exists_dropComments_eq s
  have hls : ∀ l ∈ ls, '\n' ∉ l := fun l hl ↦ newline_not_mem_of_mem_scriptLines (hmem l hl)
  have hdropped : ∀ l ∈ ls.map dropReturn, '\n' ∉ l := by
    intro l hl
    obtain ⟨l', hl', rfl⟩ := List.mem_map.1 hl
    exact newline_not_mem_dropReturn (hls l' hl')
  rw [hs, dropComments_unlines hls hcode, unlines_inj hdropped hls, map_dropReturn_eq_self_iff,
    ← exists_return_iff hls]
  simp

theorem infix_of_mem_splitOn (h : line ∈ List.splitOn '\n' s) : line <:+: s := by
  rw [splitOn_newline] at h
  rcases List.mem_cons.1 h with rfl | h
  · exact (List.takeWhile_prefix _).isInfix
  · obtain ⟨a, b, rfl, rfl⟩ := mem_tail_splitOn_iff.1 h
    have hline : firstLine b <:+: b := (List.takeWhile_prefix _).isInfix
    have hrest : b <:+ a ++ '\n' :: b := (List.suffix_cons '\n' b).trans (List.suffix_append a _)
    exact hline.trans hrest.isInfix

/-- A line that still ends with a carriage return had two of them. -/
theorem returns_infix_of_dropReturn (h : (dropReturn line).getLast? = some '\r') :
    ['\r', '\r'] <:+: line := by
  by_cases hreturn : line.getLast? = some '\r'
  · obtain ⟨init, rfl⟩ := List.getLast?_eq_some_iff.1 hreturn
    rw [dropReturn_concat] at h
    obtain ⟨init, rfl⟩ := List.getLast?_eq_some_iff.1 h
    exact List.IsSuffix.isInfix ⟨init, by simp⟩
  · rw [dropReturn_of_ne hreturn] at h
    exact absurd h hreturn

theorem not_return_infix_dropComments (h : ¬ ['\r', '\r'] <:+: s) :
    ¬ ['\r', '\n'] <:+: dropComments s := by
  obtain ⟨ls, hmem, -, hs⟩ := exists_dropComments_eq s
  have hls : ∀ l ∈ ls, '\n' ∉ l := fun l hl ↦ newline_not_mem_of_mem_scriptLines (hmem l hl)
  rw [hs, ← exists_return_iff hls]
  intro hreturn
  obtain ⟨l, hl, hreturn⟩ := hreturn
  obtain ⟨l', hl', rfl⟩ := exists_of_mem_scriptLines (hmem l hl)
  exact h ((returns_infix_of_dropReturn hreturn).trans (infix_of_mem_splitOn hl'))

theorem toList_withoutComments (text : String) :
    (withoutComments text).toList = dropComments text.toList := String.toList_ofList

theorem withoutComments_withoutComments_iff (text : String) :
    withoutComments (withoutComments text) = withoutComments text ↔
      ¬ ['\r', '\n'] <:+: (withoutComments text).toList := by
  rw [← String.toList_inj]
  simp only [toList_withoutComments]
  exact dropComments_dropComments_iff text.toList

theorem withoutComments_withoutComments {text : String} (h : ¬ ['\r', '\r'] <:+: text.toList) :
    withoutComments (withoutComments text) = withoutComments text := by
  rw [withoutComments_withoutComments_iff, toList_withoutComments]
  exact not_return_infix_dropComments h

/-- A script without its comments stays as it is without its comments, unless a carriage return is
left before a line feed. None is left of a script without two returns next to each other, nor of one
that is read from a file. -/
theorem withoutComments_fixed_iff :
    (∀ text, withoutComments (withoutComments text) = withoutComments text ↔
      ¬ ['\r', '\n'] <:+: (withoutComments text).toList) ∧
      (∀ text : String, ¬ ['\r', '\r'] <:+: text.toList →
        withoutComments (withoutComments text) = withoutComments text) ∧
      ∀ (files : Files) path encoding text, files.readText path encoding = .ok text →
        withoutComments (withoutComments text) = withoutComments text := by
  refine ⟨withoutComments_withoutComments_iff, fun _ h ↦ withoutComments_withoutComments h, ?_⟩
  intro files path encoding text h
  apply withoutComments_withoutComments
  intro hreturns
  exact Files.return_not_mem_readText h (hreturns.subset List.mem_cons_self)

/-- Single returns within a line and at the end of a script, a return that is left of two, and the
same two returns in a file. -/
theorem withoutComments_fixed_iff_of_returns :
    let single := "select 1\r\n -- note\r\n\rselect 2\r"
    let double := "select 1\r\r\n-- note\nselect 2"
    let files : Files := fun _ ↦ .ok (.file double.toUTF8.data.toList)
    let path := Path.ofString "a.sql"
    ¬ ['\r', '\r'] <:+: single.toList ∧ withoutComments single = "select 1\n\rselect 2\n" ∧
      withoutComments (withoutComments single) = withoutComments single ∧
      withoutComments double = "select 1\r\nselect 2\n" ∧
      withoutComments (withoutComments double) ≠ withoutComments double ∧
      files.readText path "utf-8" = .ok "select 1\n\n-- note\nselect 2" ∧
      withoutComments (withoutComments "select 1\n\n-- note\nselect 2") =
        withoutComments "select 1\n\n-- note\nselect 2" := by
  intro single double files path
  have hsingle : ¬ ['\r', '\r'] <:+: single.toList := by decide +kernel
  have hdouble : withoutComments double = "select 1\r\nselect 2\n" := by decide +kernel
  have hread : files.readText path "utf-8" = .ok "select 1\n\n-- note\nselect 2" := by
    decide +kernel
  obtain ⟨hiff, hsingles, hfiles⟩ := withoutComments_fixed_iff
  refine ⟨hsingle, by decide +kernel, hsingles single hsingle, hdouble, ?_, hread,
    hfiles files path "utf-8" _ hread⟩
  rw [Ne, hiff double, hdouble]
  decide +kernel

end RevisionScript
