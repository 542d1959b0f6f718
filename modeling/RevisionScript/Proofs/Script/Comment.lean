import RevisionScript.Proofs.Text.Blank
import RevisionScript.Proofs.Text.Line
import RevisionScript.Script.Revision

namespace RevisionScript

variable {a b s line : List Char}

theorem isCommentLine_iff : isCommentLine line = true ↔ ['-', '-'] <+: trimStart line := by
  rw [isCommentLine, List.isPrefixOf_iff_prefix]
  constructor
  · intro h
    obtain ⟨b, -, ht⟩ := exists_trimEnd (trimStart line)
    rw [ht]
    exact h.trans (List.prefix_append _ _)
  · intro hp
    rcases hp with ⟨u, hu⟩
    rw [trim, ← hu]
    exact prefix_trimEnd_append (by simp [isBlank]) u

theorem isCommentLine_mono (h : a <+: b) (ha : isCommentLine a = true) :
    isCommentLine b = true := by
  obtain ⟨c, rfl⟩ := h
  rw [isCommentLine_iff] at ha ⊢
  have hn : trimStart a ≠ [] := by
    intro he
    simp [he] at ha
  rw [trimStart_append hn]
  exact ha.trans (List.prefix_append _ _)

theorem isCommentLine_append_of_blank (ha : AllBlank a) :
    isCommentLine (a ++ s) = isCommentLine s := by
  rw [isCommentLine, trim, trimStart_append_of_blank ha]
  rfl

theorem isCommentLine_append_blank (hb : AllBlank b) (s : List Char) :
    isCommentLine (s ++ b) = isCommentLine s := by
  rw [isCommentLine, trim_append_blank hb, ← isCommentLine]

theorem isCommentLine_firstLine (hs : ['-', '-'] <+: s) : isCommentLine (firstLine s) = true := by
  obtain ⟨u, rfl⟩ := hs
  rw [firstLine_append (by decide)]
  exact isCommentLine_mono (List.prefix_append _ _) rfl

def Uncommented (s : List Char) : Prop :=
  ∀ a b, s = a ++ '\n' :: b → isCommentLine (firstLine b) = false

theorem uncommented_iff : Uncommented s ↔
    ∀ l ∈ (List.splitOn '\n' s).tail, isCommentLine l = false := by
  simp only [mem_tail_splitOn_iff]
  constructor
  · intro h _ hp
    rcases hp with ⟨a, b, hs, rfl⟩
    exact h a b hs
  · intro h a b hs
    exact h _ ⟨a, b, hs, rfl⟩

theorem Uncommented.of_infix (h : Uncommented (a ++ (s ++ b))) : Uncommented s := by
  rintro u v rfl
  have hc := h (a ++ u) (v ++ b) (by simp)
  cases hv : isCommentLine (firstLine v)
  · rfl
  · rw [isCommentLine_mono (firstLine_prefix_self v b) hv] at hc
    exact absurd hc (by simp)

/-- Where no line after the first is a comment, two dashes after blanks stand on the first line. -/
theorem Uncommented.newline_not_mem (ha : AllBlank a) (hs : ['-', '-'] <+: s)
    (h : Uncommented (a ++ s)) : '\n' ∉ a := by
  induction a with
  | nil => simp
  | cons c cs ih =>
    rw [AllBlank, List.forall_mem_cons] at ha
    have hcs : '\n' ∉ cs := ih ha.2 (Uncommented.of_infix (a := [c]) (b := []) (by simpa using h))
    rw [List.mem_cons, not_or]
    refine ⟨?_, hcs⟩
    rintro rfl
    have hl := h [] (cs ++ s) rfl
    rw [firstLine_append hcs, isCommentLine_append_of_blank ha.2, isCommentLine_firstLine hs] at hl
    exact absurd hl (by decide)

theorem newline_not_mem_dropReturn (h : '\n' ∉ line) : '\n' ∉ dropReturn line := by
  unfold dropReturn
  split
  · exact fun hm ↦ h (List.dropLast_subset _ hm)
  · exact h

/-- A carriage return at the end of a line is blank. -/
theorem isCommentLine_dropReturn (line : List Char) :
    isCommentLine (dropReturn line) = isCommentLine line := by
  unfold dropReturn
  split
  · next h =>
    obtain ⟨init, rfl⟩ := List.getLast?_eq_some_iff.1 h
    rw [List.dropLast_concat, isCommentLine_append_blank (by simp [AllBlank, isBlank])]
  · rfl

theorem exists_of_mem_scriptLines {text : List Char} (h : line ∈ scriptLines text) :
    ∃ l ∈ List.splitOn '\n' text, dropReturn l = line := by
  unfold scriptLines at h
  dsimp only at h
  split at h
  · exact List.mem_map.1 (List.dropLast_subset _ h)
  · exact List.mem_map.1 h

theorem newline_not_mem_of_mem_scriptLines {text : List Char} (h : line ∈ scriptLines text) :
    '\n' ∉ line := by
  obtain ⟨l, hl, rfl⟩ := exists_of_mem_scriptLines h
  exact newline_not_mem_dropReturn (not_mem_of_mem_splitOn hl)

theorem scriptLines_unlines_append {ls : List (List Char)} (h : ∀ l ∈ ls, '\n' ∉ l)
    (s : List Char) : scriptLines (unlines ls ++ s) = ls.map dropReturn ++ scriptLines s := by
  have hn : (List.splitOn '\n' s).map dropReturn ≠ [] := by simp
  unfold scriptLines
  rw [splitOn_unlines_append h, List.map_append]
  simp only [List.getLast?_append_of_ne_nil _ hn, List.dropLast_append_of_ne_nil hn]
  split <;> rfl

theorem scriptLines_unlines {ls : List (List Char)} (h : ∀ l ∈ ls, '\n' ∉ l) :
    scriptLines (unlines ls) = ls.map dropReturn := by
  have hnil : scriptLines [] = [] := rfl
  have hlines := scriptLines_unlines_append h []
  rwa [hnil, List.append_nil, List.append_nil] at hlines

theorem scriptLines_append (h : EndsLine a) (b : List Char) :
    scriptLines (a ++ b) = scriptLines a ++ scriptLines b := by
  obtain ⟨ls, hls, rfl⟩ := h.exists_unlines
  rw [scriptLines_unlines_append hls, scriptLines_unlines hls]

/-- Scripts of whole lines lose their comments one by one. -/
theorem dropComments_append (h : EndsLine a) (b : List Char) :
    dropComments (a ++ b) = dropComments a ++ dropComments b := by
  simp only [dropComments, scriptLines_append h, List.filter_append, List.flatMap_append]

theorem dropComments_eq_unlines (text : List Char) :
    dropComments text = unlines ((scriptLines text).filter (!isCommentLine ·)) := rfl

theorem uncommented_dropComments (text : List Char) : Uncommented ('\n' :: dropComments text) := by
  rw [uncommented_iff, List.splitOn_cons_eq_if_modifyHead,
    dropComments_eq_unlines, splitOn_unlines]
  · intro l hl
    simp only [beq_self_eq_true, if_true, List.tail_cons] at hl
    obtain hl | hl := List.mem_append.1 hl
    · simpa using List.of_mem_filter hl
    · rw [List.mem_singleton.1 hl]
      rfl
  · exact fun l hl ↦ newline_not_mem_of_mem_scriptLines (List.mem_of_mem_filter hl)

end RevisionScript
