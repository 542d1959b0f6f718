import Mathlib.Data.List.Basic
import RevisionScript.Proofs.Text.Line
import RevisionScript.Proofs.Text.LineEnd
import RevisionScript.Script.Revision

namespace RevisionScript

variable {s : List Char} {c : Char}

theorem dropReturn_cons (hc : c ≠ '\r') (line : List Char) :
    dropReturn (c :: line) = c :: dropReturn line := by
  cases line with
  | nil => simp [dropReturn, hc]
  | cons d line =>
    unfold dropReturn
    rw [List.getLast?_cons_cons]
    split <;> rfl

theorem splitOn_newline_cons (hc : c ≠ '\n') (s : List Char) :
    List.splitOn '\n' (c :: s) = (List.splitOn '\n' s).modifyHead (c :: ·) := by
  rw [List.splitOn_cons_eq_if_modifyHead]
  simp [hc]

theorem map_dropReturn_modifyHead (hc : c ≠ '\r') (lines : List (List Char)) :
    (lines.modifyHead (c :: ·)).map dropReturn = (lines.map dropReturn).modifyHead (c :: ·) := by
  cases lines with
  | nil => rfl
  | cons line lines => simp [dropReturn_cons hc]

theorem splitOn_newline_newline (s : List Char) :
    List.splitOn '\n' ('\n' :: s) = [] :: List.splitOn '\n' s := by
  rw [List.splitOn_cons_eq_if_modifyHead]
  rfl

/-- A line ends the same with or without a carriage return. -/
theorem map_dropReturn_pairsToFeeds (h : ReturnsPaired s) :
    (List.splitOn '\n' (pairsToFeeds s)).map dropReturn = (List.splitOn '\n' s).map dropReturn := by
  fun_induction pairsToFeeds s with
  | case1 => rfl
  | case2 cs ih =>
    rw [returnsPaired_cons, returnsPaired_cons] at h
    have hpair : List.splitOn '\n' ('\r' :: '\n' :: cs) = ['\r'] :: List.splitOn '\n' cs := by
      rw [splitOn_newline_cons (by decide), splitOn_newline_newline, List.modifyHead_cons]
    rw [hpair, splitOn_newline_newline, List.map_cons, List.map_cons, ih h.2.2]
    rfl
  | case3 c cs hpair ih =>
    have hreturn := h.ne_return_of_not_pair hpair
    rw [returnsPaired_cons] at h
    by_cases hfeed : c = '\n'
    · rw [hfeed, splitOn_newline_newline, splitOn_newline_newline, List.map_cons,
        List.map_cons, ih h.2]
    · rw [splitOn_newline_cons hfeed, splitOn_newline_cons hfeed, map_dropReturn_modifyHead hreturn,
        map_dropReturn_modifyHead hreturn, ih h.2]

theorem dropComments_pairsToFeeds (h : ReturnsPaired s) :
    dropComments (pairsToFeeds s) = dropComments s := by
  have hlines : scriptLines (pairsToFeeds s) = scriptLines s := by
    rw [scriptLines, map_dropReturn_pairsToFeeds h, ← scriptLines]
  rw [dropComments, hlines, ← dropComments]

theorem Revision.parse_pairsToFeeds {text : String} (h : ReturnsPaired text.toList) :
    parse (String.ofList (pairsToFeeds text.toList)) = parse text := by
  have htext : withoutComments (String.ofList (pairsToFeeds text.toList)) =
      withoutComments text := by
    rw [withoutComments, String.toList_ofList, dropComments_pairsToFeeds h, ← withoutComments]
  rw [parse, htext, ← parse]

end RevisionScript
