import Mathlib.Logic.Relation
import RevisionScript.Proofs.Script.Comment
import RevisionScript.Script.Revision

namespace RevisionScript

variable {line : List Char}

theorem dropComments_line (hn : '\n' ∉ line) (h : isCommentLine line = true) :
    dropComments (line ++ ['\n']) = [] := by
  have hlines : scriptLines (unlines [line]) = [dropReturn line] :=
    scriptLines_unlines (List.forall_mem_singleton.2 hn)
  rw [unlines, List.flatMap_singleton] at hlines
  rw [dropComments_eq_unlines, hlines, List.filter_singleton, isCommentLine_dropReturn, h]
  rfl

def AddsComment (s t : String) : Prop :=
  ∃ a line b : String, EndsLine a.toList ∧ '\n' ∉ line.toList ∧ isCommentLine line.toList = true ∧
    s = a ++ b ∧ t = a ++ line ++ "\n" ++ b

theorem withoutComments_append {a : String} (ha : EndsLine a.toList) (b : String) :
    withoutComments (a ++ b) = withoutComments a ++ withoutComments b := by
  simp only [withoutComments, String.toList_append, dropComments_append ha, String.ofList_append]

theorem AddsComment.withoutComments_eq {s t : String} (h : AddsComment s t) :
    withoutComments s = withoutComments t := by
  obtain ⟨a, line, b, ha, hn, hline, rfl, rfl⟩ := h
  have hends : EndsLine (line ++ "\n").toList := .inr (by simp)
  have hempty : withoutComments (line ++ "\n") = "" := by
    rw [withoutComments, String.toList_append]
    exact congrArg String.ofList (dropComments_line hn hline)
  have htext : a ++ line ++ "\n" ++ b = a ++ (line ++ "\n" ++ b) := by
    simp only [String.append_assoc]
  rw [htext, withoutComments_append ha, withoutComments_append ha, withoutComments_append hends,
    hempty, String.empty_append]

/-- Any number of comments may be added and taken away. -/
theorem withoutComments_eq_of_eqvGen {s t : String} (h : Relation.EqvGen AddsComment s t) :
    withoutComments s = withoutComments t := by
  induction h with
  | rel _ _ h => exact h.withoutComments_eq
  | refl => rfl
  | symm _ _ _ ih => exact ih.symm
  | trans _ _ _ _ _ ih ih' => exact ih.trans ih'

namespace Revision

theorem parse_congr {s t : String} (h : withoutComments s = withoutComments t) :
    parse s = parse t := by
  rw [parse, parse, h]

/-- A script of whole lines loses its comments apart from what follows it. So a comment on a line of
its own can be added or taken away anywhere between two lines. -/
theorem parse_of_addsComment :
    (∀ a b : String, EndsLine a.toList →
      withoutComments (a ++ b) = withoutComments a ++ withoutComments b) ∧
    (∀ a line b : String, EndsLine a.toList → '\n' ∉ line.toList →
      isCommentLine line.toList = true →
      withoutComments (a ++ line ++ "\n" ++ b) = withoutComments (a ++ b) ∧
        parse (a ++ line ++ "\n" ++ b) = parse (a ++ b)) ∧
    ∀ s t, Relation.EqvGen AddsComment s t →
      withoutComments s = withoutComments t ∧ parse s = parse t := by
  refine ⟨fun a b ha ↦ withoutComments_append ha b, fun a line b ha hn hline ↦ ?_, fun s t h ↦ ?_⟩
  · have hadds : AddsComment (a ++ b) (a ++ line ++ "\n" ++ b) :=
      ⟨a, line, b, ha, hn, hline, rfl, rfl⟩
    have h := hadds.withoutComments_eq.symm
    exact ⟨h, parse_congr h⟩
  · have h' := withoutComments_eq_of_eqvGen h
    exact ⟨h', parse_congr h'⟩

/-- The comment would open a quote and end a statement, and its line ends with a carriage return. -/
theorem parse_of_addsComment_of_quote :
    let a := "select 'a\n"
    let line := "\t-- it's; commit\r"
    let b := "b'; select 2"
    EndsLine a.toList ∧ '\n' ∉ line.toList ∧ isCommentLine line.toList = true ∧
      parse (a ++ line ++ "\n" ++ b) = .ok ⟨["select 'a\nb'", "select 2"]⟩ ∧
      withoutComments (a ++ b) = withoutComments a ++ withoutComments b ∧
      Relation.EqvGen AddsComment (a ++ line ++ "\n" ++ b) (a ++ b) ∧
      withoutComments (a ++ line ++ "\n" ++ b) = withoutComments (a ++ b) := by
  intro a line b
  have ha : EndsLine a.toList := .inr (by decide +kernel)
  have hn : '\n' ∉ line.toList := by decide +kernel
  have hline : isCommentLine line.toList = true := by decide +kernel
  have hparse : parse (a ++ b) = .ok ⟨["select 'a\nb'", "select 2"]⟩ := by decide +kernel
  have hremoved : Relation.EqvGen AddsComment (a ++ line ++ "\n" ++ b) (a ++ b) :=
    .symm _ _ (.rel _ _ ⟨a, line, b, ha, hn, hline, rfl, rfl⟩)
  obtain ⟨hparts, hline', hremovable⟩ := parse_of_addsComment
  refine ⟨ha, hn, hline, ?_, hparts a b ha, hremoved, (hremovable _ _ hremoved).1⟩
  rw [(hline' a line b ha hn hline).2, hparse]

end Revision

end RevisionScript
