import RevisionScript.Proofs.Script.Statement

namespace RevisionScript

open Quoting

variable {a b f : List Char} {fs gs : List (List Char)}

theorem dropComments_append_semicolon (h : EndsLine a) (b : List Char) :
    dropComments (a ++ ';' :: '\n' :: b) = dropComments a ++ ';' :: '\n' :: dropComments b := by
  have hline : dropComments (';' :: '\n' :: b) = ';' :: '\n' :: dropComments b :=
    dropComments_append (a := [';', '\n']) (.inr rfl) b
  rw [dropComments_append h, hline]

theorem Cuts.append_semicolon (ha : Cuts a fs) (hq : unquoted.afterText a = unquoted)
    (hb : Cuts b gs) : Cuts (a ++ ';' :: '\n' :: b) (fs ++ gs.modifyHead ('\n' :: ·)) := by
  have hline : Cuts ('\n' :: b) (gs.modifyHead ('\n' :: ·)) :=
    hb.extend (a := ['\n']) ⟨rfl, trivial⟩ rfl
  exact ha.append hq hline

theorem statement?_newline (f : List Char) : statement? ('\n' :: f) = statement? f := by
  have h : trim ('\n' :: f) = trim f := rfl
  rw [statement?, statement?, h]

/-- The line feed after the semicolon is trimmed away. -/
theorem filterMap_statement?_modifyHead (fs : List (List Char)) :
    (fs.modifyHead ('\n' :: ·)).filterMap statement? = fs.filterMap statement? := by
  cases fs with
  | nil => rfl
  | cons f fs =>
    rw [List.modifyHead_cons, List.filterMap_cons, List.filterMap_cons, statement?_newline]

theorem ReservedCommand.first?_append (xs ys : List String) :
    first? (xs ++ ys) = (first? xs).or (first? ys) := List.findSome?_append

namespace Revision

theorem parse_of_cuts {text : String} (h : Cuts (dropComments text.toList) fs) :
    parse text =
      (ReservedCommand.first? (fs.filterMap statement?)).elim (.ok ⟨fs.filterMap statement?⟩)
        .error := by
  rw [parse, withoutComments, h.fragments_ofList, statementsOf_eq_filterMap]
  cases ReservedCommand.first? (fs.filterMap statement?) <;> rfl

/-- Two scripts, of which the first has whole lines and closed quotes, with a line between them that
ends its last statement: it has the statements of both, or the first failure. -/
theorem parse_append_semicolon {a : String} (ha : EndsLine a.toList)
    (hq : (({} : Scan).feed (withoutComments a)).quoting = .unquoted) (b : String) :
    parse (a ++ ";\n" ++ b) = do
      let first ← parse a
      let second ← parse b
      return ⟨first.statements ++ second.statements⟩ := by
  obtain ⟨fs, hfs⟩ := exists_cuts (dropComments a.toList)
  obtain ⟨gs, hgs⟩ := exists_cuts (dropComments b.toList)
  have hcuts : Cuts (dropComments (a ++ ";\n" ++ b).toList) (fs ++ gs.modifyHead ('\n' :: ·)) := by
    have htext : (a ++ ";\n" ++ b).toList = a.toList ++ ';' :: '\n' :: b.toList := by simp
    rw [Scan.quoting_feed, withoutComments, String.toList_ofList] at hq
    rw [htext, dropComments_append_semicolon ha]
    exact hfs.append_semicolon hq hgs
  rw [parse_of_cuts hcuts, parse_of_cuts hfs, parse_of_cuts hgs, List.filterMap_append,
    filterMap_statement?_modifyHead, ReservedCommand.first?_append]
  cases ReservedCommand.first? (fs.filterMap statement?) with
  | some command => rfl
  | none => cases ReservedCommand.first? (gs.filterMap statement?) <;> rfl

theorem parse_append_semicolon_of_quoted :
    let a := "-- first\r\nselect ';'\n"
    let b := "select 2;\r\n-- last\n;select '"
    EndsLine a.toList ∧ (({} : Scan).feed (withoutComments a)).quoting = .unquoted ∧
      parse (a ++ ";\n" ++ b) = .ok ⟨["select ';'", "select 2", "select '"]⟩ := by
  intro a b
  have ha : EndsLine a.toList := .inr (by decide +kernel)
  have hq : (({} : Scan).feed (withoutComments a)).quoting = .unquoted := by decide +kernel
  refine ⟨ha, hq, ?_⟩
  rw [parse_append_semicolon ha hq b]
  decide +kernel

end Revision

end RevisionScript
