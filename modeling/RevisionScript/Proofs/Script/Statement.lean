import RevisionScript.Proofs.Script.Comment
import RevisionScript.Proofs.Script.Cut
import RevisionScript.Proofs.Script.Reserved
import RevisionScript.Script.Revision

namespace RevisionScript

open Quoting

theorem isBlank_ne {c : Char} (h : isBlank c = true) : c ≠ '\x27' ∧ c ≠ '\x22' ∧ c ≠ ';' := by
  refine ⟨?_, ?_, ?_⟩ <;> rintro rfl <;> simp [isBlank] at h

namespace Quoting

theorem after_of_blank (q : Quoting) {c : Char} (h : isBlank c = true) : q.after c = q := by
  obtain ⟨hs, hd, -⟩ := isBlank_ne h
  cases q <;> simp [after, hs, hd]

theorem endsFragment_of_blank (q : Quoting) {c : Char} (h : isBlank c = true) :
    q.endsFragment c = false := by
  simp [endsFragment, (isBlank_ne h).2.2]

/-- Blanks neither change the quoting nor end a fragment. -/
theorem spans_of_blank (q : Quoting) {s : List Char} (h : AllBlank s) :
    q.Spans s ∧ q.afterText s = q := by
  induction s with
  | nil => exact ⟨trivial, rfl⟩
  | cons c cs ih =>
    rw [AllBlank, List.forall_mem_cons] at h
    simpa [after_of_blank q h.1, endsFragment_of_blank q h.1] using ih h.2

theorem afterText_trim (q : Quoting) (s : List Char) : q.afterText (trim s) = q.afterText s := by
  obtain ⟨a, b, ha, hb, hs⟩ := exists_trim s
  rw [hs, afterText_append, afterText_append, (spans_of_blank _ ha).2,
    (spans_of_blank _ hb).2, ← hs]

theorem Spans.trim {q : Quoting} {s : List Char} (h : q.Spans s) : q.Spans (trim s) := by
  obtain ⟨a, b, ha, -, hs⟩ := exists_trim s
  rw [hs, spans_append, spans_append, (spans_of_blank q ha).2] at h
  exact h.2.1

end Quoting

theorem Cuts.infix_of_mem {s f : List Char} {fs : List (List Char)} (h : Cuts s fs) (hf : f ∈ fs) :
    f <:+: s := by
  obtain rfl | ⟨before, after, rfl, -, rfl⟩ := h.mem_iff.1 hf
  · exact (fragment_prefix_self _ _).isInfix
  · have hs : ';' :: after <:+ before ++ ';' :: after := List.suffix_append _ _
    exact (fragment_prefix_self _ _).isInfix.trans ((List.suffix_cons _ _).trans hs).isInfix

def statement? (f : List Char) : Option String :=
  if trim f = [] then none else some (String.ofList (trim f))

theorem statement?_eq_some_iff {f : List Char} {s : String} :
    statement? f = some s ↔ trim f = s.toList ∧ s ≠ "" := by
  unfold statement?
  split
  · next h =>
    simp only [reduceCtorEq, false_iff, not_and, ne_eq, not_not]
    exact fun he ↦ String.toList_eq_nil_iff.1 (he.symm.trans h)
  · next h =>
    rw [Option.some.injEq]
    constructor
    · rintro rfl
      simpa using h
    · intro hp
      rcases hp with ⟨ht, -⟩
      rw [ht, String.ofList_toList]

namespace Revision

theorem statementsOf_eq_filterMap (fs : List (List Char)) :
    statementsOf (fs.map String.ofList) = fs.filterMap statement? := by
  induction fs with
  | nil => rfl
  | cons f fs ih =>
    rw [List.filterMap_cons, ← ih]
    by_cases h : trim f = [] <;> simp [statementsOf, statement?, h]

theorem parse_eq_ok_iff {text : String} {r : Revision} :
    parse text = .ok r ↔
      statementsOf (fragments (withoutComments text)) = r.statements ∧
        ∀ s ∈ r.statements, ReservedCommand.opening? s = none := by
  simp only [← ReservedCommand.first?_eq_none_iff]
  obtain ⟨l⟩ := r
  unfold parse
  generalize statementsOf (fragments (withoutComments text)) = found
  dsimp only
  split
  · next command h =>
    simp only [reduceCtorEq, false_iff, not_and]
    rintro rfl
    simp [h]
  · next h =>
    simp only [Except.ok.injEq, Revision.mk.injEq]
    constructor
    · rintro rfl
      exact ⟨rfl, h⟩
    · exact And.left

/-- Statements of a script stand in the fragments of what its comments leave. -/
theorem exists_cuts_of_parse {text : String} {r : Revision} (h : parse text = .ok r) :
    ∃ fs, Cuts (dropComments text.toList) fs ∧ r.statements = fs.filterMap statement? := by
  obtain ⟨fs, hfs⟩ := exists_cuts (dropComments text.toList)
  refine ⟨fs, hfs, ?_⟩
  rw [← (parse_eq_ok_iff.1 h).1, withoutComments, hfs.fragments_ofList, statementsOf_eq_filterMap]

end Revision

end RevisionScript
