import RevisionScript.Proofs.Text.Case
import RevisionScript.Script.Revision

namespace RevisionScript

theorem caseImage_ne_nil {expansions : List (Nat × List Nat)} (h : ∀ e ∈ expansions, e.2 ≠ [])
    (ranges : List CaseRange) (c : Char) : caseImage expansions ranges c ≠ [] := by
  unfold caseImage
  split
  · next codes hl =>
    obtain ⟨_, _, he, -⟩ := List.lookup_eq_some_iff.1 hl
    simpa using h (c.toNat, codes) (by simp [he])
  · split <;> simp

theorem length_le_length_lower (s : List Char) : s.length ≤ (lower s).length := by
  induction s with
  | nil => simp
  | cons c cs ih =>
    have hc : lowerChar c ≠ [] := caseImage_ne_nil (by decide) _ _
    have hl := List.length_pos_iff.2 hc
    rw [lower, List.flatMap_cons, ← lower, List.length_append, List.length_cons]
    omega

namespace ReservedCommand

def Opens (command : ReservedCommand) (s : List Char) : Prop := command.word.toList <+: lower s

theorem length_word_le (command : ReservedCommand) :
    command.word.toList.length ≤ inspectedLength := by cases command <;> decide

/-- The characters that are not looked at make no difference. -/
theorem prefix_lower_take_iff (command : ReservedCommand) (s : List Char) :
    command.word.toList <+: lower (s.take inspectedLength) ↔ command.Opens s := by
  have hs : lower s = lower (s.take inspectedLength) ++ lower (s.drop inspectedLength) := by
    rw [← lower_append, List.take_append_drop]
  rw [Opens, hs]
  constructor
  · exact fun h ↦ h.trans (List.prefix_append _ _)
  · intro h
    by_cases hl : s.length ≤ inspectedLength
    · simpa [List.drop_eq_nil_of_le hl, lower] using h
    · refine List.prefix_of_prefix_length_le h (List.prefix_append _ _) ?_
      have ht := length_le_length_lower (s.take inspectedLength)
      rw [List.length_take, Nat.min_eq_left (by omega)] at ht
      exact (length_word_le command).trans ht

theorem sigma_not_mem_word (command : ReservedCommand) :
    'σ' ∉ command.word.toList ∧ 'ς' ∉ command.word.toList := by cases command <;> decide

/-- Nor does a sigma that takes its final form. -/
theorem prefix_lowerText_take_iff (command : ReservedCommand) (s : List Char) :
    command.word.toList <+: lowerText (s.take inspectedLength) ↔ command.Opens s := by
  obtain ⟨hsigma, hfinal⟩ := command.sigma_not_mem_word
  rw [lowerText, prefix_lowerAfter_iff hsigma hfinal, prefix_lower_take_iff]

theorem mem_all (command : ReservedCommand) : command ∈ all := by cases command <;> decide

theorem opening?_eq_none_iff {statement : String} :
    opening? statement = none ↔ ∀ command : ReservedCommand, ¬ command.Opens statement.toList := by
  simp only [opening?, List.find?_eq_none, List.isPrefixOf_iff_prefix, prefix_lowerText_take_iff]
  exact ⟨fun h command ↦ h command (mem_all command), fun h command _ ↦ h command⟩

theorem Opens.mono {command : ReservedCommand} {s t : List Char} (h : command.Opens s)
    (hst : s <+: t) : command.Opens t := by
  obtain ⟨u, rfl⟩ := hst
  rw [Opens, lower_append]
  exact h.trans (List.prefix_append _ _)

theorem word_prefix_iff {c d : ReservedCommand} : c.word.toList <+: d.word.toList ↔ c = d := by
  cases c <;> cases d <;> decide

/-- No two commands open the same text. -/
theorem Opens.unique {c d : ReservedCommand} {s : List Char} (hc : c.Opens s) (hd : d.Opens s) :
    c = d := by
  obtain h | h := List.prefix_or_prefix_of_prefix hc hd
  · exact word_prefix_iff.1 h
  · exact (word_prefix_iff.1 h).symm

theorem opening?_eq_some_iff {statement : String} {command : ReservedCommand} :
    opening? statement = some command ↔ command.Opens statement.toList := by
  have hopens : ∀ c, opening? statement = some c → c.Opens statement.toList := by
    intro c h
    have hc := List.find?_some h
    rwa [List.isPrefixOf_iff_prefix, prefix_lowerText_take_iff] at hc
  constructor
  · exact hopens command
  · intro h
    cases ho : opening? statement with
    | none => exact absurd h (opening?_eq_none_iff.1 ho command)
    | some c => rw [(hopens c ho).unique h]

theorem first?_eq_none_iff {statements : List String} :
    first? statements = none ↔ ∀ s ∈ statements, opening? s = none := List.findSome?_eq_none_iff

theorem first?_singleton (statement : String) : first? [statement] = opening? statement := by
  rw [first?, List.findSome?_cons]
  cases opening? statement <;> rfl

theorem not_opens_nil (command : ReservedCommand) : ¬ command.Opens [] := by
  cases command <;> simp [Opens, lower, word]

end ReservedCommand

end RevisionScript
