import RevisionScript.Failure
import RevisionScript.Proofs.Script.Reserved

namespace RevisionScript

theorem forall₂_take_iff {α β : Type} {R : α → β → Prop} {w : List β} {s : List α} :
    List.Forall₂ R (s.take w.length) w ↔
      w.length ≤ s.length ∧ ∀ (i : Nat) b a, w[i]? = some b → s[i]? = some a → R a b := by
  induction w generalizing s with
  | nil => simp
  | cons b w ih =>
    cases s with
    | nil => simp
    | cons a s =>
      rw [List.length_cons, List.length_cons, Nat.add_le_add_iff_right, List.take_succ_cons,
        List.forall₂_cons, ih, and_left_comm]
      refine and_congr_right fun _ ↦ ⟨fun h i ↦ ?_, fun h ↦ ⟨h 0 b a rfl rfl, fun i ↦ h (i + 1)⟩⟩
      cases i with
      | zero => simpa using h.1
      | succ i => exact h.2 i

namespace ReservedCommand

def Begins (command : ReservedCommand) (statement : String) : Prop :=
  command.word.length ≤ statement.length ∧
    ∀ (i : Nat) (letter c : Char), command.word.toList[i]? = some letter →
      statement.toList[i]? = some c → StandsFor c letter

def longest : Nat := 9

def capitals (command : ReservedCommand) : String :=
  String.ofList (command.word.toList.map Char.toUpper)

variable {command : ReservedCommand} {statement : String} {statements : List String}

theorem length_word_le_longest (command : ReservedCommand) : command.word.length ≤ longest := by
  cases command <;> decide

theorem isLower_of_mem_word (command : ReservedCommand) :
    ∀ letter ∈ command.word.toList, letter.isLower = true := by
  have h : command.word.toList.all Char.isLower = true := by cases command <;> decide
  exact List.all_eq_true.1 h

theorem getLast?_word_ne (command : ReservedCommand) : command.word.toList.getLast? ≠ some 'i' := by
  cases command <;> decide

theorem keywordText_word (command : ReservedCommand) :
    RevisionFailure.keywordText command.word = command.capitals := by
  cases command <;> decide +kernel

theorem begins_iff_forall₂ :
    command.Begins statement ↔
      List.Forall₂ StandsFor (statement.toList.take command.word.length) command.word.toList := by
  rw [Begins, ← String.length_toList, ← String.length_toList, forall₂_take_iff]

/-- Lower-casing finds a command exactly where its letters stand. -/
theorem opens_iff_begins : command.Opens statement.toList ↔ command.Begins statement := by
  rw [begins_iff_forall₂, ← String.length_toList]
  exact prefix_lower_iff command.isLower_of_mem_word command.getLast?_word_ne _

theorem begins_take_iff :
    command.Begins (String.ofList (statement.toList.take longest)) ↔ command.Begins statement := by
  rw [begins_iff_forall₂, begins_iff_forall₂, String.toList_ofList, List.take_take,
    Nat.min_eq_left command.length_word_le_longest]

theorem opening?_eq_some_iff_begins :
    opening? statement = some command ↔ command.Begins statement := by
  rw [opening?_eq_some_iff, opens_iff_begins]

theorem opening?_eq_none_iff_begins :
    opening? statement = none ↔ ∀ c : ReservedCommand, ¬ c.Begins statement := by
  simp only [opening?_eq_none_iff, opens_iff_begins]

theorem opening?_take (statement : String) :
    opening? (String.ofList (statement.toList.take longest)) = opening? statement := by
  refine Option.ext fun command ↦ ?_
  rw [opening?_eq_some_iff_begins, opening?_eq_some_iff_begins, begins_take_iff]

theorem first?_map_take (statements : List String) :
    first? (statements.map fun s ↦ String.ofList (s.toList.take longest)) = first? statements := by
  simp only [first?, List.findSome?_map, Function.comp_def, opening?_take]

/-- Statements are refused when one of them begins with a command, and for the command of the first
that does. Nothing beyond the length of the longest command matters. -/
theorem first?_eq_some_iff_begins (statements : List String) :
    ((first? statements).isSome ↔ ∃ s ∈ statements, ∃ command : ReservedCommand, command.Begins s) ∧
    (∀ command, first? statements = some command ↔
      ∃ before s after, statements = before ++ s :: after ∧ command.Begins s ∧
        ∀ t ∈ before, ∀ c : ReservedCommand, ¬ c.Begins t) ∧
    (∀ command, (Failure.reserved command).message =
        s!"{command.capitals} command is not supported in a revision" ∧
      RevisionFailure.keywordText command.word = command.capitals) ∧
    first? (statements.map fun s ↦ String.ofList (s.toList.take longest)) = first? statements := by
  refine ⟨?_, fun command ↦ ?_, fun command ↦ ⟨?_, command.keywordText_word⟩,
    first?_map_take statements⟩
  · simp only [first?, List.isSome_findSome?, List.any_eq_true, Option.isSome_iff_exists,
      opening?_eq_some_iff_begins]
  · simp only [first?, List.findSome?_eq_some_iff, opening?_eq_some_iff_begins,
      opening?_eq_none_iff_begins]
  · rw [← command.keywordText_word]
    rfl

/-- The Kelvin sign counts as a letter; the dotted capital, whose lower case is two characters, does
not. -/
example : first? ["BEG\u0130N", "ROLLBAC\u212a"] = some .rollback := by decide +kernel

end ReservedCommand

end RevisionScript
