import RevisionScript.Proofs.Console.Tagged
import RevisionScript.Proofs.Run.Transcript
import RevisionScript.Run.Transaction

namespace RevisionScript

namespace Markup

theorem plain_append {s t : List Char} : Plain (s ++ t) ↔ Plain s ∧ Plain t :=
  List.forall_mem_append

theorem plain_of_isDigit {s : List Char} (h : ∀ c ∈ s, c.isDigit) : Plain s := by
  intro c hc
  have hd := h c hc
  refine ⟨?_, ?_, ?_⟩ <;> rintro rfl <;> revert hd <;> decide

theorem plain_nat (n : Nat) : Plain (toString n).toList := by
  refine plain_of_isDigit fun c hc ↦ ?_
  rw [Nat.toString_eq_ofList_toDigits, String.toList_ofList] at hc
  exact Nat.isDigit_of_mem_toDigits (by decide) (by decide) hc

theorem isDigit_ofNat (n : Nat) : (Char.ofNat (48 + n % 10)).isDigit := by
  have h : ∀ k < 10, (Char.ofNat (48 + k)).isDigit := by decide
  exact h _ (Nat.mod_lt n (by decide))

theorem plain_hundredths (d : Dyadic) : Plain d.hundredths.toList := by
  unfold Dyadic.hundredths
  simp only [String.toList_append, plain_append]
  refine ⟨⟨⟨?_, plain_nat _⟩, by decide⟩, ?_⟩
  · split <;> decide
  · change Plain (String.ofList _).toList
    rw [String.toList_ofList]
    refine plain_of_isDigit fun c hc ↦ ?_
    obtain rfl | hc := List.mem_cons.1 hc
    · exact isDigit_ofNat _
    · rw [List.mem_singleton.1 hc]
      exact isDigit_ofNat _

theorem plain_secondsText (milliseconds : Int) : Plain (secondsText milliseconds).toList :=
  plain_hundredths _

end Markup

namespace Console

theorem isOk_message (markup : String) :
    (message markup).isOk = (Markup.render markup.toList).isOk := by
  unfold message
  cases Markup.render markup.toList <;> rfl

end Console

namespace Run

open Markup

theorem isOk_message_statement (index total : Nat) :
    (Console.message s!"[cyan]Statement {index}/{total}[/cyan]").isOk := by
  have hb : Plain ("Statement ".toList ++ (toString index).toList ++ "/".toList ++
      (toString total).toList) := by
    simp only [plain_append]
    exact ⟨⟨⟨by decide, plain_nat index⟩, by decide⟩, plain_nat total⟩
  have h := isOk_render_tagged (a := []) (d := []) (c := 'c') (t := "yan".toList) (by decide) hb
    (by decide) (by decide) (by decide) (by decide)
  rw [Console.isOk_message]
  convert h using 2
  simp [toString]

theorem isOk_message_total (total : Nat) :
    (Console.message s!"\n[bold cyan]Executing {total} statements...[/bold cyan]\n").isOk := by
  have hb : Plain ("Executing ".toList ++ (toString total).toList ++ " statements...".toList) := by
    simp only [plain_append]
    exact ⟨⟨by decide, plain_nat total⟩, by decide⟩
  have h := isOk_render_tagged (a := ['\n']) (d := ['\n']) (c := 'b') (t := "old cyan".toList)
    (by decide) hb (by decide) (by decide) (by decide) (by decide)
  rw [Console.isOk_message]
  convert h using 2
  simp [toString]

theorem isOk_message_success {r : StatementResult} (hr : r.status = .succeeded) :
    (Console.message (outcomeLine r)).isOk := by
  have hd : Plain (" Completed in ".toList ++ (secondsText r.milliseconds).toList ++ ['s']) := by
    simp only [plain_append]
    exact ⟨⟨by decide, plain_secondsText _⟩, by decide⟩
  have h := isOk_render_tagged (a := [' ', ' ']) (b := ['✓']) (c := 'g') (t := "reen".toList)
    (by decide) (by decide) hd (by decide) (by decide) (by decide)
  rw [Console.isOk_message]
  convert h using 2
  simp [outcomeLine, hr, toString]

/-- The message about a failure is as sound as the text of the failure. -/
theorem isOk_message_failure {r : StatementResult} {text : String} (hr : r.status = .failed)
    (htext : r.errorMessage = some text) :
    (Console.message (outcomeLine r)).isOk = (Markup.render text.toList).isOk := by
  have h := isOk_render_tagged_append (a := [' ', ' ']) (b := ['✗']) (d := " Failed: ".toList)
    (c := 'r') (t := "ed".toList) (by decide) (by decide) (by decide) (by decide) (by decide)
    (by decide) text.toList
  rw [Console.isOk_message, ← h]
  congr 2
  simp [outcomeLine, hr, htext, toString]

end Run

end RevisionScript
