import RevisionScript.Console.Layout
import RevisionScript.Proofs.Text.Blank
import RevisionScript.Proofs.Text.Line

namespace RevisionScript.Console

def ControlFree (s : List Char) : Prop := ∀ c ∈ s, 0x20 ≤ c.toNat

/-- A message shows a text up to the spaces at its end. -/
def Shows (message text : String) : Prop :=
  ∃ shown n, message.toList = shown ++ ['\n'] ∧ text.toList = shown ++ List.replicate n ' '

variable {s r : List Char}

instance : Decidable (ControlFree s) := List.decidableBAll _ s

theorem controlFree_append : ControlFree (s ++ r) ↔ ControlFree s ∧ ControlFree r :=
  List.forall_mem_append

theorem trimLineEnd_append_spaces (s : List Char) :
    ∃ n, s = trimLineEnd s ++ List.replicate n ' ' := by
  obtain ⟨b, hb, hs⟩ := exists_dropEndWhile (· == ' ') s
  have hspaces : ∀ c ∈ b, c = ' ' := fun c hc ↦ beq_iff_eq.1 (hb c hc)
  rw [List.eq_replicate_of_mem hspaces] at hs
  exact ⟨b.length, hs⟩

theorem mapLines_of_not_mem (h : '\n' ∉ s) (f : List Char → List Char) : mapLines f s = f s := by
  rw [mapLines, List.splitOn_eq_singleton h, List.map_singleton, List.intercalate_singleton]

theorem expandTabs_of_not_mem (h : '\t' ∉ s) (size : Nat) (width : List Char → Nat) :
    expandTabs size width s = s := by
  rw [expandTabs, List.splitOn_eq_singleton h, fillTabs]

/-- A message on one line only loses the spaces at its end. -/
theorem layMessage_of_controlFree (h : ControlFree s) : layMessage s = trimLineEnd s ++ ['\n'] := by
  have hnewline : '\n' ∉ s := fun hmem ↦ absurd (h _ hmem) (by decide)
  have htab : '\t' ∉ s := fun hmem ↦ absurd (h _ hmem) (by decide)
  have hdropped : s.filter (!isDropped ·) = s := by
    apply List.filter_eq_self.2
    intro c hc
    have hcode := h c hc
    simp only [isDropped, Bool.not_eq_true', Bool.or_eq_false_iff, beq_eq_false_iff_ne]
    omega
  rw [layMessage, hdropped, mapLines_of_not_mem hnewline, expandTabs_of_not_mem htab, trimLines,
    mapLines_of_not_mem hnewline]

/-- A message that shows a text has its brackets. -/
theorem Shows.count_eq {message text : String} (h : Shows message text) {c : Char} (hc : c ≠ ' ')
    (hnewline : c ≠ '\n') : message.toList.count c = text.toList.count c := by
  obtain ⟨shown, n, hmessage, htext⟩ := h
  rw [hmessage, htext, List.count_append, List.count_append, List.count_replicate]
  simp [hc.symm, hnewline.symm]

theorem shows_layMessage (h : ControlFree s) :
    Shows (String.ofList (layMessage s)) (String.ofList s) := by
  obtain ⟨n, hn⟩ := trimLineEnd_append_spaces s
  refine ⟨trimLineEnd s, n, ?_, ?_⟩
  · rw [String.toList_ofList, layMessage_of_controlFree h]
  · rwa [String.toList_ofList]

/-- A message without a bracketed part of a text does not show the text. -/
theorem not_shows_of_cut {before tag after : List Char} {text : String}
    (htext : text.toList = before ++ '[' :: (tag ++ ']' :: after))
    (hfree : ControlFree text.toList) :
    ¬ Shows (String.ofList (layMessage (before ++ after))) text := by
  intro hshows
  have hout : ControlFree (before ++ after) := by
    intro c hc
    apply hfree
    rw [htext]
    simp only [List.mem_append, List.mem_cons] at hc ⊢
    exact hc.imp_right fun hafter ↦ .inr (.inr (.inr hafter))
  have hcount := hshows.count_eq (c := '[') (by decide) (by decide)
  rw [(shows_layMessage hout).count_eq (by decide) (by decide), htext, String.toList_ofList]
    at hcount
  have hopen : ('[' :: (tag ++ ']' :: after)).count '[' = (tag ++ ']' :: after).count '[' + 1 :=
    List.count_cons_self
  have hclose : (']' :: after).count '[' = after.count '[' := List.count_cons_of_ne (by decide)
  rw [List.count_append, List.count_append, hopen, List.count_append, hclose] at hcount
  omega

end RevisionScript.Console
