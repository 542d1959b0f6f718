import RevisionScript.CommandLine.Program
import RevisionScript.Proofs.Console.Escape

namespace RevisionScript

namespace Markup

structure EndsWith (markup : String) (tagged : List String) (words text : String) : Prop where
  tags : tags (tokens markup.toList) = tagged.map String.toList
  render : ∃ shown, render markup.toList = .ok (words.toList ++ shown) ∧
    unslashed shown = unslashed text.toList
  verbatim : '\\' ∉ text.toList → Markup.render markup.toList = .ok (words.toList ++ text.toList)

/-- A text that is escaped brings no tags to a template that has closed its own. -/
theorem endsWith_tagged {a b d t : List Char} {c : Char} (ha : Plain a) (hb : Plain b)
    (hd : Plain d)
    (hc : opensTag c = true) (hslash : c ≠ '/') (ht : Plain (c :: t))
    {markup words text opening closing : String} (hopening : opening.toList = c :: t)
    (hclosing : closing.toList = '/' :: c :: t)
    (hmarkup : markup.toList = a ++ '[' :: (c :: t ++ ']' :: (b ++ '[' :: ('/' :: c :: t ++ ']' ::
      (d ++ escape text.toList)))))
    (hwords : words.toList = a ++ b ++ d) :
    EndsWith markup [opening, closing] words text := by
  have htokens := tokens_tagged ha hb hd hc ht (escape text.toList)
  rw [← hmarkup] at htokens
  have hquiet := quiet_tokens_escape text.toList
  obtain ⟨next, hnext⟩ := exists_renderFrom_tagged (t := t) ha hb hd hslash
    (tokens (escape text.toList))
  rw [← htokens, ← hwords] at hnext
  refine ⟨?_, ?_, ?_⟩
  · have htag (body : List Char) (ts : List Token) :
        Markup.tags (.tag 0 body :: ts) = body :: Markup.tags ts := rfl
    rw [htokens, tags_append, htag, tags_append, htag, tags_append,
      tags_of_quiet (quiet_map_char a), tags_of_quiet (quiet_map_char b),
      tags_of_quiet (quiet_map_char d), tags_of_quiet hquiet]
    simp [hopening, hclosing]
  · obtain ⟨shown, hshown, heq⟩ := renderFrom_of_quiet hquiet next []
    rw [tokens_text, unslashed_escape] at heq
    refine ⟨shown, ?_, heq⟩
    rw [Markup.render, hnext, hshown]
    rfl
  · intro htext
    obtain ⟨last, hlast⟩ := renderFrom_escape htext next [] []
    rw [List.append_nil] at hlast
    rw [Markup.render, hnext, hlast]
    change Except.ok _ = Except.ok _
    simp

end Markup

open Markup CommandLine

theorem endsWith_failureLine (failure : Failure) :
    EndsWith (failureLine failure) ["red", "/red"] "✗ Error: " failure.message := by
  refine endsWith_tagged (a := []) (b := "✗ Error:".toList) (d := [' ']) (c := 'r')
    (t := "ed".toList) (by decide) (by decide) (by decide) (by decide) (by decide) (by decide)
    rfl rfl ?_ (by decide)
  unfold failureLine
  generalize failure.message = text
  simp [toString, toList_escaped]

def RunResult.failureLine (r : RunResult) : String :=
  let status := r.status.name
  let reason := Markup.escaped (r.errorMessage.getD "")
  s!"\n[red]✗ Revision {status}:[/red] {reason}"

theorem endsWith_runFailureLine (r : RunResult) :
    EndsWith r.failureLine ["red", "/red"] s!"\n✗ Revision {r.status.name}: "
      (r.errorMessage.getD "") := by
  have hb : Plain ("✗ Revision ".toList ++ r.status.name.toList ++ [':']) := by
    cases r.status <;> decide
  refine endsWith_tagged (a := ['\n']) (d := [' ']) (c := 'r') (t := "ed".toList)
    (by decide) hb (by decide) (by decide) (by decide) (by decide) rfl rfl ?_ ?_
  · unfold RunResult.failureLine
    generalize r.errorMessage.getD "" = text
    simp [toString, toList_escaped]
  · simp [toString]

theorem summary_of_failed {r : RunResult} (hstatus : r.status ≠ .succeeded)
    (hseconds : exceedsSeconds r.milliseconds = false) :
    r.summary false = .ok [r.failureLine, "  Changes were rolled back"] := by
  unfold RunResult.summary
  rw [if_neg (by decide), hseconds, if_neg (by decide), if_neg hstatus]
  rfl

/-- The text of an error cannot disturb the line that it ends, whether it is that of a failure or
that of a run that has failed. -/
theorem endsWith_error :
    (∀ failure : Failure,
      EndsWith (failureLine failure) ["red", "/red"] "✗ Error: " failure.message) ∧
    ∀ r : RunResult, r.status ≠ .succeeded → exceedsSeconds r.milliseconds = false →
      ∃ line, r.summary false = .ok [line, "  Changes were rolled back"] ∧
        EndsWith line ["red", "/red"] s!"\n✗ Revision {r.status.name}: "
          (r.errorMessage.getD "") := by
  refine ⟨endsWith_failureLine, ?_⟩
  intro r hstatus hseconds
  exact ⟨r.failureLine, summary_of_failed hstatus hseconds, endsWith_runFailureLine r⟩

/-- A tag, a closing tag that nothing opens and a bracket that nothing closes. -/
theorem endsWith_error_of_brackets :
    let text := "Statement 1 failed: near \"[b]\": [/x] [y"
    let r : RunResult :=
      { runId := "run_0", total := 1, status := .failed, errorMessage := some text }
    r.status ≠ .succeeded ∧ exceedsSeconds r.milliseconds = false ∧
      ∃ line, r.summary false = .ok [line, "  Changes were rolled back"] ∧
        tags (tokens line.toList) = ["red".toList, "/red".toList] ∧
        render line.toList = .ok ("\n✗ Revision failed: ".toList ++ text.toList) := by
  intro text r
  have hstatus : r.status ≠ .succeeded := nofun
  have hseconds : exceedsSeconds r.milliseconds = false := by decide +kernel
  obtain ⟨line, hline, hends⟩ := endsWith_error.2 r hstatus hseconds
  exact ⟨hstatus, hseconds, line, hline, hends.tags, hends.verbatim (by decide)⟩

end RevisionScript
