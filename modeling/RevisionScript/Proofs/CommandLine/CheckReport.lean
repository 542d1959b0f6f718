import RevisionScript.Proofs.CommandLine.Ending
import RevisionScript.Proofs.Report.Line

namespace RevisionScript.Check

open Act CommandLine Console Markup

variable {W : Type} {files : Files} {encoding : String} {paths : List Path} {checks : List Check}
  {c : Check} {s : Session W}

def closing (checks : List Check) : String :=
  if checks.isEmpty then "[yellow]No revision files found[/yellow]" else verdict checks

theorem report_eq (checks : List Check) : report checks = checks.map line ++ [closing checks] := by
  unfold report closing
  cases checks <;> rfl

theorem isOk_message_closing (checks : List Check) :
    (Console.message (closing checks)).isOk = true := by
  have hnone : (Console.message "[yellow]No revision files found[/yellow]").isOk = true := by
    rw [isOk_message]
    decide +kernel
  have hvalid (total : Nat) :
      (Console.message s!"\n[green]✓ All {total} revisions are valid[/green]").isOk = true := by
    have hb : Plain ("✓ All ".toList ++ (toString total).toList ++
        " revisions are valid".toList) := by
      rw [plain_append, plain_append]
      exact ⟨⟨by decide, plain_nat total⟩, by decide⟩
    have h := isOk_render_tagged (a := ['\n']) (d := []) (c := 'g') (t := "reen".toList)
      (by decide) hb
      (by decide) (by decide) (by decide) (by decide)
    rw [isOk_message]
    convert h using 2
    simp [toString]
  have hrejected (failed total : Nat) :
      (Console.message s!"\n[red]✗ {failed} of {total} revisions rejected[/red]").isOk = true := by
    have hb : Plain ("✗ ".toList ++ (toString failed).toList ++ " of ".toList ++
        (toString total).toList ++ " revisions rejected".toList) := by
      simp only [plain_append]
      exact ⟨⟨⟨⟨by decide, plain_nat failed⟩, by decide⟩, plain_nat total⟩, by decide⟩
    have h := isOk_render_tagged (a := ['\n']) (d := []) (c := 'r') (t := "ed".toList)
      (by decide) hb
      (by decide) (by decide) (by decide) (by decide)
    rw [isOk_message]
    convert h using 2
    simp [toString]
  unfold closing verdict
  split
  · exact hnone
  · dsimp only
    split
    · exact hvalid _
    · exact hrejected _ _

theorem sayAll_report (h : ∀ c ∈ checks, ∃ text, Console.message c.line = .ok text)
    (s : Session W) :
    ∃ texts last, List.Forall₂ (fun c text ↦ Console.message c.line = .ok text) checks texts ∧
      Console.message (closing checks) = .ok last ∧
      sayAll (report checks) s = .ok ()
        { s with output := s.output ++ String.join (texts ++ [last]) } := by
  obtain ⟨texts, htexts⟩ := exists_mapM_eq_ok_iff.2 h
  obtain ⟨last, hlast⟩ := exists_of_isOk (isOk_message_closing checks)
  have hshown : (report checks).mapM Console.message = .ok (texts ++ [last]) := by
    rw [report_eq, mapM_append_eq_ok_iff]
    refine ⟨texts, [last], ?_, ?_, rfl⟩
    · rw [List.mapM_map]
      exact htexts
    · rw [List.mapM_cons, hlast]
      rfl
  exact ⟨texts, last, mapM_eq_ok_iff_forall₂.1 htexts, hlast, sayAll_of_mapM hshown⟩

theorem reply_report_of_mem (hc : c ∈ checks) (h : ¬ ∃ text, Console.message c.line = .ok text)
    (s : Session W) : ∃ e, reply (sayAll (report checks)) s = .error (.markup e) := by
  rw [reply_sayAll]
  cases hshown : (report checks).mapM Console.message with
  | error e => exact ⟨e, rfl⟩
  | ok texts =>
    have hline : c.line ∈ report checks := by
      rw [report_eq]
      exact List.mem_append_left _ (List.mem_map_of_mem hc)
    exact absurd (exists_mapM_eq_ok_iff.1 ⟨texts, hshown⟩ c.line hline) h

/-- A report is shown in full, one message for each check, unless a path closes a bracket before it
opens one and ends inside a closing tag. A message shows its texts as they are unless a path ends
inside any tag. -/
theorem report_shown_iff (h : all files encoding paths = .ok checks) (s : Session W) :
    ((∀ c ∈ checks, ¬ c.Breaks) → ∃ texts last,
      List.Forall₂ (fun c text ↦ Console.message c.line = .ok text) checks texts ∧
      Console.message (closing checks) = .ok last ∧
      sayAll (report checks) s = .ok ()
        { s with output := s.output ++ String.join (texts ++ [last]) }) ∧
    ((∃ c ∈ checks, c.Breaks) → ∃ e, reply (sayAll (report checks)) s = .error (.markup e)) ∧
    ∀ c ∈ checks, Clean c.path.text.toList → Clean (c.errorMessage.getD "").toList →
      ((∃ text, Console.message c.line = .ok text ∧ Shows text c.said) ↔
        ¬ ∃ slashes first, c.Straddles slashes first) := by
  obtain ⟨-, hreports⟩ := all_eq_ok_iff.1 h
  refine ⟨?_, ?_, ?_⟩
  · intro hbreaks
    exact sayAll_report (fun c hc ↦ (hreports c hc).exists_message_iff.2 (hbreaks c hc)) s
  · rintro ⟨c, hc, hbreaks⟩
    exact reply_report_of_mem hc (fun h ↦ (hreports c hc).exists_message_iff.1 h hbreaks) s
  · intro c hc hpath hmessage
    exact (hreports c hc).exists_shows_iff hpath hmessage

/-- Brackets that do not cross from a path into its message. -/
theorem report_shown_iff_of_brackets :
    let files : Files := fun _ ↦ .error .missing
    let reported (path : String) : Check := {
      path := Path.ofString path
      errorCode := some "revision_not_found"
      errorMessage := some s!"Revision file not found: {path}" }
    let checks := ["a[/b].sql", "[c"].map reported
    all files "utf-8" (["a[/b].sql", "[c"].map Path.ofString) = .ok checks ∧
      (∀ c ∈ checks, ¬ c.Breaks) ∧
      (∃ texts last, List.Forall₂ (fun c text ↦ Console.message c.line = .ok text) checks texts ∧
        sayAll (report checks) { world := () } =
          .ok () { world := (), output := String.join (texts ++ [last]) }) ∧
      ∀ c ∈ checks, ∃ text, Console.message c.line = .ok text ∧ Shows text c.said := by
  intro files reported checks
  have hall : all files "utf-8" (["a[/b].sql", "[c"].map Path.ofString) = .ok checks := by
    decide +kernel
  have hopens : ∀ c ∈ checks, ¬ ClosesFirst c.path.text.toList := by decide +kernel
  have hstraddles : ∀ c ∈ checks, ¬ ∃ slashes first, c.Straddles slashes first := by
    rintro c hc ⟨slashes, first, -, -, hclose, -⟩
    exact hopens c hc hclose
  have hbreaks : ∀ c ∈ checks, ¬ c.Breaks := by
    rintro c hc ⟨slashes, -, h⟩
    exact hstraddles c hc ⟨slashes, '/', h⟩
  have hpaths : ∀ c ∈ checks, Clean c.path.text.toList := by decide +kernel
  have hmessages : ∀ c ∈ checks, Clean (c.errorMessage.getD "").toList := by decide +kernel
  obtain ⟨hshown, -, hsaid⟩ := report_shown_iff hall { world := () }
  obtain ⟨texts, last, htexts, -, hrun⟩ := hshown hbreaks
  refine ⟨hall, hbreaks, ⟨texts, last, htexts, ?_⟩, ?_⟩
  · rw [hrun, String.empty_append]
  · intro c hc
    exact (hsaid c hc (hpaths c hc) (hmessages c hc)).2 (hstraddles c hc)

/-- Between the path and its repetition in the message stands what reads as a closing tag, or as one
that is not shown. -/
theorem report_not_shown_of_crossing :
    let files : Files := fun _ ↦ .error .missing
    let reported (path : String) : Check := {
      path := Path.ofString path
      errorCode := some "revision_not_found"
      errorMessage := some s!"Revision file not found: {path}" }
    all files "utf-8" [Path.ofString "][/a", Path.ofString "]x[a"] =
        .ok [reported "][/a", reported "]x[a"] ∧
      Clean "][/a".toList ∧ Clean "Revision file not found: ][/a".toList ∧
      reply (sayAll (report [reported "][/a"])) { world := () } =
        .error (.markup (.unmatched "/a: Revision file not found: " 16)) ∧
      (reported "]x[a").said = "  ✗ ]x[a: Revision file not found: ]x[a" ∧
      Console.message (reported "]x[a").line = .ok "  ✗ ]xx[a\n" := by
  decide +kernel

end RevisionScript.Check
