import RevisionScript.Proofs.Console.Joined
import RevisionScript.Proofs.Console.Layout
import RevisionScript.Proofs.Json.Spelling
import RevisionScript.Proofs.Report.Check
import RevisionScript.Proofs.Run.Progress

namespace RevisionScript

open Console Markup

namespace Files

variable {path : Path} {encoding : String} {fault : FileFault}

/-- The words that tell of a fault come to its path before they come to any bracket. -/
theorem Unreadable.exists_message (h : Unreadable path encoding fault) :
    ∃ before after : String, Unbracketed before.toList ∧
      fault.message = before ++ path.text ++ after := by
  cases h with
  | notFound => exact ⟨"Revision file not found: ", "", by decide, String.append_empty.symm⟩
  | notFile => exact ⟨"Revision path is not a file: ", "", by decide, String.append_empty.symm⟩
  | undecodable u =>
    refine ⟨"Could not decode ", s!" as {encoding}: {u.message}", by decide, ?_⟩
    change s!"Could not decode {path.text} as {encoding}: {u.message}" = _
    simp only [toString, String.append_assoc]

end Files

theorem FileFault.code_ne_reserved (fault : FileFault) : fault.code ≠ "reserved_command" := by
  cases fault <;> simp [code]

theorem RevisionFailure.unbracketed_reserved (command : ReservedCommand) :
    Unbracketed (reserved command.word).message.toList := by
  cases command <;> decide

namespace Check

variable {files : Files} {encoding : String} {c : Check} {slashes : Nat} {first : Char}

def said (c : Check) : String :=
  if c.isOk then s!"  ✓ {c.path.text} ({c.statementCount} statements)"
  else
    let reason := c.errorMessage.getD ""
    s!"  ✗ {c.path.text}: {reason}"

def reason (c : Check) : String := if c.isOk then "" else c.errorMessage.getD ""

structure Framed (c : Check) (words : List Char) (d : Char) (joint : List Char) : Prop where
  plain : Plain (d :: joint)
  opens : opensTag d = false
  words_free : ControlFree words
  joint_free : ControlFree (d :: joint)
  render : ∃ next, Markup.render c.line.toList = (words ++ ·) <$>
    renderFrom next [] (tokens (escape c.path.text.toList ++
      (d :: joint ++ escape c.reason.toList)))
  said : c.said.toList = words ++ (c.path.text.toList ++ (d :: joint ++ c.reason.toList))

theorem plain_int (n : Int) : Plain (toString n).toList := by
  intro c hc
  obtain rfl | hdigit := Json.isBareChar_of_mem_int hc
  · decide
  · exact plain_of_isDigit (s := [c]) (by simpa using hdigit) c List.mem_cons_self

theorem controlFree_int (n : Int) : ControlFree (toString n).toList := by
  intro c hc
  obtain rfl | hdigit := Json.isBareChar_of_mem_int hc
  · decide
  · simp only [Char.isDigit, Bool.and_eq_true, decide_eq_true_eq] at hdigit
    exact le_trans (by decide) hdigit.1

theorem plain_statements (n : Int) :
    Plain (' ' :: '(' :: ((toString n).toList ++ " statements)".toList)) := by
  change Plain (" (".toList ++ ((toString n).toList ++ " statements)".toList))
  rw [plain_append, plain_append]
  exact ⟨by decide, plain_int n, by decide⟩

theorem controlFree_statements (n : Int) :
    ControlFree (' ' :: '(' :: ((toString n).toList ++ " statements)".toList)) := by
  change ControlFree (" (".toList ++ ((toString n).toList ++ " statements)".toList))
  rw [controlFree_append, controlFree_append]
  exact ⟨by decide, controlFree_int n, by decide⟩

theorem framed_of_isOk (hok : c.isOk = true) :
    c.Framed "  ✓ ".toList ' ' ('(' ::
      ((toString c.statementCount).toList ++ " statements)".toList)) where
  plain := plain_statements _
  opens := by decide
  words_free := by decide
  joint_free := controlFree_statements _
  render := by
    obtain ⟨next, hnext⟩ := exists_render_tagged (a := "  ".toList) (b := "✓".toList)
      (d := " ".toList)
      (c := 'g') (t := "reen".toList) (by decide) (by decide) (by decide) (by decide) (by decide)
      (by decide) (escape c.path.text.toList ++
        (' ' :: '(' :: ((toString c.statementCount).toList ++
        " statements)".toList) ++ escape c.reason.toList))
    have hreason : escape c.reason.toList = [] := by
      rw [reason, hok]
      rfl
    have hline : c.line =
        s!"  [green]✓[/green] {escaped c.path.text} ({c.statementCount} statements)" := by
      rw [line, hok]
      rfl
    have hwords : "  ✓ ".toList = "  ".toList ++ "✓".toList ++ " ".toList := by decide
    refine ⟨next, ?_⟩
    rw [hline, hwords]
    rw [hreason] at hnext ⊢
    generalize c.path.text = path at *
    convert hnext using 2
    simp [toString, toList_escaped]
  said := by
    have hsaid : c.said = s!"  ✓ {c.path.text} ({c.statementCount} statements)" := by
      rw [Check.said, hok]
      rfl
    have hreason : c.reason = "" := by
      rw [reason, hok]
      rfl
    rw [hsaid, hreason]
    generalize c.path.text = path at *
    simp [toString]

theorem framed_of_not_isOk (hok : c.isOk = false) : c.Framed "  ✗ ".toList ':' [' '] where
  plain := by decide
  opens := by decide
  words_free := by decide
  joint_free := by decide
  render := by
    obtain ⟨next, hnext⟩ := exists_render_tagged (a := "  ".toList) (b := "✗".toList)
      (d := " ".toList)
      (c := 'r') (t := "ed".toList) (by decide) (by decide) (by decide) (by decide) (by decide)
      (by decide) (escape c.path.text.toList ++ (':' :: [' '] ++ escape c.reason.toList))
    have hline : c.line = s!"  [red]✗[/red] {escaped c.path.text}: {escaped c.reason}" := by
      rw [line, reason, hok]
      rfl
    have hwords : "  ✗ ".toList = "  ".toList ++ "✗".toList ++ " ".toList := by decide
    refine ⟨next, ?_⟩
    rw [hline, hwords]
    generalize c.path.text = path at *
    generalize c.reason = reason at *
    convert hnext using 2
    simp [toString, toList_escaped]
  said := by
    have hsaid : c.said = s!"  ✗ {c.path.text}: {c.reason}" := by
      rw [Check.said, reason, hok]
      rfl
    rw [hsaid]
    generalize c.path.text = path at *
    generalize c.reason = reason at *
    simp [toString]

theorem exists_framed (c : Check) : ∃ words d joint, c.Framed words d joint := by
  cases hok : c.isOk with
  | true => exact ⟨_, _, _, framed_of_isOk hok⟩
  | false => exact ⟨_, _, _, framed_of_not_isOk hok⟩

/-- A tag begins in the path and ends in the reason. -/
def Meets (c : Check) (slashes : Nat) (first : Char) : Prop :=
  ClosesFirst c.reason.toList ∧ LeavesOpen slashes first c.path.text.toList

theorem isOk_message_line_iff (c : Check) :
    (Console.message c.line).isOk = true ↔ ¬ ∃ slashes, slashes % 2 = 0 ∧ c.Meets slashes '/' := by
  obtain ⟨words, d, joint, h⟩ := exists_framed c
  obtain ⟨next, hnext⟩ := h.render
  rw [isOk_message, hnext, isOk_map, isOk_renderFrom_joined_iff h.plain h.opens]
  refine not_congr ⟨?_, ?_⟩
  · rintro ⟨hclose, slashes, heven, hopen⟩
    exact ⟨slashes, heven, hclose, hopen⟩
  · rintro ⟨slashes, heven, hclose, hopen⟩
    exact ⟨hclose, slashes, heven, hopen⟩

def Clean (s : List Char) : Prop := '\\' ∉ s ∧ ControlFree s

instance (s : List Char) : Decidable (Clean s) := inferInstanceAs (Decidable (_ ∧ _))

theorem shows_iff {text : String} (hpath : Clean c.path.text.toList)
    (hreason : Clean c.reason.toList)
    (htext : Console.message c.line = .ok text) :
    Shows text c.said ↔ ¬ ∃ slashes first, c.Meets slashes first := by
  obtain ⟨words, d, joint, h⟩ := exists_framed c
  obtain ⟨next, hnext⟩ := h.render
  have hfree : ControlFree c.said.toList := by
    rw [h.said, controlFree_append, controlFree_append, controlFree_append]
    exact ⟨h.words_free, hpath.2, h.joint_free, hreason.2⟩
  unfold Console.message at htext
  rw [hnext] at htext
  constructor
  · rintro hshows ⟨slashes, first, hclose, hopen⟩
    cases hrender : renderFrom next [] (tokens (escape c.path.text.toList ++
        (d :: joint ++ escape c.reason.toList))) with
    | error e =>
      rw [hrender] at htext
      cases htext
    | ok out =>
      rw [hrender] at htext
      obtain rfl := Except.ok.inj htext
      obtain ⟨before, tag, after, hsaid, rfl⟩ :=
        shown_of_meeting h.plain hpath.1 hreason.1 hopen hclose hrender
      have hcut : c.said.toList = words ++ before ++ '[' :: (tag ++ ']' :: after) := by
        rw [h.said, hsaid, List.append_assoc]
      change Shows (String.ofList (layMessage (words ++ (before ++ after)))) c.said at hshows
      rw [← List.append_assoc] at hshows
      exact not_shows_of_cut hcut hfree hshows
  · intro hmeets
    have hapart : ∀ slashes first, LeavesOpen slashes first c.path.text.toList →
        ¬ ClosesFirst c.reason.toList := by
      intro slashes first hopen hclose
      exact hmeets ⟨slashes, first, hclose, hopen⟩
    rw [renderFrom_joined_of_apart h.plain h.opens hpath.1 hreason.1 hapart] at htext
    obtain rfl := Except.ok.inj htext
    have hshows := shows_layMessage hfree
    rw [String.ofList_toList, h.said] at hshows
    exact hshows

/-- A path that closes a bracket before it opens one and ends inside a tag, told twice. -/
def Straddles (c : Check) (slashes : Nat) (first : Char) : Prop :=
  c.isOk = false ∧ c.errorCode ≠ some "reserved_command" ∧ ClosesFirst c.path.text.toList ∧
    LeavesOpen slashes first c.path.text.toList

/-- The words that tell why a file is no revision have no brackets but those of its path and those
that follow it. -/
theorem Reports.meets_iff (h : c.Reports files encoding) :
    c.Meets slashes first ↔ c.Straddles slashes first := by
  cases h with
  | accepted hload =>
    refine iff_of_false ?_ ?_
    · exact fun h ↦ not_closesFirst (s := []) nofun h.1
    · rintro ⟨hok, -⟩
      cases hok
  | @rejected path e code hload hcode =>
    obtain ⟨fault, rfl, hfault⟩ | ⟨command, rfl⟩ := Files.load_eq_error hload
    · obtain ⟨before, after, hbefore, hmessage⟩ := hfault.exists_message
      have hcode' : some code ≠ some "reserved_command" := by
        rw [← hcode]
        exact fun h ↦ fault.code_ne_reserved (Option.some.inj h)
      have hreason (hopen : LeavesOpen slashes first path.text.toList) :
          ClosesFirst fault.message.toList ↔ ClosesFirst path.text.toList := by
        rw [hmessage, String.toList_append, String.toList_append, List.append_assoc,
          closesFirst_append hbefore, closesFirst_append_of_mem hopen.mem rfl]
      constructor
      · rintro ⟨hclose, hopen⟩
        exact ⟨rfl, hcode', (hreason hopen).1 hclose, hopen⟩
      · rintro ⟨-, -, hclose, hopen⟩
        exact ⟨(hreason hopen).2 hclose, hopen⟩
    · refine iff_of_false ?_ ?_
      · exact fun h ↦ not_closesFirst (RevisionFailure.unbracketed_reserved command) h.1
      · exact fun h ↦ h.2.1 hcode.symm

/-- The tag that begins in the path closes one that is not open. -/
def Breaks (c : Check) : Prop := ∃ slashes, slashes % 2 = 0 ∧ c.Straddles slashes '/'

theorem Reports.exists_message_iff (h : c.Reports files encoding) :
    (∃ text, Console.message c.line = .ok text) ↔ ¬ c.Breaks := by
  have hline : (Console.message c.line).isOk = true ↔ ¬ c.Breaks := by
    simp only [isOk_message_line_iff, h.meets_iff, Breaks]
  rw [← hline]
  constructor
  · rintro ⟨text, htext⟩
    rw [htext]
    rfl
  · exact exists_of_isOk

theorem clean_reason (h : Clean (c.errorMessage.getD "").toList) : Clean c.reason.toList := by
  unfold reason
  split
  · exact ⟨nofun, nofun⟩
  · exact h

theorem Reports.exists_shows_iff (h : c.Reports files encoding) (hpath : Clean c.path.text.toList)
    (hmessage : Clean (c.errorMessage.getD "").toList) :
    (∃ text, Console.message c.line = .ok text ∧ Shows text c.said) ↔
      ¬ ∃ slashes first, c.Straddles slashes first := by
  have hshows {text : String} (htext : Console.message c.line = .ok text) :
      Shows text c.said ↔ ¬ ∃ slashes first, c.Straddles slashes first := by
    have hmeets := shows_iff hpath (clean_reason hmessage) htext
    simpa only [h.meets_iff] using hmeets
  constructor
  · rintro ⟨text, htext, hsaid⟩
    exact (hshows htext).1 hsaid
  · intro hstraddles
    have hbreaks : ¬ c.Breaks := by
      rintro ⟨slashes, -, hclose⟩
      exact hstraddles ⟨slashes, '/', hclose⟩
    obtain ⟨text, htext⟩ := h.exists_message_iff.2 hbreaks
    exact ⟨text, htext, (hshows htext).2 hstraddles⟩

end Check

end RevisionScript
