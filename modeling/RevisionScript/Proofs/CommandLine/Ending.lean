import RevisionScript.CommandLine.Program
import RevisionScript.Proofs.Run.Session

namespace RevisionScript.CommandLine

open Act

variable {W : Type} {db : Database W} {files : Files} {token : String} {words : List String}
  {s s' : Session W} {code : Nat}

/-- What a command shows when it ends: an envelope made at that time, or some messages. -/
inductive Shown (db : Database W) (make : Instant → Except Failure Envelope)
    (messages : Except Failure (List String)) (w : W) : Bool → String → Prop
  | envelope {e : Envelope} (h : make (db.now w) = .ok e) :
      Shown db make messages w true (e.text ++ "\n")
  | messages {lines texts : List String} (h : messages = .ok lines)
      (htexts : lines.mapM Console.message = .ok texts) :
      Shown db make messages w false (String.join texts)

theorem report_eq_ok {make : Instant → Except Failure Envelope} {e : Envelope}
    (h : report db make s = .ok e s') :
    make (db.now s.world) = .ok e ∧ s' = { s with output := s.output ++ (e.text ++ "\n") } := by
  unfold report at h
  rw [bind_observe] at h
  obtain ⟨e', s₁, hmake, hrest⟩ := exists_of_bind_eq_ok h
  obtain ⟨hmake, rfl⟩ := ofExcept_eq_ok hmake
  obtain ⟨⟨⟩, s₂, hwrite, hpure⟩ := exists_of_bind_eq_ok hrest
  cases hwrite
  cases hpure
  exact ⟨hmake, rfl⟩

theorem reply_report {make : Instant → Except Failure Envelope} :
    reply (report db make) s = make (db.now s.world) := by
  unfold report
  rw [reply_bind_observe]
  cases make (db.now s.world) <;> rfl

theorem say_eq_ok {markup : String} {u : Unit} (h : say markup s = .ok u s') :
    ∃ text, Console.message markup = .ok text ∧ s' = { s with output := s.output ++ text } := by
  unfold say at h
  cases hmessage : Console.message markup with
  | ok text =>
    rw [hmessage] at h
    cases h
    exact ⟨text, rfl, rfl⟩
  | error e =>
    rw [hmessage] at h
    cases h

theorem sayAll_eq_ok {lines : List String} {u : Unit} (h : sayAll lines s = .ok u s') :
    ∃ texts, lines.mapM Console.message = .ok texts ∧
      s' = { s with output := s.output ++ String.join texts } := by
  induction lines generalizing s with
  | nil =>
    cases h
    exact ⟨[], rfl, by simp⟩
  | cons line rest ih =>
    obtain ⟨⟨⟩, s₁, hline, hrest⟩ := exists_of_bind_eq_ok h
    obtain ⟨text, htext, rfl⟩ := say_eq_ok hline
    obtain ⟨texts, htexts, rfl⟩ := ih hrest
    refine ⟨text :: texts, ?_, by simp [String.append_assoc]⟩
    rw [List.mapM_cons, htext, htexts]
    rfl

/-- Messages are shown until one of them is no sound markup. -/
theorem reply_sayAll (lines : List String) (s : Session W) :
    reply (sayAll lines) s = ((lines.mapM Console.message).mapError Failure.markup).map
      fun _ ↦ () := by
  induction lines generalizing s with
  | nil => rfl
  | cons line rest ih =>
    rw [List.mapM_cons]
    cases hmessage : Console.message line with
    | error e =>
      have hsay : reply (say line : Act W Unit) s = .error (.markup e) := by
        rw [say, hmessage]
        exact reply_ofExcept _ _
      exact (bind_of_error _ hsay).1
    | ok text =>
      have hsay : reply (say line : Act W Unit) s = .ok () := by
        rw [say, hmessage]
        rfl
      rw [sayAll, (bind_of_ok _ hsay).1, ih]
      cases rest.mapM Console.message <;> rfl

theorem sayAll_of_mapM {lines texts : List String} (h : lines.mapM Console.message = .ok texts) :
    sayAll lines s = .ok () { s with output := s.output ++ String.join texts } := by
  have hreply : reply (sayAll lines) s = .ok () := by
    rw [reply_sayAll, h]
    rfl
  have hrun := eq_ok_iff.2 ⟨hreply, rfl⟩
  obtain ⟨texts', htexts, hfinal⟩ := sayAll_eq_ok hrun
  rw [h] at htexts
  cases htexts
  rw [hrun, hfinal]

theorem reportFailure_eq_ok {command : Command} {failure : Failure} {started : Instant}
    {json : Bool}
    (h : reportFailure db command failure started json s = .ok code s') :
    code = 1 ∧ ∃ text, s' = { s with output := s.output ++ text } ∧
      Shown db (Envelope.ofFailure command failure started) (.ok [failureLine failure]) s.world json
        text := by
  unfold reportFailure at h
  cases json with
  | true =>
    obtain ⟨e, s₁, hreport, hpure⟩ := exists_of_bind_eq_ok h
    obtain ⟨hmake, rfl⟩ := report_eq_ok hreport
    cases hpure
    exact ⟨rfl, _, rfl, .envelope hmake⟩
  | false =>
    obtain ⟨⟨⟩, s₁, hsay, hpure⟩ := exists_of_bind_eq_ok h
    obtain ⟨text, htext, rfl⟩ := say_eq_ok hsay
    cases hpure
    have htexts : [failureLine failure].mapM Console.message = .ok [text] := by
      rw [List.mapM_cons, htext]
      rfl
    refine ⟨rfl, String.join [text], by simp, .messages rfl htexts⟩

section

variable {α : Type} {command : Command} {started : Instant} {json : Bool} {act : Act W α}
  {next : α → Act W Nat}

theorem reporting_apply : reporting db command started json act next s =
    match reply act s with
      | .ok a => next a (final act s)
      | .error (.revision e) => reportFailure db command (.revision e) started json (final act s)
      | .error e => .error e (final act s) := by
  have hact : attempt act s = .ok (reply act s) (final act s) :=
    eq_ok_iff.2 ⟨reply_attempt act s, final_attempt act s⟩
  rw [reporting, bind_apply, hact]
  cases reply act s with
  | ok a => rfl
  | error e => cases e <;> rfl

theorem reply_reporting_of_ok {a : α} (h : reply act s = .ok a) :
    reply (reporting db command started json act next) s = reply (next a) (final act s) := by
  rw [reply, reporting_apply, h, ← reply]

/-- A command that ends goes on with a result or reports a failure in the terms of revisions. -/
theorem reporting_eq_ok (h : reporting db command started json act next s = .ok code s') :
    (∃ a s₁, act s = .ok a s₁ ∧ next a s₁ = .ok code s') ∨
      ∃ e s₁, act s = .error (.revision e) s₁ ∧
        reportFailure db command (.revision e) started json s₁ = .ok code s' := by
  rw [reporting_apply] at h
  cases hreply : reply act s with
  | ok a =>
    rw [hreply] at h
    exact .inl ⟨a, _, eq_ok_iff.2 ⟨hreply, rfl⟩, h⟩
  | error e =>
    rw [hreply] at h
    cases e with
    | revision e => exact .inr ⟨e, _, eq_error_iff.2 ⟨hreply, rfl⟩, h⟩
    | _ => cases h

end

theorem program_of_request {request : Request} {w : W}
    (hread : readProgram files words = .ok request)
    (hended : (program db files token words w).failure = none) :
    ∃ code s', perform db files token request { world := w } = .ok code s' ∧
      program db files token words w =
        { exitCode := code, output := s'.output, calls := s'.calls } := by
  unfold program at hended ⊢
  rw [hread] at hended ⊢
  cases hperform : perform db files token request { world := w } with
  | ok code s' => exact ⟨code, s', rfl, by simp [hperform]⟩
  | error e s' => simp [hperform] at hended

def closingEnvelope (started : Instant) :
    Except Failure RunResult → Instant → Except Failure Envelope
  | .ok result => Envelope.ofRun result.toJson started
  | .error e => Envelope.ofFailure .run e started

def closingLines (dryRun : Bool) : Except Failure RunResult → Except Failure (List String)
  | .ok result => result.summary dryRun
  | .error e => .ok [failureLine e]

theorem run_eq_ok {path database : Path} {settings : Settings} {json : Bool}
    (h : run db files token path database settings json s = .ok code s') :
    let act := Run.runFile db settings files token path database
    ∃ text, s' = { final act s with output := (final act s).output ++ text } ∧
      Shown db (closingEnvelope (db.now s.world) (reply act s))
        (closingLines settings.dryRun (reply act s)) (final act s).world json text ∧
      ((∃ result, reply act s = .ok result ∧ code = (if result.status = .succeeded then 0 else 1)) ∨
        ∃ e, reply act s = .error (.revision e) ∧ code = 1) := by
  intro act
  unfold run at h
  rw [bind_observe] at h
  obtain ⟨result, s₁, hact, hnext⟩ | ⟨e, s₁, hact, hfail⟩ := reporting_eq_ok h
  · obtain ⟨hreply, rfl⟩ := eq_ok_iff.1 hact
    rw [hreply]
    cases json with
    | true =>
      obtain ⟨envelope, s₂, hreport, hpure⟩ := exists_of_bind_eq_ok hnext
      obtain ⟨hmake, rfl⟩ := report_eq_ok hreport
      cases hpure
      exact ⟨_, rfl, .envelope hmake, .inl ⟨result, rfl, rfl⟩⟩
    | false =>
      obtain ⟨lines, s₂, hsummary, hrest⟩ := exists_of_bind_eq_ok hnext
      obtain ⟨hlines, rfl⟩ := ofExcept_eq_ok hsummary
      obtain ⟨⟨⟩, s₃, hsay, hpure⟩ := exists_of_bind_eq_ok hrest
      obtain ⟨texts, htexts, rfl⟩ := sayAll_eq_ok hsay
      cases hpure
      exact ⟨_, rfl, .messages hlines htexts, .inl ⟨result, rfl, rfl⟩⟩
  · obtain ⟨hreply, rfl⟩ := eq_error_iff.1 hact
    rw [hreply]
    obtain ⟨rfl, text, rfl, hshown⟩ := reportFailure_eq_ok hfail
    exact ⟨text, rfl, hshown, .inr ⟨e, rfl, rfl⟩⟩

end RevisionScript.CommandLine
