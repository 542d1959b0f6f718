import RevisionScript.Envelope
import RevisionScript.Proofs.Except
import RevisionScript.Proofs.Json.RoundTrip

namespace RevisionScript

open Json

theorem StatementResult.plain_toJson (r : StatementResult) : Plain r.toJson := by
  simp [toJson]

theorem RunResult.plain_toJson (r : RunResult) : Plain r.toJson := by
  simp [toJson, StatementResult.plain_toJson]

theorem Check.plain_toJson (c : Check) : Plain c.toJson := by
  simp [toJson]

namespace ErrorEntry

theorem plain_toJson {e : ErrorEntry} (hcode : Plain e.code) (hmessage : Plain e.message)
    (hpath : Plain e.path) : Plain e.toJson := by
  unfold toJson
  cases h : e.path with
  | null => simp [hcode, hmessage]
  | _ => simp [hcode, hmessage, h ▸ hpath]

theorem plain_ofFailure (failure : Failure) : Plain (ofFailure failure).toJson := by
  cases failure with
  | revision e => exact plain_toJson (plain_ofString? _) (plain_string _) plain_null
  | _ => exact plain_toJson (plain_string _) (plain_string _) plain_null

end ErrorEntry

def Check.failureEntry (c : Check) : Option ErrorEntry :=
  if c.isOk then none else some {
    code := Envelope.orText "error" (.ofString? c.errorCode)
    message := Envelope.orText "" (.ofString? c.errorMessage)
    path := .string c.path.text }

namespace Envelope

theorem plain_orText {v : Json} (hv : Plain v) (default : String) : Plain (orText default v) := by
  unfold orText
  split
  · exact hv
  · exact plain_string default

theorem entryOfCheck_toJson (c : Check) : entryOfCheck c.toJson = .ok c.failureEntry := by
  have hok : demand c.toJson "ok" = .ok (.bool c.isOk) := rfl
  have hcode : demand c.toJson "errorCode" = .ok (.ofString? c.errorCode) := rfl
  have hmessage : demand c.toJson "errorMessage" = .ok (.ofString? c.errorMessage) := rfl
  have hpath : demand c.toJson "path" = .ok (.string c.path.text) := rfl
  rw [entryOfCheck, hok, Check.failureEntry]
  cases hc : c.isOk with
  | true => rfl
  | false =>
    rw [hcode, hmessage, hpath]
    rfl

theorem mapM_entryOfCheck_toJson (checks : List Check) :
    (checks.map (·.toJson)).mapM entryOfCheck = .ok (checks.map (·.failureEntry)) := by
  induction checks with
  | nil => rfl
  | cons c checks ih =>
    rw [List.map_cons, List.mapM_cons, entryOfCheck_toJson, ih]
    rfl

theorem entriesOfRun_toJson (r : RunResult) :
    entriesOfRun r.toJson = .ok (if r.status = .succeeded then [] else
      [{ code := .string "statement_failed"
         message := orText "" (.ofString? r.errorMessage) }]) := by
  unfold entriesOfRun
  have hstatus : demand r.toJson "status" = .ok (.string r.status.name) := rfl
  have hmessage : demand r.toJson "error_message" = .ok (.ofString? r.errorMessage) := rfl
  rw [hstatus]
  cases hs : r.status with
  | succeeded => rfl
  | failed =>
    rw [hmessage]
    rfl
  | partly =>
    rw [hmessage]
    rfl

/-- An envelope of a command with an exit status. It has data, which are not null, unless the
command has stopped before it had any. -/
structure Tells (e : Envelope) (command : Command) (code : Nat) (stopped : Prop) : Prop where
  command : e.command = command
  exitCode : e.exitCode = code
  data : e.data = none ↔ stopped
  ne_null : e.data ≠ some .null
  plain : Plain e.toJson

theorem plain_toJson {e : Envelope} (hdata : ∀ v, e.data = some v → Plain v)
    (herrors : ∀ x ∈ e.errors, Plain x.toJson) : Plain e.toJson := by
  have hpayload : Plain (e.data.getD .null) := by
    cases hd : e.data with
    | none => exact plain_null
    | some v => exact hdata v hd
  simpa [toJson, hpayload] using herrors

variable {e : Envelope} {started ended : Instant}

theorem plain_demand {record v : Json} {name : String} (hrecord : Plain record)
    (h : demand record name = .ok v) : Plain v := by
  unfold demand at h
  split at h
  · next w hfield =>
    cases h
    cases record with
    | object fs =>
      obtain ⟨l₁, l₂, rfl, -⟩ := List.lookup_eq_some_iff.1 hfield
      exact plain_object.1 hrecord (name, v) (by simp)
    | _ => cases hfield
  · cases h

theorem plain_entryOfCheck {record : Json} {x : ErrorEntry} (hrecord : Plain record)
    (h : entryOfCheck record = .ok (some x)) : Plain x.toJson := by
  obtain ⟨ok, -, h⟩ := except_bind_eq_ok h
  split at h
  · cases h
  · obtain ⟨code, hcode, h⟩ := except_bind_eq_ok h
    obtain ⟨message, hmessage, h⟩ := except_bind_eq_ok h
    obtain ⟨path, hpath, h⟩ := except_bind_eq_ok h
    cases h
    exact ErrorEntry.plain_toJson (plain_orText (plain_demand hrecord hcode) _)
      (plain_orText (plain_demand hrecord hmessage) _) (plain_demand hrecord hpath)

theorem plain_entriesOfRun {result : Json} {entries : List ErrorEntry} (hresult : Plain result)
    (h : entriesOfRun result = .ok entries) : ∀ x ∈ entries, Plain x.toJson := by
  obtain ⟨status, -, h⟩ := except_bind_eq_ok h
  split at h
  · cases h
    exact nofun
  · obtain ⟨message, hmessage, h⟩ := except_bind_eq_ok h
    cases h
    intro x hx
    rw [List.mem_singleton.1 hx]
    exact ErrorEntry.plain_toJson (plain_string _) (plain_orText (plain_demand hresult hmessage) _)
      plain_null

theorem plain_ofSplit {path : String} {statements : List String}
    (h : ofSplit path statements started ended = .ok e) : Plain e.toJson := by
  obtain ⟨ms, -, h⟩ := except_bind_eq_ok h
  cases h
  refine plain_toJson ?_ nofun
  rintro v hv
  cases hv
  simp

theorem plain_ofChecks {records : List Json} (hrecords : ∀ r ∈ records, Plain r)
    (h : ofChecks records started ended = .ok e) : Plain e.toJson := by
  obtain ⟨entries, hentries, h⟩ := except_bind_eq_ok h
  obtain ⟨ms, -, h⟩ := except_bind_eq_ok h
  cases h
  refine plain_toJson ?_ ?_
  · rintro v hv
    cases hv
    simpa using hrecords
  · intro x hx
    obtain ⟨entry, hentry, rfl⟩ := List.mem_filterMap.1 hx
    obtain ⟨r, hr, hrentry⟩ := exists_of_mem_mapM hentries hentry
    exact plain_entryOfCheck (hrecords r hr) hrentry

theorem plain_ofRun {result : Json} (hresult : Plain result)
    (h : ofRun result started ended = .ok e) :
    Plain e.toJson := by
  obtain ⟨errors, herrors, h⟩ := except_bind_eq_ok h
  obtain ⟨ms, -, h⟩ := except_bind_eq_ok h
  cases h
  refine plain_toJson ?_ (plain_entriesOfRun hresult herrors)
  rintro v hv
  cases hv
  exact hresult

theorem plain_ofFailure {command : Command} {failure : Failure}
    (h : ofFailure command failure started ended = .ok e) : Plain e.toJson := by
  obtain ⟨ms, -, h⟩ := except_bind_eq_ok h
  cases h
  refine plain_toJson nofun ?_
  intro x hx
  rw [List.mem_singleton.1 hx]
  exact ErrorEntry.plain_ofFailure failure

theorem tells_ofSplit {path : String} {statements : List String}
    (h : ofSplit path statements started ended = .ok e) : e.Tells .split 0 False := by
  have hplain := plain_ofSplit h
  obtain ⟨ms, -, h⟩ := except_bind_eq_ok h
  cases h
  exact ⟨rfl, rfl, by simp, by simp, hplain⟩

theorem tells_ofChecks {checks : List Check}
    (h : ofChecks (checks.map (·.toJson)) started ended = .ok e) :
    e.Tells .check e.exitCode False := by
  have hplain := plain_ofChecks (by simp [Check.plain_toJson]) h
  obtain ⟨entries, -, h⟩ := except_bind_eq_ok h
  obtain ⟨ms, -, h⟩ := except_bind_eq_ok h
  cases h
  exact ⟨rfl, rfl, by simp, by simp, hplain⟩

theorem tells_ofRun {r : RunResult} (h : ofRun r.toJson started ended = .ok e) :
    e.Tells .run (if r.status = .succeeded then 0 else 1) False := by
  have hplain := plain_ofRun r.plain_toJson h
  obtain ⟨errors, herrors, h⟩ := except_bind_eq_ok h
  obtain ⟨ms, -, h⟩ := except_bind_eq_ok h
  rw [entriesOfRun_toJson] at herrors
  cases herrors
  cases h
  refine ⟨rfl, ?_, by simp, by simp [RunResult.toJson], hplain⟩
  unfold exitCode
  split <;> rfl

theorem tells_ofFailure {command : Command} {failure : Failure}
    (h : ofFailure command failure started ended = .ok e) : e.Tells command 1 True := by
  have hplain := plain_ofFailure h
  obtain ⟨ms, -, h⟩ := except_bind_eq_ok h
  cases h
  exact ⟨rfl, rfl, by simp, by simp, hplain⟩

/-- What the text of an envelope says to a reader. -/
theorem Tells.read {command : Command} {code : Nat} {stopped : Prop}
    (h : e.Tells command code stopped) :
    Json.read (e.text ++ "\n") = some e.toJson ∧
      e.toJson.field? "command" = some (.string command.name) ∧
      (e.toJson.field? "meta").bind (Json.field? "exitCode") = some (.int code) ∧
      (e.toJson.field? "status" = some (.string "error") ↔ code ≠ 0) ∧
      (∃ errors, e.toJson.field? "errors" = some (.list errors) ∧ (errors ≠ [] ↔ code ≠ 0)) ∧
      (e.toJson.field? "data" = some .null ↔ stopped) := by
  have hcommand : e.toJson.field? "command" = some (.string e.command.name) := rfl
  have hexit : (e.toJson.field? "meta").bind (Json.field? "exitCode") = some (.int e.exitCode) :=
    rfl
  have hstatus : e.toJson.field? "status" = some (.string e.status) := rfl
  have herrors : e.toJson.field? "errors" = some (.list (e.errors.map (·.toJson))) := rfl
  have hdata : e.toJson.field? "data" = some (e.data.getD .null) := rfl
  have hcode : code ≠ 0 ↔ e.errors ≠ [] := by
    rw [← h.exitCode, Envelope.exitCode]
    cases e.errors <;> simp
  refine ⟨Json.read_pretty h.plain (List.all_eq_true.1 rfl), ?_, ?_, ?_, ⟨_, herrors, ?_⟩, ?_⟩
  · rw [hcommand, h.command]
  · rw [hexit, h.exitCode]
  · rw [hstatus, hcode, status]
    cases e.errors <;> simp
  · rw [hcode, ne_eq, List.map_eq_nil_iff]
  · rw [hdata, ← h.data]
    cases hd : e.data with
    | none => simp
    | some v =>
      have hv := h.ne_null
      rw [hd] at hv
      simpa using hv

end Envelope

end RevisionScript
