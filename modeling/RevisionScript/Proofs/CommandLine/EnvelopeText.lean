import RevisionScript.Proofs.CommandLine.Envelope

namespace RevisionScript.Envelope

open Json

/-- The ways to make an envelope, of values without number literals that are no integers. -/
inductive Built : Envelope → Prop
  | split {path : String} {statements : List String} {started ended : Instant} {e : Envelope}
      (h : ofSplit path statements started ended = .ok e) : Built e
  | check {records : List Json} {started ended : Instant} {e : Envelope}
      (hrecords : ∀ r ∈ records, Plain r)
      (h : ofChecks records started ended = .ok e) : Built e
  | run {result : Json} {started ended : Instant} {e : Envelope} (hresult : Plain result)
      (h : ofRun result started ended = .ok e) : Built e
  | failure {command : Command} {failure : Failure} {started ended : Instant} {e : Envelope}
      (h : ofFailure command failure started ended = .ok e) : Built e

variable {e e' : Envelope}

theorem Built.plain (h : e.Built) : Plain e.toJson := by
  cases h with
  | split h => exact plain_ofSplit h
  | check hrecords h => exact plain_ofChecks hrecords h
  | run hresult h => exact plain_ofRun hresult h
  | failure h => exact plain_ofFailure h

theorem Built.denotes_iff (h : e.Built) {v : Json} : Denotes e.text v ↔ v = e.toJson := by
  have htext : Denotes e.text e.toJson := denotes_pretty h.plain
  constructor
  · intro hv
    exact hv.unique htext
  · rintro rfl
    exact htext

/-- The text of an envelope is ASCII and valid JSON for the fields of the envelope and for nothing
else, so that it is never the text of an envelope with other fields. -/
theorem text_denotes_iff (h : e.Built) :
    Ascii e.text.toList ∧ (∀ v, Denotes e.text v ↔ v = e.toJson) ∧
      Json.read e.text = some e.toJson ∧
      ∀ e' : Envelope, e'.Built → (e'.text = e.text ↔ e'.toJson = e.toJson) := by
  refine ⟨ascii_pretty h.plain, fun v ↦ h.denotes_iff, read_of_denotes (h.denotes_iff.2 rfl), ?_⟩
  intro e' h'
  constructor
  · intro htext
    have hdenotes := h'.denotes_iff.2 rfl
    rw [htext] at hdenotes
    exact h.denotes_iff.1 hdenotes
  · intro hjson
    rw [text, text, hjson]

/-- A control character, one that two units stand for, an integer of more than 64 bits, and lists
and objects that are empty. -/
theorem text_denotes_iff_of_nested :
    let result : Json := .object [("status", .string "failed"),
      ("error_message", .string "\x7f\"\\ 😀\n"),
      ("total", .int (-36893488147419103232)),
      ("rows", .list [.list [], .object [], .null, .bool true])]
    let e : Envelope := {
      command := .run
      data := some result
      milliseconds := 0
      errors := [{ code := .string "statement_failed", message := .string "\x7f\"\\ 😀\n" }] }
    ofRun result 0 0 = .ok e ∧ Ascii e.text.toList ∧ Json.read e.text = some e.toJson := by
  intro result e
  have hclock : millisecondsBetween 0 0 = .ok 0 := by decide +kernel
  have hrun : ofRun result 0 0 = .ok e := by
    unfold ofRun
    rw [hclock]
    rfl
  have hbuilt : e.Built := .run (by simp [result]) hrun
  obtain ⟨hascii, -, hread, -⟩ := text_denotes_iff hbuilt
  exact ⟨hrun, hascii, hread⟩

end RevisionScript.Envelope
