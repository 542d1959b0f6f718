import RevisionScript.Proofs.Encoding.Utf8

namespace RevisionScript.Utf8

def WellFormed (bytes : List UInt8) : Prop := ∃ text, bytes = encode text

def Begins (part : List UInt8) : Prop :=
  part ≠ [] ∧ ∃ c, part <+: String.utf8EncodeChar c ∧ part ≠ String.utf8EncodeChar c

/-- The bytes that a reader gives up on, and why. They are the longest part that begins a sequence,
or a single byte when no part does. -/
inductive Stop (rest : List UInt8) : List UInt8 → DecodeReason → Prop
  | start {b : UInt8} (hfirst : [b] <+: rest) (hnone : ∀ part, part <+: rest → ¬ Begins part) :
      Stop rest [b] .invalidStart
  | continuation {part : List UInt8} (hpart : part <+: rest) (hne : part ≠ rest)
      (hbegins : Begins part)
      (hlongest : ∀ other, other <+: rest → Begins other → other.length ≤ part.length) :
      Stop rest part .invalidContinuation
  | ending (hbegins : Begins rest) : Stop rest rest .endOfData

variable {position value low high later : Nat} {taken bytes rest : List UInt8} {u : Undecodable}

theorem decodeFrom_encode_append (position : Nat) (text : List Char) (rest : List UInt8) :
    decodeFrom position none (encode text ++ rest) =
      (text ++ ·) <$> decodeFrom (position + (encode text).length) none rest := by
  induction text generalizing position with
  | nil =>
    change decodeFrom position none rest = (id <$> decodeFrom position none rest)
    rw [id_map]
  | cons c text ih =>
    rw [encode_cons, List.append_assoc, decodeFrom_encodeChar, ih, List.length_append,
      Nat.add_assoc]
    cases decodeFrom (position + ((String.utf8EncodeChar c).length + (encode text).length))
      none rest <;> rfl

/-- Some bytes would complete a sequence whose next byte may lie in a range that is not empty. -/
theorem exists_of_completes (h : Completes taken value low high later) (hle : low ≤ high)
    (hlow : low < 256) :
    ∃ c, taken <+: String.utf8EncodeChar c ∧ taken ≠ String.utf8EncodeChar c := by
  induction later generalizing taken value low high with
  | zero =>
    have hnext : (UInt8.ofNat low).toNat = low := toNat_ofNat hlow
    have hbytes := h (.ofNat low) (by omega) (by omega)
    refine ⟨_, ⟨_, hbytes.symm⟩, ?_⟩
    rw [hbytes]
    simp
  | succ later ih =>
    have hnext : (UInt8.ofNat low).toNat = low := toNat_ofNat hlow
    obtain ⟨c, hc, -⟩ := ih (h (.ofNat low) (by omega) (by omega)) (by omega) (by omega)
    refine ⟨c, (List.prefix_append _ _).trans hc, ?_⟩
    intro htaken
    have hlength := hc.length_le
    rw [← htaken, List.length_append, List.length_singleton] at hlength
    omega

/-- What a sequence of which some bytes have been read promises: from between two characters the
decoder gets to it, and some bytes would complete it. -/
structure Pending.Sound (p : Pending) : Prop where
  reached : ∀ position rest,
    decodeFrom position none (p.taken ++ rest) = decodeFrom position (some p) rest
  ne_nil : p.taken ≠ []
  completes : p.Completes
  low_le : p.low ≤ p.high
  low_lt : p.low < 256

theorem lead_range {b : UInt8} {p : Pending} (h : lead b = .opens p) :
    p.low ≤ p.high ∧ p.low < 256 := by
  have hb : b.toNat < 256 := b.toNat_lt
  unfold lead at h
  dsimp only at h
  repeat' split at h
  all_goals
    cases h
  all_goals
    constructor <;> dsimp only <;> omega

theorem sound_of_lead {b : UInt8} {p : Pending} (h : lead b = .opens p) : p.Sound := by
  have hkeeps := lead_keeps b
  rw [h] at hkeeps
  obtain ⟨htaken, hcompletes⟩ := hkeeps
  obtain ⟨hle, hlt⟩ := lead_range h
  refine ⟨?_, by simp [htaken], hcompletes, hle, hlt⟩
  intro position rest
  rw [htaken]
  exact decodeFrom_opens h rest

theorem Pending.Sound.next {b : UInt8} (h : (Pending.mk taken value low high (later + 1)).Sound)
    (hlow : low ≤ b.toNat) (hhigh : b.toNat ≤ high) :
    (Pending.mk (taken ++ [b]) (64 * value + (b.toNat - 0x80)) 0x80 0xbf later).Sound := by
  refine ⟨?_, by simp, h.completes b hlow hhigh, by simp, by simp⟩
  intro position rest
  have hreached := h.reached position (b :: rest)
  rw [decodeFrom_later hlow hhigh] at hreached
  simpa using hreached

theorem Pending.Sound.begins {p : Pending} (h : p.Sound) : Begins p.taken :=
  ⟨h.ne_nil, exists_of_completes h.completes h.low_le h.low_lt⟩

/-- The decoder fails on no beginning of a character's sequence. -/
theorem not_prefix_of_error {front : List UInt8}
    (h : ∀ more, ∃ u, decodeFrom 0 none (front ++ more) = .error u) (c : Char) :
    ¬ front <+: String.utf8EncodeChar c := by
  rintro ⟨more, hmore⟩
  obtain ⟨u, hu⟩ := h more
  have hread := decodeFrom_encode 0 [c]
  rw [encode, List.flatMap_singleton, ← hmore, hu] at hread
  cases hread

theorem not_begins_of_invalid {b : UInt8} (h : lead b = .invalid) {part : List UInt8}
    (hpart : part <+: b :: rest) : ¬ Begins part := by
  rintro ⟨hne, c, hc, -⟩
  have hfirst : [b] <+: part := by
    cases part with
    | nil => exact absurd rfl hne
    | cons b' part =>
      obtain ⟨rfl, -⟩ := List.cons_prefix_cons.1 hpart
      exact ⟨part, rfl⟩
  refine not_prefix_of_error (fun more ↦ ?_) c (hfirst.trans hc)
  rw [List.singleton_append, decodeFrom, h]
  exact ⟨_, rfl⟩

/-- With a byte out of range the sequence is that of no character. -/
theorem Pending.Sound.length_le {p : Pending} {b : UInt8} (h : p.Sound)
    (hb : ¬ (p.low ≤ b.toNat ∧ b.toNat ≤ p.high)) {other : List UInt8}
    (hother : other <+: p.taken ++ b :: rest) (hbegins : Begins other) :
    other.length ≤ p.taken.length := by
  by_contra hlt
  have hfront : p.taken ++ [b] <+: p.taken ++ b :: rest := by simp
  have hlong : p.taken ++ [b] <+: other := by
    refine List.prefix_of_prefix_length_le hfront hother ?_
    rw [List.length_append, List.length_singleton]
    omega
  obtain ⟨-, c, hc, -⟩ := hbegins
  refine not_prefix_of_error (fun more ↦ ?_) c (hlong.trans hc)
  rw [List.append_assoc, h.reached, List.singleton_append, decodeFrom, if_neg hb]
  exact ⟨_, rfl⟩

inductive GivesUp (position : Nat) (bytes : List UInt8) (u : Undecodable) : Prop
  | intro (text : List Char) (rest : List UInt8) (hbytes : bytes = encode text ++ rest)
      (hcodec : u.codec = "utf-8") (hposition : u.position = position + (encode text).length)
      (hstop : Stop rest u.bytes u.reason) : GivesUp position bytes u

theorem GivesUp.cons {c : Char} {front : List UInt8} (hfront : String.utf8EncodeChar c = front)
    (h : GivesUp (position + front.length) bytes u) : GivesUp position (front ++ bytes) u := by
  obtain ⟨text, rest, hbytes, hcodec, hposition, hstop⟩ := h
  refine .intro (c :: text) rest ?_ hcodec ?_ hstop
  · rw [encode_cons, hfront, hbytes, List.append_assoc]
  · rw [encode_cons, hfront, hposition, List.length_append, Nat.add_assoc]

theorem givesUp_of_invalid {b : UInt8} (hlead : lead b = .invalid) :
    GivesUp position (b :: rest) (fault position [b] .invalidStart) :=
  .intro [] (b :: rest) rfl rfl rfl
    (.start ⟨rest, rfl⟩ fun _ hpart ↦ not_begins_of_invalid hlead hpart)

theorem Pending.Sound.givesUp_of_ending {p : Pending} (h : p.Sound) :
    GivesUp position p.taken (fault position p.taken .endOfData) :=
  .intro [] p.taken rfl rfl rfl (.ending h.begins)

theorem Pending.Sound.givesUp_of_out_of_range {p : Pending} {b : UInt8} (h : p.Sound)
    (hb : ¬ (p.low ≤ b.toNat ∧ b.toNat ≤ p.high)) :
    GivesUp position (p.taken ++ b :: rest) (fault position p.taken .invalidContinuation) := by
  have hne : p.taken ≠ p.taken ++ b :: rest := by simp
  refine .intro [] (p.taken ++ b :: rest) rfl rfl rfl
    (.continuation ⟨_, rfl⟩ hne h.begins fun other hother hbegins ↦ ?_)
  exact h.length_le hb hother hbegins

theorem givesUp_of_decodeFrom_pending {pending : Option Pending}
    (h : decodeFrom position pending bytes = .error u) (hpending : ∀ p ∈ pending, p.Sound) :
    GivesUp position (pending.elim [] (·.taken) ++ bytes) u := by
  have hnone : ∀ p ∈ (none : Option Pending), p.Sound := by
    rintro p ⟨⟩
  induction bytes generalizing position pending with
  | nil =>
    cases pending with
    | none => cases h
    | some p =>
      cases h
      rw [List.append_nil]
      exact (hpending p rfl).givesUp_of_ending
  | cons b bs ih =>
    cases pending with
    | none =>
      cases hlead : lead b with
      | single c =>
        have hkeeps := lead_keeps b
        rw [hlead] at hkeeps
        have hchar : String.utf8EncodeChar c = [b] := hkeeps
        rw [decodeFrom, hlead] at h
        have hnext : GivesUp (position + [b].length) bs u := ih (except_map_eq_error h) hnone
        have hbytes : GivesUp position ([b] ++ bs) u := hnext.cons hchar
        exact hbytes
      | opens p =>
        rw [decodeFrom_opens hlead] at h
        have hsound := sound_of_lead hlead
        have hnext : GivesUp position (p.taken ++ bs) u := ih h (by rintro q ⟨⟩; exact hsound)
        have hkeeps := lead_keeps b
        rw [hlead] at hkeeps
        rwa [hkeeps.1] at hnext
      | invalid =>
        rw [decodeFrom, hlead] at h
        cases h
        exact givesUp_of_invalid hlead
    | some p =>
      have hsound := hpending p rfl
      obtain ⟨taken, value, low, high, later⟩ := p
      by_cases hb : low ≤ b.toNat ∧ b.toNat ≤ high
      · cases later with
        | zero =>
          rw [decodeFrom_last hb.1 hb.2] at h
          have hnext : GivesUp (position + (taken ++ [b]).length) bs u := by
            rw [List.length_append, List.length_singleton, ← Nat.add_assoc]
            exact ih (except_map_eq_error h) hnone
          have hbytes := hnext.cons (hsound.completes b hb.1 hb.2)
          rwa [List.append_assoc] at hbytes
        | succ later =>
          rw [decodeFrom_later hb.1 hb.2] at h
          have hnext := hsound.next hb.1 hb.2
          have hbytes := ih h (by rintro q ⟨⟩; exact hnext)
          rwa [Option.elim_some, List.append_assoc] at hbytes
      · rw [decodeFrom, if_neg hb] at h
        cases h
        exact hsound.givesUp_of_out_of_range hb

theorem givesUp_of_decodeFrom (h : decodeFrom position none bytes = .error u) :
    GivesUp position bytes u :=
  givesUp_of_decodeFrom_pending h (by rintro p ⟨⟩)

/-- A fault stands after the longest beginning that is well formed. -/
structure FirstFault (bytes : List UInt8) (u : Undecodable) : Prop where
  codec : u.codec = "utf-8"
  wellFormed : WellFormed (bytes.take u.position)
  longest : ∀ front, front <+: bytes → WellFormed front → front.length ≤ u.position
  stop : Stop (bytes.drop u.position) u.bytes u.reason

theorem firstFault_of_decode (h : decode bytes = .error u) : FirstFault bytes u := by
  obtain ⟨text, rest, hbytes, hcodec, hposition, hstop⟩ := givesUp_of_decodeFrom h
  rw [Nat.zero_add] at hposition
  refine ⟨hcodec, ⟨text, ?_⟩, ?_, ?_⟩
  · rw [hbytes, hposition, List.take_left]
  · rintro front ⟨more, hmore⟩ ⟨text', rfl⟩
    rw [← hmore, decode, decodeFrom_encode_append] at h
    obtain ⟨text'', -, -, -, hlater, -⟩ := givesUp_of_decodeFrom (except_map_eq_error h)
    omega
  · rwa [hbytes, hposition, List.drop_left]

end RevisionScript.Utf8
