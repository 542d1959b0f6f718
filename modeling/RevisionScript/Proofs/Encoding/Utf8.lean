import RevisionScript.Encoding.Decode
import RevisionScript.Proofs.Except
import RevisionScript.Proofs.Text.CodePoint

namespace RevisionScript

namespace Utf8

def encode (text : List Char) : List UInt8 := text.flatMap String.utf8EncodeChar

theorem encode_cons (c : Char) (text : List Char) :
    encode (c :: text) = String.utf8EncodeChar c ++ encode text := List.flatMap_cons

theorem toList_toUTF8 (text : String) : text.toUTF8.data.toList = encode text.toList := by
  conv_lhs => rw [← String.ofList_toList (s := text)]
  exact List.toList_data_toByteArray

variable {b : UInt8} {position value low high later : Nat} {taken : List UInt8}

theorem lead_single (h : b.toNat < 0x80) : lead b = .single (Char.ofNat b.toNat) := if_pos h

theorem lead_two (hlow : 0xc2 ≤ b.toNat) (hhigh : b.toNat < 0xe0) :
    lead b = .opens ⟨[b], b.toNat - 0xc0, 0x80, 0xbf, 0⟩ := by
  unfold lead
  dsimp only
  rw [if_neg (by omega), if_neg (by omega), if_pos hhigh]

theorem lead_three (hlow : 0xe0 ≤ b.toNat) (hhigh : b.toNat < 0xf0) :
    lead b = .opens ⟨[b], b.toNat - 0xe0, if b.toNat = 0xe0 then 0xa0 else 0x80,
      if b.toNat = 0xed then 0x9f else 0xbf, 1⟩ := by
  unfold lead
  dsimp only
  rw [if_neg (by omega), if_neg (by omega), if_neg (by omega)]
  by_cases h0 : b.toNat = 0xe0
  · simp [h0]
  by_cases hd : b.toNat = 0xed
  · simp [hd]
  simp [h0, hd, hhigh]

theorem lead_four (hlow : 0xf0 ≤ b.toNat) (hhigh : b.toNat ≤ 0xf4) :
    lead b = .opens ⟨[b], b.toNat - 0xf0, if b.toNat = 0xf0 then 0x90 else 0x80,
      if b.toNat = 0xf4 then 0x8f else 0xbf, 2⟩ := by
  unfold lead
  dsimp only
  rw [if_neg (by omega), if_neg (by omega), if_neg (by omega), if_neg (by omega), if_neg (by omega),
    if_neg (by omega)]
  by_cases h0 : b.toNat = 0xf0
  · simp [h0]
  by_cases h4 : b.toNat = 0xf4
  · simp [h4]
  have hlt : b.toNat < 0xf4 := by omega
  simp [h0, h4, hlt]

theorem decodeFrom_single (h : b.toNat < 0x80) (bs : List UInt8) :
    decodeFrom position none (b :: bs) =
      (Char.ofNat b.toNat :: ·) <$> decodeFrom (position + 1) none bs := by
  rw [decodeFrom, lead_single h]

theorem decodeFrom_opens {p : Pending} (h : lead b = .opens p) (bs : List UInt8) :
    decodeFrom position none (b :: bs) = decodeFrom position (some p) bs := by
  rw [decodeFrom, h]

theorem decodeFrom_later (hlow : low ≤ b.toNat) (hhigh : b.toNat ≤ high) (bs : List UInt8) :
    decodeFrom position (some ⟨taken, value, low, high, later + 1⟩) (b :: bs) =
      decodeFrom position (some ⟨taken ++ [b], 64 * value + (b.toNat - 0x80), 0x80, 0xbf,
        later⟩) bs := by
  rw [decodeFrom, if_pos ⟨hlow, hhigh⟩]

theorem decodeFrom_last (hlow : low ≤ b.toNat) (hhigh : b.toNat ≤ high) (bs : List UInt8) :
    decodeFrom position (some ⟨taken, value, low, high, 0⟩) (b :: bs) =
      (Char.ofNat (64 * value + (b.toNat - 0x80)) :: ·) <$>
        decodeFrom (position + taken.length + 1) none bs := by
  rw [decodeFrom, if_pos ⟨hlow, hhigh⟩]

theorem toNat_ofNat {n : Nat} (h : n < 256) : (UInt8.ofNat n).toNat = n := by
  rw [UInt8.toNat_ofNat']
  exact Nat.mod_eq_of_lt h

theorem toNat_later (n : Nat) : (UInt8.ofNat (n % 64 + 128)).toNat = n % 64 + 128 :=
  toNat_ofNat (by omega)

variable {n : Nat}

theorem decodeFrom_two (hlow : 0x80 ≤ n) (hhigh : n < 0x800) (bs : List UInt8) :
    decodeFrom position none (.ofNat (n / 64 % 32 + 192) :: .ofNat (n % 64 + 128) :: bs) =
      (Char.ofNat n :: ·) <$> decodeFrom (position + 2) none bs := by
  have ha : (UInt8.ofNat (n / 64 % 32 + 192)).toNat = n / 64 + 192 := by
    rw [toNat_ofNat] <;> omega
  have hb := toNat_later n
  have hn : 64 * (n / 64 + 192 - 0xc0) + (n % 64 + 128 - 0x80) = n := by omega
  rw [decodeFrom_opens (lead_two (by omega) (by omega)),
    decodeFrom_last (by omega) (by omega), ha, hb, hn]
  rfl

/-- The second byte is in its range because the number is neither too small nor a surrogate. -/
theorem decodeFrom_three (hlow : 0x800 ≤ n) (hhigh : n < 0x10000) (hn : n < 0xd800 ∨ 0xdfff < n)
    (bs : List UInt8) :
    decodeFrom position none
        (.ofNat (n / 4096 % 16 + 224) :: .ofNat (n / 64 % 64 + 128) ::
          .ofNat (n % 64 + 128) :: bs) =
      (Char.ofNat n :: ·) <$> decodeFrom (position + 3) none bs := by
  have ha : (UInt8.ofNat (n / 4096 % 16 + 224)).toNat = n / 4096 + 224 := by
    rw [toNat_ofNat] <;> omega
  have hb := toNat_later (n / 64)
  have hc := toNat_later n
  have hvalue : 64 * (64 * (n / 4096 + 224 - 0xe0) + (n / 64 % 64 + 128 - 0x80)) +
      (n % 64 + 128 - 0x80) = n := by omega
  rw [decodeFrom_opens (lead_three (by omega) (by omega)), decodeFrom_later (by split <;> omega)
    (by split <;> omega), decodeFrom_last (by omega) (by omega), ha, hb, hc, hvalue]
  rfl

theorem decodeFrom_four (hlow : 0x10000 ≤ n) (hhigh : n < 0x110000) (bs : List UInt8) :
    decodeFrom position none
        (.ofNat (n / 262144 % 8 + 240) :: .ofNat (n / 4096 % 64 + 128) ::
          .ofNat (n / 64 % 64 + 128) :: .ofNat (n % 64 + 128) :: bs) =
      (Char.ofNat n :: ·) <$> decodeFrom (position + 4) none bs := by
  have ha : (UInt8.ofNat (n / 262144 % 8 + 240)).toNat = n / 262144 + 240 := by
    rw [toNat_ofNat] <;> omega
  have hb := toNat_later (n / 4096)
  have hc := toNat_later (n / 64)
  have hd := toNat_later n
  have hvalue : 64 * (64 * (64 * (n / 262144 + 240 - 0xf0) + (n / 4096 % 64 + 128 - 0x80)) +
      (n / 64 % 64 + 128 - 0x80)) + (n % 64 + 128 - 0x80) = n := by omega
  rw [decodeFrom_opens (lead_four (by omega) (by omega)), decodeFrom_later (by split <;> omega)
    (by split <;> omega), decodeFrom_later (by omega) (by omega),
    decodeFrom_last (by omega) (by omega), ha, hb, hc, hd, hvalue]
  rfl

/-- The bytes of a character are read as that character, whatever follows. -/
theorem decodeFrom_encodeChar (c : Char) (bs : List UInt8) :
    decodeFrom position none (String.utf8EncodeChar c ++ bs) =
      (c :: ·) <$> decodeFrom (position + (String.utf8EncodeChar c).length) none bs := by
  have hc := toNat_cases c
  have hval : c.val.toNat = c.toNat := rfl
  conv_rhs => enter [1]; rw [← Char.ofNat_toNat c]
  unfold String.utf8EncodeChar
  dsimp only
  rw [hval]
  split
  · next h =>
    have hb : (UInt8.ofNat c.toNat).toNat = c.toNat := toNat_ofNat (by omega)
    rw [List.singleton_append, decodeFrom_single (by omega), hb]
    rfl
  split
  · exact decodeFrom_two (by omega) (by omega) bs
  split
  · exact decodeFrom_three (by omega) (by omega) (by omega) bs
  · exact decodeFrom_four (by omega) (by omega) bs

theorem decodeFrom_encode (position : Nat) (text : List Char) :
    decodeFrom position none (encode text) = .ok text := by
  induction text generalizing position with
  | nil => rfl
  | cons c text ih =>
    rw [encode_cons, decodeFrom_encodeChar, ih]
    rfl

theorem decode_encode (text : List Char) : decode (encode text) = .ok text :=
  decodeFrom_encode 0 text

theorem ofNat_eq {n : Nat} (h : n = b.toNat) : UInt8.ofNat n = b := by
  rw [h, UInt8.ofNat_toNat]

theorem encodeChar_one {n : Nat} (h : n < 0x80) :
    String.utf8EncodeChar (Char.ofNat n) = [.ofNat n] := by
  have hval : (Char.ofNat n).val.toNat = n := toNat_charOfNat (by omega)
  unfold String.utf8EncodeChar
  dsimp only
  rw [hval, if_pos (by omega)]

theorem encodeChar_two {n : Nat} (hlow : 0x80 ≤ n) (hhigh : n < 0x800) :
    String.utf8EncodeChar (Char.ofNat n) = [.ofNat (n / 64 % 32 + 192), .ofNat (n % 64 + 128)] := by
  have hval : (Char.ofNat n).val.toNat = n := toNat_charOfNat (by omega)
  unfold String.utf8EncodeChar
  dsimp only
  rw [hval, if_neg (by omega), if_pos (by omega)]

theorem encodeChar_three {n : Nat} (hlow : 0x800 ≤ n) (hhigh : n < 0x10000)
    (hn : n < 0xd800 ∨ 0xdfff < n) :
    String.utf8EncodeChar (Char.ofNat n) =
      [.ofNat (n / 4096 % 16 + 224), .ofNat (n / 64 % 64 + 128), .ofNat (n % 64 + 128)] := by
  have hval : (Char.ofNat n).val.toNat = n := toNat_charOfNat (by omega)
  unfold String.utf8EncodeChar
  dsimp only
  rw [hval, if_neg (by omega), if_neg (by omega), if_pos (by omega)]

theorem encodeChar_four {n : Nat} (hlow : 0x10000 ≤ n) (hhigh : n < 0x110000) :
    String.utf8EncodeChar (Char.ofNat n) =
      [.ofNat (n / 262144 % 8 + 240), .ofNat (n / 4096 % 64 + 128), .ofNat (n / 64 % 64 + 128),
        .ofNat (n % 64 + 128)] := by
  have hval : (Char.ofNat n).val.toNat = n := toNat_charOfNat (by omega)
  unfold String.utf8EncodeChar
  dsimp only
  rw [hval, if_neg (by omega), if_neg (by omega), if_neg (by omega)]

def Completes : List UInt8 → Nat → Nat → Nat → Nat → Prop
  | taken, value, low, high, 0 => ∀ b : UInt8, low ≤ b.toNat → b.toNat ≤ high →
      String.utf8EncodeChar (Char.ofNat (64 * value + (b.toNat - 0x80))) = taken ++ [b]
  | taken, value, low, high, later + 1 => ∀ b : UInt8, low ≤ b.toNat → b.toNat ≤ high →
      Completes (taken ++ [b]) (64 * value + (b.toNat - 0x80)) 0x80 0xbf later

def Pending.Completes (p : Pending) : Prop := Utf8.Completes p.taken p.value p.low p.high p.later

theorem completes_two (hlow : 0xc2 ≤ b.toNat) (hhigh : b.toNat < 0xe0) :
    Completes [b] (b.toNat - 0xc0) 0x80 0xbf 0 := by
  intro c hc hc'
  rw [encodeChar_two (by omega) (by omega), ofNat_eq (b := b) (by omega),
    ofNat_eq (b := c) (by omega)]
  rfl

theorem completes_three (hlow : 0xe0 ≤ b.toNat) (hhigh : b.toNat < 0xf0) :
    Completes [b] (b.toNat - 0xe0) (if b.toNat = 0xe0 then 0xa0 else 0x80)
      (if b.toNat = 0xed then 0x9f else 0xbf) 1 := by
  intro c hc hc' d hd hd'
  have hc : 0x80 ≤ c.toNat ∧ c.toNat ≤ 0xbf ∧ (b.toNat = 0xe0 → 0xa0 ≤ c.toNat) ∧
      (b.toNat = 0xed → c.toNat ≤ 0x9f) := by
    split at hc <;> split at hc' <;> omega
  rw [encodeChar_three (by omega) (by omega) (by omega), ofNat_eq (b := b) (by omega),
    ofNat_eq (b := c) (by omega), ofNat_eq (b := d) (by omega)]
  rfl

theorem completes_four (hlow : 0xf0 ≤ b.toNat) (hhigh : b.toNat ≤ 0xf4) :
    Completes [b] (b.toNat - 0xf0) (if b.toNat = 0xf0 then 0x90 else 0x80)
      (if b.toNat = 0xf4 then 0x8f else 0xbf) 2 := by
  intro c hc hc' d hd hd' e he he'
  have hc : 0x80 ≤ c.toNat ∧ c.toNat ≤ 0xbf ∧ (b.toNat = 0xf0 → 0x90 ≤ c.toNat) ∧
      (b.toNat = 0xf4 → c.toNat ≤ 0x8f) := by
    split at hc <;> split at hc' <;> omega
  rw [encodeChar_four (by omega) (by omega), ofNat_eq (b := b) (by omega),
    ofNat_eq (b := c) (by omega), ofNat_eq (b := d) (by omega), ofNat_eq (b := e) (by omega)]
  rfl

def Lead.Keeps (b : UInt8) : Lead → Prop
  | single c => String.utf8EncodeChar c = [b]
  | opens p => p.taken = [b] ∧ p.Completes
  | invalid => True

theorem lead_keeps (b : UInt8) : (lead b).Keeps b := by
  by_cases h1 : b.toNat < 0x80
  · rw [lead_single h1, Lead.Keeps, encodeChar_one h1, UInt8.ofNat_toNat]
  by_cases h2 : b.toNat < 0xc2
  · unfold lead
    dsimp only
    rw [if_neg h1, if_pos h2]
    trivial
  by_cases h3 : b.toNat < 0xe0
  · rw [lead_two (by omega) h3]
    exact ⟨rfl, completes_two (by omega) h3⟩
  by_cases h4 : b.toNat < 0xf0
  · rw [lead_three (by omega) h4]
    exact ⟨rfl, completes_three (by omega) h4⟩
  by_cases h5 : b.toNat ≤ 0xf4
  · rw [lead_four (by omega) h5]
    exact ⟨rfl, completes_four (by omega) h5⟩
  · unfold lead
    dsimp only
    iterate 9 rw [if_neg (by omega)]
    trivial

/-- What is read as a text is the encoding of that text, the bytes already taken included. -/
theorem eq_encode_of_decodeFrom {pending : Option Pending} {bytes : List UInt8} {text : List Char}
    (h : decodeFrom position pending bytes = .ok text)
    (hpending : pending.elim True Pending.Completes) :
    pending.elim [] (·.taken) ++ bytes = encode text := by
  induction bytes generalizing position pending text with
  | nil =>
    cases pending with
    | none =>
      cases h
      rfl
    | some p => cases h
  | cons b bs ih =>
    cases pending with
    | none =>
      have hb := lead_keeps b
      cases hlead : lead b with
      | single c =>
        rw [hlead] at hb
        rw [decodeFrom, hlead] at h
        obtain ⟨text, htext, rfl⟩ := except_map_eq_ok h
        rw [encode_cons, hb, ← ih htext trivial]
        rfl
      | opens p =>
        rw [hlead] at hb
        rw [decodeFrom_opens hlead] at h
        rw [← ih h hb.2, Option.elim_some, hb.1]
        rfl
      | invalid =>
        rw [decodeFrom, hlead] at h
        cases h
    | some p =>
      obtain ⟨taken, value, low, high, later⟩ := p
      by_cases hb : low ≤ b.toNat ∧ b.toNat ≤ high
      · cases later with
        | zero =>
          rw [decodeFrom_last hb.1 hb.2] at h
          obtain ⟨text, htext, rfl⟩ := except_map_eq_ok h
          rw [encode_cons, hpending b hb.1 hb.2, ← ih htext trivial, List.append_assoc]
          rfl
        | succ later =>
          rw [decodeFrom_later hb.1 hb.2] at h
          rw [← ih h (hpending b hb.1 hb.2)]
          exact (List.append_assoc taken [b] bs).symm
      · rw [decodeFrom, if_neg hb] at h
        cases h

theorem decode_eq_ok_iff {bytes : List UInt8} {text : List Char} :
    decode bytes = .ok text ↔ bytes = encode text := by
  constructor
  · intro h
    exact eq_encode_of_decodeFrom h trivial
  · rintro rfl
    exact decode_encode text

end Utf8

end RevisionScript
