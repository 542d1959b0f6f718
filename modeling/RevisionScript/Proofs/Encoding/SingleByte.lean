import RevisionScript.Encoding.Decode
import RevisionScript.Proofs.Encoding.Utf8

namespace RevisionScript.SingleByte

def codeByte? (bound : Nat) (c : Char) : Option UInt8 :=
  if c.toNat < bound then some (.ofNat c.toNat) else none

def windows1252Byte? (c : Char) : Option UInt8 :=
  if c.toNat < 0x80 ∨ 0xa0 ≤ c.toNat ∧ c.toNat < 0x100 then some (.ofNat c.toNat)
  else (windows1252Block.idxOf? c.toNat).map fun i ↦ .ofNat (0x80 + i)

variable {c : Char} {b : UInt8}

theorem toNat_of_codeByte? {bound : Nat} (hbound : bound ≤ 256) (h : codeByte? bound c = some b) :
    b.toNat = c.toNat ∧ c.toNat < bound := by
  unfold codeByte? at h
  split at h
  · next hc =>
    cases h
    exact ⟨Utf8.toNat_ofNat (by omega), hc⟩
  · cases h

theorem asciiChar?_of_codeByte? (h : codeByte? 0x80 c = some b) : asciiChar? b = some c := by
  obtain ⟨hb, hc⟩ := toNat_of_codeByte? (by omega) h
  rw [asciiChar?, hb, if_pos hc, Char.ofNat_toNat]

theorem latin1Char?_of_codeByte? (h : codeByte? 0x100 c = some b) : latin1Char? b = some c := by
  obtain ⟨hb, -⟩ := toNat_of_codeByte? (by omega) h
  rw [latin1Char?, hb, Char.ofNat_toNat]

theorem windows1252Char?_of_byte? (h : windows1252Byte? c = some b) :
    windows1252Char? b = some c := by
  unfold windows1252Byte? at h
  split at h
  · next hc =>
    cases h
    have hb : (UInt8.ofNat c.toNat).toNat = c.toNat := Utf8.toNat_ofNat (by omega)
    rw [windows1252Char?, hb, if_pos (by omega), Char.ofNat_toNat]
  · next hc =>
    obtain ⟨i, hi, rfl⟩ := Option.map_eq_some_iff.1 h
    obtain ⟨hlt, hget, -⟩ := List.idxOf?_eq_some_iff.1 hi
    have hlength : windows1252Block.length = 32 := rfl
    have hb : (UInt8.ofNat (0x80 + i)).toNat = 0x80 + i := Utf8.toNat_ofNat (by omega)
    have hentry : windows1252Block[i]? = some c.toNat := by
      rw [List.getElem?_eq_getElem hlt, hget]
    rw [windows1252Char?, hb, if_neg (by omega), Nat.add_sub_cancel_left, hentry]
    split
    · next he => cases he
    · next he => exact absurd (Option.some.inj he) (by omega)
    · next he => rw [← Option.some.inj he, Char.ofNat_toNat]

theorem codeByte?_charOfNat {bound : Nat} (h : b.toNat < bound) :
    codeByte? bound (Char.ofNat b.toNat) = some b := by
  have hb := b.toNat_lt
  rw [codeByte?, toNat_charOfNat (by omega), if_pos h, UInt8.ofNat_toNat]

theorem asciiChar?_eq_some_iff : asciiChar? b = some c ↔ codeByte? 0x80 c = some b := by
  refine ⟨?_, asciiChar?_of_codeByte?⟩
  intro h
  unfold asciiChar? at h
  split at h
  · next hb =>
    cases h
    exact codeByte?_charOfNat hb
  · cases h

theorem latin1Char?_eq_some_iff : latin1Char? b = some c ↔ codeByte? 0x100 c = some b := by
  refine ⟨?_, latin1Char?_of_codeByte?⟩
  intro h
  cases h
  exact codeByte?_charOfNat b.toNat_lt

/-- No character stands twice in the block, and none of its characters is below 0x100. -/
theorem idxOf?_windows1252Block : ∀ i < 32, ∀ n ∈ windows1252Block[i]?, n ≠ 0 →
    windows1252Block.idxOf? n = some i ∧ 0x100 ≤ n ∧ n < 0xd800 := by
  decide +kernel

theorem windows1252Char?_eq_some_iff :
    windows1252Char? b = some c ↔ windows1252Byte? c = some b := by
  refine ⟨?_, windows1252Char?_of_byte?⟩
  intro h
  have hb := b.toNat_lt
  unfold windows1252Char? at h
  split at h
  · next hcode =>
    cases h
    rw [windows1252Byte?, toNat_charOfNat (by omega), if_pos (by omega), UInt8.ofNat_toNat]
  · next hcode =>
    split at h
    · cases h
    · cases h
    · next n hzero hn =>
      cases h
      obtain ⟨hindex, hlow, hhigh⟩ := idxOf?_windows1252Block _ (by omega) n hn hzero
      have hcancel : 0x80 + (b.toNat - 0x80) = b.toNat := by omega
      rw [windows1252Byte?, toNat_charOfNat (by omega), if_neg (by omega), hindex, Option.map_some,
        hcancel, UInt8.ofNat_toNat]

section

variable {byte? : Char → Option UInt8} {char? : UInt8 → Option Char} {codec : String}
  {reason : DecodeReason} {position : Nat} {text : List Char} {bytes : List UInt8}
  (h : ∀ {b c}, char? b = some c ↔ byte? c = some b)

include h

theorem decodeFrom_of_mapM (hbytes : text.mapM byte? = some bytes) :
    decodeFrom char? codec reason position bytes = .ok text := by
  induction text generalizing position bytes with
  | nil =>
    cases hbytes
    rfl
  | cons c text ih =>
    rw [List.mapM_cons] at hbytes
    obtain ⟨b, hb, hbytes⟩ := Option.bind_eq_some_iff.1 hbytes
    obtain ⟨bs, hbs, hbytes⟩ := Option.bind_eq_some_iff.1 hbytes
    cases hbytes
    rw [decodeFrom, h.2 hb, ih hbs]
    rfl

theorem mapM_of_decodeFrom (hread : decodeFrom char? codec reason position bytes = .ok text) :
    text.mapM byte? = some bytes := by
  induction bytes generalizing position text with
  | nil =>
    cases hread
    rfl
  | cons b bs ih =>
    rw [decodeFrom] at hread
    cases hb : char? b with
    | none =>
      rw [hb] at hread
      cases hread
    | some c =>
      rw [hb] at hread
      obtain ⟨text, htext, rfl⟩ := except_map_eq_ok hread
      rw [List.mapM_cons, h.1 hb, ih htext]
      rfl

end

end RevisionScript.SingleByte
