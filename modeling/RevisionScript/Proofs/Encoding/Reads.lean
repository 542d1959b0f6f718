import RevisionScript.Proofs.Encoding.Stored

namespace RevisionScript

namespace Utf8

variable {bytes : List UInt8} {text : List Char}

theorem prefix_signature (h : bytes <+: signature) :
    bytes = [] ∨ bytes = [0xef] ∨ bytes = [0xef, 0xbb] ∨ bytes = signature := by
  simp only [signature, List.prefix_cons_iff, List.prefix_nil] at h
  obtain rfl | ⟨_, rfl, rfl | ⟨_, rfl, rfl | ⟨_, rfl, rfl⟩⟩⟩ := h
  · exact .inl rfl
  · exact .inr (.inl rfl)
  · exact .inr (.inr (.inl rfl))
  · exact .inr (.inr (.inr rfl))

theorem decodeSigned_of_start (h : bytes <+: signature) : decodeSigned bytes = .ok [] := by
  obtain rfl | rfl | rfl | rfl := prefix_signature h <;> rfl

theorem decodeSigned_of_unsigned (hsigned : ¬ signature <+: bytes) (h : ¬ bytes <+: signature) :
    decodeSigned bytes = decode bytes := by
  unfold decodeSigned
  split
  · next rest => exact absurd ⟨rest, rfl⟩ hsigned
  · exact absurd ⟨[0xbf], rfl⟩ h
  · exact absurd ⟨[0xbb, 0xbf], rfl⟩ h
  · rfl

/-- No character is stored in the beginning of a signature. -/
theorem eq_nil_of_encode_start (h : encode text <+: signature)
    (hsigned : ¬ signature <+: encode text) :
    text = [] := by
  have hread := decode_encode text
  obtain h | h | h | h := prefix_signature h
  · rw [h] at hread
    exact (Except.ok.inj hread).symm
  · rw [h] at hread
    cases hread
  · rw [h] at hread
    cases hread
  · exact absurd (h ▸ List.prefix_rfl) hsigned

theorem decodeSigned_eq_ok_iff :
    decodeSigned bytes = .ok text ↔
      bytes = signature ++ encode text ∨ (¬ signature <+: bytes ∧ bytes = encode text) ∨
        bytes <+: signature ∧ text = [] := by
  by_cases hsigned : signature <+: bytes
  · obtain ⟨rest, rfl⟩ := hsigned
    rw [Encoding.decodeSigned_signature, decode_eq_ok_iff]
    constructor
    · rintro rfl
      exact .inl rfl
    · rintro (h | ⟨h, -⟩ | ⟨h, rfl⟩)
      · exact List.append_cancel_left h
      · exact absurd ⟨rest, rfl⟩ h
      · have hlength := h.length_le
        rw [List.length_append] at hlength
        exact List.eq_nil_of_length_eq_zero (by omega)
  by_cases h : bytes <+: signature
  · rw [decodeSigned_of_start h]
    constructor
    · intro htext
      exact .inr (.inr ⟨h, (Except.ok.inj htext).symm⟩)
    · rintro (rfl | ⟨-, rfl⟩ | ⟨-, rfl⟩)
      · exact absurd ⟨_, rfl⟩ hsigned
      · rw [eq_nil_of_encode_start h hsigned]
      · rfl
  · rw [decodeSigned_of_unsigned hsigned h, decode_eq_ok_iff]
    constructor
    · intro hbytes
      exact .inr (.inl ⟨hsigned, hbytes⟩)
    · rintro (rfl | ⟨-, hbytes⟩ | ⟨hstart, -⟩)
      · exact absurd ⟨_, rfl⟩ hsigned
      · exact hbytes
      · exact absurd hstart h

end Utf8

namespace Utf16

theorem ByteOrder.mark_append_inj {order order' : ByteOrder} {bytes bytes' : List UInt8}
    (h : order.mark ++ bytes = order'.mark ++ bytes') : order = order' ∧ bytes = bytes' := by
  cases order <;> cases order'
  · exact ⟨rfl, List.append_cancel_left h⟩
  · cases h
  · cases h
  · exact ⟨rfl, List.append_cancel_left h⟩

/-- Bytes in little-endian order that hold a text other than the empty one, but do not begin with a
byte order mark. -/
def Unmarked (bytes : List UInt8) : Prop :=
  bytes ≠ [] ∧ (∀ order : ByteOrder, ¬ order.mark <+: bytes) ∧ ∃ text, bytes = encode .little text

end Utf16

namespace Encoding

variable {e : Encoding} {bytes : List UInt8}

theorem decodeMarked_of_no_mark (h : ∀ order : Utf16.ByteOrder, ¬ order.mark <+: bytes) :
    decodeMarked bytes = match Utf16.decode .little bytes with
      | .error u => .error (.undecodable u)
      | .ok [] => .ok []
      | .ok _ => .error .noByteOrderMark := by
  unfold decodeMarked
  split
  · next rest => exact absurd ⟨rest, rfl⟩ (h .little)
  · next rest => exact absurd ⟨rest, rfl⟩ (h .big)
  · rfl

theorem decodeMarked_eq_ok_iff {text : List Char} :
    decodeMarked bytes = .ok text ↔
      (∃ order : Utf16.ByteOrder, bytes = order.mark ++ Utf16.encode order text) ∨
        bytes = [] ∧ text = [] := by
  by_cases h : ∃ order : Utf16.ByteOrder, order.mark <+: bytes
  · obtain ⟨order, rest, rfl⟩ := h
    rw [decodeMarked_mark, except_mapError_eq_ok_iff, Utf16.decodeFrom_eq_ok_iff]
    constructor
    · rintro rfl
      exact .inl ⟨order, rfl⟩
    · rintro (⟨order', h⟩ | ⟨h, -⟩)
      · obtain ⟨rfl, h⟩ := Utf16.ByteOrder.mark_append_inj h
        exact h
      · cases order <;> cases h
  · rw [not_exists] at h
    constructor
    · intro hread
      rw [decodeMarked_of_no_mark h] at hread
      split at hread
      · cases hread
      · next hempty =>
        cases hread
        exact .inr ⟨Utf16.eq_encode_of_decodeFrom hempty, rfl⟩
      · cases hread
    · rintro (⟨order, rfl⟩ | ⟨rfl, rfl⟩)
      · exact absurd ⟨_, rfl⟩ (h order)
      · rfl

theorem mapError_undecodable_ne {x : Except Undecodable (List Char)} :
    x.mapError DecodeError.undecodable ≠ .error .noByteOrderMark := by
  cases x <;> simp [Except.mapError]

theorem decodeMarked_eq_noByteOrderMark_iff :
    decodeMarked bytes = .error .noByteOrderMark ↔ Utf16.Unmarked bytes := by
  constructor
  · intro hread
    have hmark : ∀ order : Utf16.ByteOrder, ¬ order.mark <+: bytes := by
      rintro order ⟨rest, rfl⟩
      rw [decodeMarked_mark] at hread
      exact mapError_undecodable_ne hread
    rw [decodeMarked_of_no_mark hmark] at hread
    split at hread
    · cases hread
    · cases hread
    · next text hne htext =>
      have hbytes := Utf16.eq_encode_of_decodeFrom htext
      refine ⟨?_, hmark, text, hbytes⟩
      rintro rfl
      cases htext
      exact hne rfl
  · rintro ⟨hne, hmark, text, rfl⟩
    rw [decodeMarked_of_no_mark hmark, Utf16.decode, Utf16.decodeFrom_encode]
    cases text with
    | nil => exact absurd rfl hne
    | cons c text => rfl

/-- As what an encoding reads bytes. Besides the bytes that hold a text it takes UTF-8 without the
signature, the beginning of a signature alone, and no bytes at all where a byte order mark should
be. -/
inductive Reads (text : String) : Encoding → List UInt8 → Prop
  | held {e : Encoding} {bytes : List UInt8} (h : e.Holds text bytes) : Reads text e bytes
  | unsigned (h : ¬ Utf8.signature <+: text.toUTF8.data.toList) :
      Reads text .utf8Signed text.toUTF8.data.toList
  | unfinished {bytes : List UInt8} (h : bytes <+: Utf8.signature) (htext : text = "") :
      Reads text .utf8Signed bytes
  | nothing (htext : text = "") : Reads text .utf16 []

theorem decode_eq_ok_iff {text : String} :
    e.decode bytes = .ok text.toList ↔ e.Reads text bytes := by
  constructor
  · intro h
    cases e with
    | utf8 =>
      have h := Utf8.decode_eq_ok_iff.1 (except_mapError_eq_ok_iff.1 h)
      rw [← Utf8.toList_toUTF8] at h
      exact h ▸ .held .utf8
    | utf8Signed =>
      have h := Utf8.decodeSigned_eq_ok_iff.1 (except_mapError_eq_ok_iff.1 h)
      rw [← Utf8.toList_toUTF8] at h
      obtain rfl | ⟨hsigned, rfl⟩ | ⟨hstart, hnil⟩ := h
      · exact .held .utf8Signed
      · exact .unsigned hsigned
      · exact .unfinished hstart (String.toList_eq_nil_iff.1 hnil)
    | utf16 =>
      obtain ⟨order, rfl⟩ | ⟨rfl, hnil⟩ := decodeMarked_eq_ok_iff.1 h
      · exact .held (.utf16 order)
      · exact .nothing (String.toList_eq_nil_iff.1 hnil)
    | utf16Little =>
      have h := Utf16.eq_encode_of_decodeFrom (except_mapError_eq_ok_iff.1 h)
      exact h ▸ .held .utf16Little
    | utf16Big =>
      have h := Utf16.eq_encode_of_decodeFrom (except_mapError_eq_ok_iff.1 h)
      exact h ▸ .held .utf16Big
    | ascii =>
      have h := except_mapError_eq_ok_iff.1 h
      exact .held (.ascii (SingleByte.mapM_of_decodeFrom SingleByte.asciiChar?_eq_some_iff h))
    | latin1 =>
      have h := except_mapError_eq_ok_iff.1 h
      exact .held (.latin1 (SingleByte.mapM_of_decodeFrom SingleByte.latin1Char?_eq_some_iff h))
    | windows1252 =>
      have h := except_mapError_eq_ok_iff.1 h
      exact .held (.windows1252 (SingleByte.mapM_of_decodeFrom
        SingleByte.windows1252Char?_eq_some_iff h))
  · rintro (h | hsigned | ⟨hstart, rfl⟩ | rfl)
    · exact h.decode
    · rw [decode, except_mapError_eq_ok_iff, Utf8.decodeSigned_eq_ok_iff, ← Utf8.toList_toUTF8]
      exact .inr (.inl ⟨hsigned, rfl⟩)
    · rw [decode, except_mapError_eq_ok_iff, Utf8.decodeSigned_eq_ok_iff]
      exact .inr (.inr ⟨hstart, rfl⟩)
    · rfl

theorem decode_eq_noByteOrderMark_iff :
    e.decode bytes = .error .noByteOrderMark ↔ e = .utf16 ∧ Utf16.Unmarked bytes := by
  constructor
  · intro h
    cases e with
    | utf16 => exact ⟨rfl, decodeMarked_eq_noByteOrderMark_iff.1 h⟩
    | _ => exact absurd h mapError_undecodable_ne
  · rintro ⟨rfl, h⟩
    exact decodeMarked_eq_noByteOrderMark_iff.2 h

theorem Reads.not_unmarked {text : String} (h : e.Reads text bytes) :
    ¬ (e = .utf16 ∧ Utf16.Unmarked bytes) := by
  intro hmark
  have hread := decode_eq_ok_iff.2 h
  rw [decode_eq_noByteOrderMark_iff.2 hmark] at hread
  cases hread

end Encoding

end RevisionScript
