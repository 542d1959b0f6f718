import RevisionScript.Encoding.Decode
import RevisionScript.Proofs.Encoding.Utf8

namespace RevisionScript.Utf16

namespace ByteOrder

def bytes : ByteOrder → Nat → List UInt8
  | little, n => [.ofNat (n % 256), .ofNat (n / 256)]
  | big, n => [.ofNat (n / 256), .ofNat (n % 256)]

def mark (order : ByteOrder) : List UInt8 := order.bytes 0xfeff

theorem exists_bytes (order : ByteOrder) {n : Nat} (h : n < 0x10000) :
    ∃ a b, order.bytes n = [a, b] ∧ order.unit a b = n := by
  have hlow : (UInt8.ofNat (n % 256)).toNat = n % 256 := Utf8.toNat_ofNat (by omega)
  have hhigh : (UInt8.ofNat (n / 256)).toNat = n / 256 := Utf8.toNat_ofNat (by omega)
  cases order with
  | little => exact ⟨_, _, rfl, by rw [unit, hlow, hhigh]; omega⟩
  | big => exact ⟨_, _, rfl, by rw [unit, hlow, hhigh]; omega⟩

theorem bytes_unit (order : ByteOrder) (a b : UInt8) :
    order.bytes (order.unit a b) = [a, b] := by
  have ha := a.toNat_lt
  have hb := b.toNat_lt
  have hlow (c d : UInt8) : (c.toNat * 256 + d.toNat) % 256 = d.toNat := by
    have hd := d.toNat_lt
    omega
  have hhigh (c d : UInt8) : (c.toNat * 256 + d.toNat) / 256 = c.toNat := by
    have hd := d.toNat_lt
    omega
  cases order <;> simp only [bytes, unit, hlow, hhigh, UInt8.ofNat_toNat]

theorem unit_lt (order : ByteOrder) (a b : UInt8) : order.unit a b < 0x10000 := by
  have ha := a.toNat_lt
  have hb := b.toNat_lt
  cases order <;> simp only [unit] <;> omega

end ByteOrder

def units (c : Char) : List Nat :=
  if c.toNat < 0x10000 then [c.toNat]
  else [0xd800 + (c.toNat - 0x10000) / 1024, 0xdc00 + (c.toNat - 0x10000) % 1024]

def encode (order : ByteOrder) (text : List Char) : List UInt8 :=
  text.flatMap fun c ↦ (units c).flatMap order.bytes

variable {order : ByteOrder} {position : Nat}

theorem encode_cons (c : Char) (text : List Char) :
    encode order (c :: text) = (units c).flatMap order.bytes ++ encode order text :=
      List.flatMap_cons

theorem isHigh_iff {n : Nat} : isHigh n = true ↔ 0xd800 ≤ n ∧ n < 0xdc00 := by simp [isHigh]

theorem isLow_iff {n : Nat} : isLow n = true ↔ 0xdc00 ≤ n ∧ n < 0xe000 := by simp [isLow]

theorem pairValue_surrogates (n : Nat) :
    pairValue (0xd800 + n / 1024) (0xdc00 + n % 1024) = 0x10000 + n := by
  unfold pairValue
  omega

theorem decodeFrom_unit {a b : UInt8} (hhigh : isHigh (order.unit a b) = false)
    (hlow : isLow (order.unit a b) = false) (bs : List UInt8) :
    decodeFrom order position (a :: b :: bs) =
      (Char.ofNat (order.unit a b) :: ·) <$> decodeFrom order (position + 2) bs := by
  rw [decodeFrom.eq_def]
  simp [hhigh, hlow]

theorem decodeFrom_pair {a b c d : UInt8} (hhigh : isHigh (order.unit a b) = true)
    (hlow : isLow (order.unit c d) = true) (bs : List UInt8) :
    decodeFrom order position (a :: b :: c :: d :: bs) =
      (Char.ofNat (pairValue (order.unit a b) (order.unit c d)) :: ·) <$>
        decodeFrom order (position + 4) bs := by
  rw [decodeFrom]
  simp [hhigh, hlow]

/-- The bytes of a character are read as that character, whatever follows. -/
theorem decodeFrom_encodeChar (c : Char) (bs : List UInt8) :
    decodeFrom order position ((units c).flatMap order.bytes ++ bs) =
      (c :: ·) <$> decodeFrom order (position + 2 * (units c).length) bs := by
  have hc := toNat_cases c
  have hchar := Char.ofNat_toNat c
  unfold units
  split
  · next hbasic =>
    obtain ⟨a, b, hab, hunit⟩ := order.exists_bytes hbasic
    have hhigh : isHigh c.toNat = false := by
      rw [← Bool.not_eq_true, isHigh_iff]
      omega
    have hlow : isLow c.toNat = false := by
      rw [← Bool.not_eq_true, isLow_iff]
      omega
    rw [List.flatMap_singleton, hab]
    refine (decodeFrom_unit ?_ ?_ bs).trans ?_
    · rwa [hunit]
    · rwa [hunit]
    · rw [hunit, hchar]
      rfl
  · next hbasic =>
    have hhigh : 0xd800 + (c.toNat - 0x10000) / 1024 < 0x10000 := by omega
    have hlow : 0xdc00 + (c.toNat - 0x10000) % 1024 < 0x10000 := by omega
    obtain ⟨a, b, hab, hunit⟩ := order.exists_bytes hhigh
    obtain ⟨a', b', hab', hunit'⟩ := order.exists_bytes hlow
    have hvalue : pairValue (order.unit a b) (order.unit a' b') = c.toNat := by
      rw [hunit, hunit', pairValue_surrogates]
      omega
    have hfirst : isHigh (order.unit a b) = true := by
      rw [hunit, isHigh_iff]
      omega
    have hsecond : isLow (order.unit a' b') = true := by
      rw [hunit', isLow_iff]
      omega
    rw [List.flatMap_cons, List.flatMap_singleton, hab, hab']
    refine (decodeFrom_pair hfirst hsecond bs).trans ?_
    rw [hvalue, hchar]
    rfl

theorem decodeFrom_encode (order : ByteOrder) (position : Nat) (text : List Char) :
    decodeFrom order position (encode order text) = .ok text := by
  induction text generalizing position with
  | nil => rfl
  | cons c text ih =>
    rw [encode_cons, decodeFrom_encodeChar, ih]
    rfl

theorem units_of_basic {n : Nat} (hn : n < 0x10000) (hhigh : ¬ isHigh n) (hlow : ¬ isLow n) :
    units (Char.ofNat n) = [n] := by
  rw [isHigh_iff] at hhigh
  rw [isLow_iff] at hlow
  have hc : (Char.ofNat n).toNat = n := toNat_charOfNat (by omega)
  rw [units, hc, if_pos hn]

theorem units_of_pair {high low : Nat} (hhigh : isHigh high) (hlow : isLow low) :
    units (Char.ofNat (pairValue high low)) = [high, low] := by
  rw [isHigh_iff] at hhigh
  rw [isLow_iff] at hlow
  have hn : pairValue high low = 0x10000 + (high - 0xd800) * 1024 + (low - 0xdc00) := rfl
  have hc : (Char.ofNat (pairValue high low)).toNat = pairValue high low :=
    toNat_charOfNat (by omega)
  have hfirst : 0xd800 + (pairValue high low - 0x10000) / 1024 = high := by omega
  have hsecond : 0xdc00 + (pairValue high low - 0x10000) % 1024 = low := by omega
  rw [units, hc, if_neg (by omega), hfirst, hsecond]

theorem eq_encode_of_decodeFrom {bytes : List UInt8} {text : List Char}
    (h : decodeFrom order position bytes = .ok text) : bytes = encode order text := by
  fun_induction decodeFrom order position bytes generalizing text
  case case1 =>
    cases h
    rfl
  case case3 a b n hhigh c d rest hlow ih =>
    obtain ⟨text, htext, rfl⟩ := except_map_eq_ok h
    have hpair : units (Char.ofNat (pairValue n (order.unit c d))) = [n, order.unit c d] :=
      units_of_pair hhigh hlow
    rw [encode_cons, hpair, List.flatMap_cons, List.flatMap_singleton, order.bytes_unit,
      order.bytes_unit, ← ih htext]
    rfl
  case case7 a b rest n hhigh hlow ih =>
    obtain ⟨text, htext, rfl⟩ := except_map_eq_ok h
    have hunit : units (Char.ofNat n) = [n] := units_of_basic (order.unit_lt a b) hhigh hlow
    rw [encode_cons, hunit, List.flatMap_singleton, order.bytes_unit, ← ih htext]
    rfl
  case case2 | case4 | case5 | case6 => cases h

theorem decodeFrom_eq_ok_iff {bytes : List UInt8} {text : List Char} :
    decodeFrom order position bytes = .ok text ↔ bytes = encode order text := by
  constructor
  · exact eq_encode_of_decodeFrom
  · rintro rfl
    exact decodeFrom_encode order position text

end RevisionScript.Utf16
