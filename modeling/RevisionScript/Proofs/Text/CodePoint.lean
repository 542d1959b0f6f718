import Mathlib.Data.List.Sort
import Mathlib.Data.String.Basic

namespace RevisionScript

/-- The code of a character is not that of a surrogate. -/
theorem toNat_cases (c : Char) : c.toNat < 0xd800 ∨ 0xdfff < c.toNat ∧ c.toNat < 0x110000 := c.valid

theorem toNat_charOfNat {n : Nat} (h : n < 0xd800 ∨ 0xdfff < n ∧ n < 0x110000) :
    (Char.ofNat n).toNat = n := by
  have hc : Char.ofNat n = Char.ofNatAux n h := dif_pos h
  rw [hc]
  exact UInt32.toNat_ofNatLT ..

/-- A number that is not a code stands for the first character. -/
theorem toNat_charOfNat_cases (n : Nat) : (Char.ofNat n).toNat = n ∨ (Char.ofNat n).toNat = 0 := by
  by_cases h : n.isValidChar
  · exact .inl (toNat_charOfNat h)
  · have hc : Char.ofNat n = '\x00' := dif_neg h
    rw [hc]
    exact .inr rfl

def codePoints (s : String) : List Nat := s.toList.map Char.toNat

def Ascending (names : List String) : Prop :=
  names.Pairwise fun a b ↦ codePoints a < codePoints b

variable {a b : String} {xs ys : List String}

theorem Ascending.nodup (h : Ascending xs) : xs.Nodup := by
  apply h.imp
  intro a b hab he
  rw [he] at hab
  exact lt_irrefl _ hab

/-- An ascending list is determined by its members. -/
theorem Ascending.ext (hxs : Ascending xs) (hys : Ascending ys) (h : ∀ a, a ∈ xs ↔ a ∈ ys) :
    xs = ys := by
  apply List.Perm.eq_of_pairwise _ hxs hys
  · exact (List.perm_ext_iff_of_nodup hxs.nodup hys.nodup).2 h
  · intro a b _ _ hab hba
    exact absurd hba (lt_asymm hab)

end RevisionScript
