import Mathlib.Data.List.Forall2
import Mathlib.Data.List.Infix
import RevisionScript.Proofs.Text.CodePoint
import RevisionScript.Text.Case

namespace RevisionScript

/-- The characters of which a small letter is the lower case: the letter, its capital and, for a
`k`, the Kelvin sign. -/
def StandsFor (c letter : Char) : Prop :=
  c = letter ∨ c = letter.toUpper ∨ letter = 'k' ∧ c = '\u212a'

theorem isLower_iff {c : Char} : c.isLower = true ↔ 0x61 ≤ c.toNat ∧ c.toNat ≤ 0x7a := by
  have hlower : c.isLower = (decide (0x61 ≤ c.toNat) && decide (c.toNat ≤ 0x7a)) := rfl
  rw [hlower, Bool.and_eq_true, decide_eq_true_eq, decide_eq_true_eq]

theorem not_isLower_ofNat {n : Nat} (h : 0x7a < n) : (Char.ofNat n).isLower ≠ true := by
  rw [ne_eq, isLower_iff]
  have hn := toNat_charOfNat_cases n
  omega

/-- Of the ranges in the table two alone lead to small letters. -/
theorem mem_lowerRanges_cases :
    ∀ r ∈ lowerRanges, 0x7a < r.target ∨ r = ⟨0x41, 0x5a, 1, 0x61⟩ ∨
      r = ⟨0x212a, 0x212a, 1, 0x6b⟩ := by
  decide +kernel

theorem ofNat_capital : ∀ n < 0x5b, 0x41 ≤ n →
    Char.ofNat n = (Char.ofNat (0x61 + (n - 0x41))).toUpper := by
  decide

theorem lowerChar_letter : ∀ n < 0x7b, 0x61 ≤ n →
    lowerChar (Char.ofNat n) = [Char.ofNat n] ∧
      lowerChar (Char.ofNat n).toUpper = [Char.ofNat n] := by
  decide +kernel

theorem standsFor_of_covers {r : CaseRange} {c : Char} (hr : r ∈ lowerRanges)
    (hc : r.covers c.toNat = true) (h : (Char.ofNat (r.image c.toNat)).isLower = true) :
    StandsFor c (Char.ofNat (r.image c.toNat)) := by
  simp only [CaseRange.covers, Bool.and_eq_true, decide_eq_true_eq] at hc
  obtain htarget | rfl | rfl := mem_lowerRanges_cases r hr
  · exact absurd h (not_isLower_ofNat (by unfold CaseRange.image; omega))
  · have hcapital := ofNat_capital c.toNat (Nat.lt_succ_of_le hc.1.2) hc.1.1
    rw [Char.ofNat_toNat] at hcapital
    exact .inr (.inl hcapital)
  · have hkelvin : c.toNat = ('\u212a').toNat := Nat.le_antisymm hc.1.2 hc.1.1
    obtain rfl := Char.toNat_inj.1 hkelvin
    exact .inr (.inr ⟨rfl, rfl⟩)

/-- One character alone has a lower case of two, which begins with a small letter. -/
theorem lowerChar_cases (c : Char) :
    lowerChar c = ['i', '\u0307'] ∨
      ∃ letter, lowerChar c = [letter] ∧ (letter.isLower = true → StandsFor c letter) := by
  unfold lowerChar caseImage
  split
  · next codes hcodes =>
    left
    obtain ⟨_, _, he, -⟩ := List.lookup_eq_some_iff.1 hcodes
    have hmem : (c.toNat, codes) ∈ lowerExpansions := by simp [he]
    rw [(Prod.mk.inj (List.mem_singleton.1 hmem)).2]
    rfl
  · right
    split
    · next r hr =>
      obtain ⟨hcovers, -⟩ := List.find?_eq_some_iff_append.1 hr
      exact ⟨_, rfl, standsFor_of_covers (List.mem_of_find?_eq_some hr) hcovers⟩
    · exact ⟨c, rfl, fun _ ↦ .inl rfl⟩

theorem lowerChar_of_standsFor {c letter : Char} (hletter : letter.isLower = true)
    (h : StandsFor c letter) : lowerChar c = [letter] := by
  rw [isLower_iff] at hletter
  have hlower := lowerChar_letter letter.toNat (by omega) hletter.1
  rw [Char.ofNat_toNat] at hlower
  obtain rfl | rfl | ⟨rfl, rfl⟩ := h
  · exact hlower.1
  · exact hlower.2
  · decide +kernel

/-- A word of small letters is looked for in lower case character by character. It must not end with
an `i`, with which a lower case of two characters begins. -/
theorem prefix_lower_iff {w : List Char} (hw : ∀ letter ∈ w, letter.isLower = true)
    (hlast : w.getLast? ≠ some 'i') (s : List Char) :
    w <+: lower s ↔ List.Forall₂ StandsFor (s.take w.length) w := by
  induction w generalizing s with
  | nil => simp
  | cons letter w ih =>
    rw [List.forall_mem_cons] at hw
    obtain ⟨hletter, hw⟩ := hw
    have hlast' : w.getLast? ≠ some 'i' := by
      cases w with
      | nil => simp
      | cons => rwa [List.getLast?_cons_cons] at hlast
    cases s with
    | nil => simp [lower]
    | cons c s =>
      have hs : lower (c :: s) = lowerChar c ++ lower s := List.flatMap_cons
      rw [hs, List.length_cons, List.take_succ_cons, List.forall₂_cons, ← ih hw hlast' s]
      obtain hc | ⟨letter', hc, hstands⟩ := lowerChar_cases c
      · refine iff_of_false (fun h ↦ ?_) fun h ↦ ?_
        · rw [hc, List.cons_append, List.cons_prefix_cons] at h
          obtain ⟨rfl, h⟩ := h
          cases w with
          | nil => exact hlast rfl
          | cons letter' w =>
            rw [List.cons_append, List.cons_prefix_cons] at h
            have hmark := (List.forall_mem_cons.1 hw).1
            rw [h.1] at hmark
            exact absurd hmark (by decide)
        · rw [lowerChar_of_standsFor hletter h.1] at hc
          cases hc
      · rw [hc, List.singleton_append, List.cons_prefix_cons]
        refine and_congr_left fun _ ↦ ⟨?_, fun h ↦ ?_⟩
        · rintro rfl
          exact hstands hletter
        · rw [lowerChar_of_standsFor hletter h] at hc
          exact List.head_eq_of_cons_eq hc

theorem prefix_append_imp {w a x y : List Char} (h : ∀ v, w = a ++ v → v <+: x → v <+: y)
    (hx : w <+: a ++ x) : w <+: a ++ y := by
  obtain hwa | ⟨v, rfl⟩ := List.prefix_or_prefix_of_prefix hx (List.prefix_append a x)
  · exact hwa.trans (List.prefix_append a y)
  · rw [List.prefix_append_right_inj] at hx ⊢
    exact h v rfl hx

/-- A word without a sigma is where it is whether or not a sigma takes its final form. -/
theorem prefix_lowerAfter_iff {w : List Char} (hsigma : 'σ' ∉ w) (hfinal : 'ς' ∉ w)
    (before s : List Char) : w <+: lowerAfter before s ↔ w <+: lower s := by
  induction s generalizing w before with
  | nil => exact Iff.rfl
  | cons c s ih =>
    have hs : lower (c :: s) = lowerChar c ++ lower s := List.flatMap_cons
    rw [lowerAfter, hs]
    split
    · next hc =>
      subst hc
      have hlower : lowerChar 'Σ' = ['σ'] := by decide
      rw [hlower]
      cases w with
      | nil => simp
      | cons d w =>
        rw [List.mem_cons, not_or] at hsigma hfinal
        rw [List.singleton_append, List.singleton_append, List.cons_prefix_cons,
          List.cons_prefix_cons]
        refine iff_of_false (fun h ↦ ?_) fun h ↦ hsigma.1 h.1.symm
        split at h
        · exact hfinal.1 h.1.symm
        · exact hsigma.1 h.1.symm
    · have hv (v : List Char) (hv : w = lowerChar c ++ v) :
          v <+: lowerAfter (c :: before) s ↔ v <+: lower s := by
        subst hv
        exact ih (fun h ↦ hsigma (List.mem_append_right _ h))
          (fun h ↦ hfinal (List.mem_append_right _ h)) (c :: before)
      exact ⟨prefix_append_imp fun v h ↦ (hv v h).1, prefix_append_imp fun v h ↦ (hv v h).2⟩

end RevisionScript
