import PulpGame.Number.Binary64

namespace PulpGame.Binary64

theorem magnitude_ofMagnitude {mag : Nat} (negative : Bool) (h : mag < Nat.pow 2 63)
    : (ofMagnitude negative mag).magnitude = mag := by
  rw [Nat.pow_eq] at h
  unfold magnitude ofMagnitude
  cases negative
  all_goals
    simp
    omega

theorem magnitude_neg {x : Binary64} : x.neg.magnitude = x.magnitude := by
  apply magnitude_ofMagnitude
  unfold magnitude
  simp
  omega

theorem isFinite_neg {x : Binary64} : x.neg.isFinite = x.isFinite := by
  rw [isFinite, magnitude_neg, isFinite]

theorem isFinite_of_isZero {x : Binary64} (h : x.isZero) : x.isFinite := by
  simp_all [isZero, isFinite, infinityBits]

theorem value_of_isFinite {x : Binary64} (h : x.isFinite)
    : ∃ negative m q, x.value = .finite negative m q := by
  have hbiased : x.magnitude / 2 ^ 52 ≠ 2047 := by
    intro heq
    have hle := Nat.div_mul_le_self x.magnitude (2 ^ 52)
    rw [heq] at hle
    exact Nat.not_lt.mpr hle (of_decide_eq_true h)
  unfold value
  simp only [Nat.pow_eq, hbiased, if_false]
  split
  . exact ⟨_, _, _, rfl⟩
  . exact ⟨_, _, _, rfl⟩

theorem roundHalfEven_le (num den : Nat) : roundHalfEven num den ≤ num / den + 1 := by
  unfold roundHalfEven
  dsimp
  split
  . omega
  . split
    . omega
    . split <;> omega

theorem log2_mul_two_pow {n : Nat} (h : n ≠ 0) (k : Nat) : (n * Nat.pow 2 k).log2 = n.log2 + k := by
  rw [Nat.pow_eq]
  have hpos := Nat.two_pow_pos k
  rw [Nat.log2_eq_iff (Nat.mul_ne_zero h (by omega))]
  have hle := Nat.log2_self_le h
  have hlt := (Nat.log2_lt (k := n.log2 + 1) h).mp (by omega)
  constructor
  . rw [Nat.pow_add]
    exact Nat.mul_le_mul_right _ hle
  . rw [show n.log2 + k + 1 = n.log2 + 1 + k by omega, Nat.pow_add]
    exact Nat.mul_lt_mul_of_pos_right hlt hpos

theorem magnitudeOfRatio_le {num den k : Nat} (hden : den ≠ 0)
    (h : num.log2 + 1074 ≤ den.log2 + 52 + k)
    : magnitudeOfRatio num den ≤ (k + 4) * Nat.pow 2 52 := by
  rw [Nat.pow_eq]
  unfold magnitudeOfRatio
  split
  . omega
  . next hnum =>
    extract_lets guess below exponent significand
    have hmax : exponent ≤ k - 1074 := by
      simp only [exponent, guess, minExponent]
      split <;> omega
    have hmin : guess - 53 ≤ exponent := by
      simp only [exponent]
      split <;> omega
    have hnumlt := (Nat.log2_lt (k := num.log2 + 1) hnum).mp (by omega)
    have hdenle := Nat.log2_self_le hden
    have hsignificand : significand ≤ 2 ^ 54 := by
      apply Nat.le_trans (roundHalfEven_le _ _)
      apply Nat.div_lt_of_lt_mul
      calc num * 2 ^ (-exponent).toNat
        _ < 2 ^ (num.log2 + 1) * 2 ^ (-exponent).toNat :=
          Nat.mul_lt_mul_of_pos_right hnumlt (Nat.two_pow_pos _)
        _ = 2 ^ (num.log2 + 1 + (-exponent).toNat) := (Nat.pow_add ..).symm
        _ ≤ 2 ^ (den.log2 + exponent.toNat + 54) := by
          apply Nat.pow_le_pow_right (by decide)
          omega
        _ = 2 ^ den.log2 * 2 ^ exponent.toNat * 2 ^ 54 := by rw [Nat.pow_add, Nat.pow_add]
        _ ≤ den * 2 ^ exponent.toNat * 2 ^ 54 :=
          Nat.mul_le_mul_right _ (Nat.mul_le_mul_right _ hdenle)
    have hexponent : (exponent - minExponent).toNat ≤ k := by
      simp only [minExponent]
      omega
    calc min infinityBits ((exponent - minExponent).toNat * 2 ^ 52 + significand)
      _ ≤ (exponent - minExponent).toNat * 2 ^ 52 + significand := Nat.min_le_right ..
      _ ≤ k * 2 ^ 52 + 4 * 2 ^ 52 :=
        Nat.add_le_add (Nat.mul_le_mul_right _ hexponent) hsignificand
      _ = (k + 4) * 2 ^ 52 := (Nat.add_mul ..).symm

/-- A bound by binary digits before the point, counted from the least exponent. -/
def IsWithin (k : Nat) (x : Binary64) : Prop := x.magnitude ≤ k * Nat.pow 2 52

theorem IsWithin.isFinite {k : Nat} {x : Binary64} (h : x.IsWithin k) (hk : k < 0x7FF)
    : x.isFinite := by
  apply decide_eq_true
  calc x.magnitude
    _ ≤ k * 2 ^ 52 := h
    _ < 0x7FF * 2 ^ 52 := Nat.mul_lt_mul_of_pos_right hk (Nat.two_pow_pos 52)

theorem isWithin_ofRatio {num den k : Nat} (negative : Bool) (hden : den ≠ 0)
    (h : num.log2 + 1074 ≤ den.log2 + 52 + k) (hk : k ≤ 2042)
    : (ofRatio negative num den).IsWithin (k + 4) := by
  have hmag := magnitudeOfRatio_le hden h
  rw [IsWithin, ofRatio, magnitude_ofMagnitude]
  . exact hmag
  . calc magnitudeOfRatio num den
      _ ≤ (k + 4) * 2 ^ 52 := hmag
      _ ≤ 2046 * 2 ^ 52 := Nat.mul_le_mul_right _ (by omega)
      _ < 2 ^ 63 := by decide

theorem isWithin_ofInteger (negative : Bool) {n : Nat} (h : n < Nat.pow 2 65)
    : (ofRatio negative n 1).IsWithin 1090 := by
  apply isWithin_ofRatio (k := 1086) negative (by decide) _ (by decide)
  by_cases hn : n = 0
  . simp [hn]
  . have := (Nat.log2_lt (k := 65) hn).mpr h
    omega

theorem IsWithin.parts_le {k : Nat} {x : Binary64} (h : x.IsWithin k) (hk : k < 0x7FF)
    : x.parts.1 < Nat.pow 2 53 ∧ (x.parts.2 ≤ k - 1075 ∨ x.parts.2 = minExponent) := by
  have hbiased : x.magnitude / 2 ^ 52 ≤ k := Nat.div_le_of_le_mul (Nat.mul_comm .. ▸ h)
  have hfraction : x.magnitude % 2 ^ 52 < 2 ^ 52 := Nat.mod_lt _ (by decide)
  unfold parts value
  simp only [Nat.pow_eq, minExponent]
  generalize x.magnitude / 2 ^ 52 = biased at hbiased ⊢
  generalize x.magnitude % 2 ^ 52 = fraction at hfraction ⊢
  by_cases hzero : biased = 0
  . simp [hzero]
    omega
  . have : biased ≠ 2047 := by omega
    simp [hzero, this]
    omega

theorem IsWithin.divMagnitude {k j : Nat} {x y : Binary64} (h : x.IsWithin (k + j))
    (hk : k + j < 0x7FF) (hy : y.parts.1 ≠ 0) (hj : j ≤ y.parts.1.log2 + y.parts.2) (hgreatest : k ≤ 2042)
    : (x.divMagnitude y).IsWithin (k + 4) := by
  obtain ⟨hm, hp⟩ := h.parts_le hk
  unfold Binary64.divMagnitude
  generalize x.parts = a at hm hp ⊢
  generalize y.parts = b at hy hj ⊢
  obtain ⟨m, p⟩ := a
  obtain ⟨n, q⟩ := b
  dsimp only at hm hp hy hj ⊢
  have hscale : Nat.pow 2 (q - p).toNat ≠ 0 := Nat.ne_of_gt (Nat.two_pow_pos _)
  apply isWithin_ofRatio _ (Nat.mul_ne_zero hy hscale) _ hgreatest
  rw [log2_mul_two_pow hy]
  by_cases hzero : m = 0
  . simp [hzero, minExponent] at hp ⊢
    omega
  . rw [log2_mul_two_pow hzero]
    have := (Nat.log2_lt (k := 53) hzero).mpr hm
    simp only [minExponent] at hp
    omega

theorem tenPow_parts : ∀ e < 309,
    (tenPow e).parts.1 ≠ 0 ∧ 0 ≤ (tenPow e).parts.1.log2 + (tenPow e).parts.2 := by
  decide +kernel

theorem maxTenPow_parts : 1000 ≤ (tenPow 308).parts.1.log2 + (tenPow 308).parts.2 := by
  decide +kernel

end PulpGame.Binary64
