import PageBuilder.Binary64.Decimal

/-! # Rounding of doubles

The nearest rank of a fraction does not depend on how the fraction is written, and the nearest rank
of the magnitude of a rank is that rank. -/

namespace PageBuilder.Binary64

theorem roundHalfEven_mul_left {c : Nat} (hc : 0 < c) (num den : Nat) :
    roundHalfEven (c * num) (c * den) = roundHalfEven num den := by
  have hquot : c * num / (c * den) = num / den := Nat.mul_div_mul_left num den hc
  have hrem : c * num % (c * den) = c * (num % den) := Nat.mul_mod_mul_left c num den
  have below : 2 * (c * (num % den)) < c * den ↔ 2 * (num % den) < den := by
    rw [Nat.mul_left_comm]
    exact Nat.mul_lt_mul_left hc
  have above : c * den < 2 * (c * (num % den)) ↔ den < 2 * (num % den) := by
    rw [Nat.mul_left_comm]
    exact Nat.mul_lt_mul_left hc
  simp only [roundHalfEven, hquot, hrem, below, above]

/-- A whole quotient is not rounded. -/
theorem roundHalfEven_mul_self (q : Nat) {den : Nat} (hden : 0 < den) :
    roundHalfEven (q * den) den = q := by
  simp [roundHalfEven, Nat.mul_div_cancel q hden, hden]

theorem nearestRank_mul_left {c : Nat} (hc : 0 < c) (num den : Nat) :
    nearestRank (c * num) (c * den) = nearestRank num den := by
  simp only [nearestRank, Nat.mul_div_mul_left num den hc, Nat.mul_assoc c den,
    roundHalfEven_mul_left hc]

/-- Equal fractions have the same nearest rank. -/
theorem nearestRank_congr {num den num' den' : Nat} (hden : 0 < den) (hden' : 0 < den')
    (h : num * den' = num' * den) : nearestRank num den = nearestRank num' den' := by
  calc nearestRank num den
      = nearestRank (den' * num) (den' * den) := (nearestRank_mul_left hden' num den).symm
    _ = nearestRank (den * num') (den * den') := by
        rw [Nat.mul_comm den' num, h, Nat.mul_comm num' den, Nat.mul_comm den' den]
    _ = nearestRank num' den' := nearestRank_mul_left hden num' den'

theorem unitsInOne_pos : 0 < unitsInOne := by decide +kernel

/-- The significand of a rank; from scale one on it has all its bits. -/
def significand (rank : Nat) : Nat :=
  rank - scale rank * Nat.pow 2 52

theorem units_eq (rank : Nat) : units rank = significand rank * Nat.pow 2 (scale rank) := rfl

theorem scale_mul_le (rank : Nat) : scale rank * Nat.pow 2 52 ≤ rank := by
  have : scale rank ≤ rank / Nat.pow 2 52 := Nat.sub_le _ 1
  exact (Nat.le_div_iff_mul_le (by decide)).mp this

theorem significand_lt (rank : Nat) : significand rank < Nat.pow 2 53 := by
  simp only [significand, scale, Nat.pow_eq]
  omega

theorem le_significand {rank : Nat} (h : scale rank ≠ 0) : Nat.pow 2 52 ≤ significand rank := by
  simp only [significand, scale, Nat.pow_eq] at h ⊢
  omega

/-- The scale is read off the number of bits of a magnitude. -/
theorem log2_units (rank : Nat) : (units rank).log2 - 52 = scale rank := by
  have hlt := significand_lt rank
  by_cases hscale : scale rank = 0
  · have hunits : units rank = significand rank := by simp [units_eq, hscale]
    rw [hunits, hscale]
    by_cases hzero : significand rank = 0
    · simp [hzero]
    · have : (significand rank).log2 < 53 := (Nat.log2_lt hzero).mpr hlt
      omega
  · have hle := le_significand hscale
    have hlower : 2 ^ (52 + scale rank) ≤ units rank := by
      rw [Nat.pow_add]
      exact Nat.mul_le_mul_right _ hle
    have hupper : units rank < 2 ^ (52 + scale rank + 1) := by
      rw [Nat.add_right_comm, Nat.pow_add]
      exact Nat.mul_lt_mul_of_pos_right hlt (Nat.two_pow_pos _)
    have hne : units rank ≠ 0 := by
      have := Nat.two_pow_pos (52 + scale rank)
      omega
    rw [(Nat.log2_eq_iff hne).mpr ⟨hlower, hupper⟩, Nat.add_sub_cancel_left]

/-- A magnitude rounds to its own rank. -/
theorem nearestRank_units (rank : Nat) : nearestRank (units rank) 1 = rank := by
  have hpos : 0 < Nat.pow 2 (scale rank) := Nat.pow_pos (by decide)
  have hround : roundHalfEven (units rank) (Nat.pow 2 (scale rank)) = significand rank := by
    rw [units_eq]
    exact roundHalfEven_mul_self _ hpos
  have hle := scale_mul_le rank
  simp only [nearestRank, Nat.div_one, Nat.one_mul, log2_units, hround, significand]
  omega

end PageBuilder.Binary64
