import PageBuilder.Proofs.DoubleRange
import PageBuilder.Proofs.Numerals

/-! # Shortest decimals

Which digits are zeros at the end makes no difference to the rank of a decimal, and the shortest
decimal of a double reads back as that double. -/

namespace PageBuilder

open Binary64

namespace Decimal

/-- The number of digits of a decimal before its point, fewer than none for zeros after it. -/
def magnitude (d : Decimal) : Int :=
  d.exponent + (Numeral.ofNat d.digits).length

/-- A decimal with `k` more zeros at the end of its digits. -/
def padded (d : Decimal) (k : Nat) : Decimal :=
  ⟨d.digits * 10 ^ k, d.exponent - k⟩

theorem magnitude_padded {d : Decimal} (hd : 0 < d.digits) (k : Nat) :
    (d.padded k).magnitude = d.magnitude := by
  simp only [magnitude, padded, Numeral.ofNat_mul_pow hd, List.length_append,
    List.length_replicate]
  omega

theorem tooSmall_eq (d : Decimal) : d.tooSmall = (d.digits == 0 || d.magnitude < -400) := rfl

theorem tooLarge_eq (d : Decimal) : d.tooLarge = (d.digits != 0 && 400 < d.magnitude) := rfl

theorem toUnits_den_pos (d : Decimal) : 0 < d.toUnits.2 := by
  unfold toUnits
  split
  · exact Nat.one_pos
  · exact Nat.pow_pos (by decide)

/-- The units of a decimal after a shift by `e` places that makes its exponent whole. -/
theorem toUnits_mul (d : Decimal) {e : Nat} (shift : Nat) (h : d.exponent + e = shift) :
    d.toUnits.1 * 10 ^ e = d.digits * unitsInOne * 10 ^ shift * d.toUnits.2 := by
  obtain ⟨digits, exponent⟩ := d
  cases exponent with
  | ofNat n =>
      have hshift : shift = n + e := by
        simp only [Int.ofNat_eq_natCast] at h
        omega
      change digits * 10 ^ n * unitsInOne * 10 ^ e = digits * unitsInOne * 10 ^ shift * 1
      generalize unitsInOne = one
      rw [hshift, Nat.pow_add]
      ac_rfl
  | negSucc n =>
      have hshift : e = shift + (n + 1) := by
        simp only [Int.negSucc_eq] at h
        omega
      change digits * unitsInOne * 10 ^ e = digits * unitsInOne * 10 ^ shift * 10 ^ (n + 1)
      rw [hshift, Nat.pow_add, ← Nat.mul_assoc]

/-- Zeros at the end of the digits do not move a decimal. -/
theorem nearestRank_padded (d : Decimal) (k : Nat) :
    nearestRank (d.padded k).toUnits.1 (d.padded k).toUnits.2 =
      nearestRank d.toUnits.1 d.toUnits.2 := by
  apply nearestRank_congr (toUnits_den_pos _) (toUnits_den_pos _)
  -- both are compared after a shift that makes both exponents whole
  obtain ⟨shift, hshift⟩ : ∃ shift : Nat, d.exponent + d.exponent.natAbs = shift :=
    Int.eq_ofNat_of_zero_le (by omega)
  have hpadded : (d.padded k).toUnits.1 * 10 ^ (d.exponent.natAbs + k) = _ :=
    toUnits_mul (d.padded k) shift (by simp only [padded]; omega)
  have hplain : d.toUnits.1 * 10 ^ (d.exponent.natAbs + k) = _ :=
    toUnits_mul d (shift + k) (by omega)
  have hpos : 0 < 10 ^ (d.exponent.natAbs + k) := Nat.pow_pos (by decide)
  apply Nat.eq_of_mul_eq_mul_right hpos
  rw [Nat.mul_right_comm, hpadded, Nat.mul_right_comm d.toUnits.1, hplain, Nat.pow_add 10 shift k]
  change d.digits * 10 ^ k * unitsInOne * 10 ^ shift * _ * _ = _
  generalize unitsInOne = one
  ac_rfl

end Decimal

namespace Binary64

theorem rankOfDecimal_padded (d : Decimal) (k : Nat) :
    rankOfDecimal (d.padded k) = rankOfDecimal d := by
  by_cases hzero : d.digits = 0
  · simp [rankOfDecimal, Decimal.tooSmall, Decimal.padded, hzero]
  · have hpos : 0 < d.digits := Nat.pos_of_ne_zero hzero
    have hpadded : (d.padded k).digits ≠ 0 :=
      Nat.mul_ne_zero hzero (Nat.pow_pos (by decide)).ne'
    have hmagnitude := Decimal.magnitude_padded hpos k
    simp only [rankOfDecimal, Decimal.tooSmall_eq, Decimal.tooLarge_eq, hmagnitude,
      Decimal.nearestRank_padded, bne_iff_ne.mpr hzero, bne_iff_ne.mpr hpadded,
      beq_eq_false_iff_ne.mpr hzero, beq_eq_false_iff_ne.mpr hpadded]

theorem units_pos {rank : Nat} (h : 0 < rank) : 0 < units rank := by
  have hsignificand : 0 < significand rank := by
    simp only [significand, scale, Nat.pow_eq]
    omega
  exact Nat.mul_pos hsignificand (Nat.two_pow_pos _)

theorem unitDigits_pos : 0 < unitDigits := by decide +kernel

/-- A decimal of `places` places whose digits are a whole number of units. -/
theorem nearestRank_toUnits {d : Decimal} {u places : Nat}
    (hplaces : d.exponent + places = (0 : Nat)) (h : d.digits * unitsInOne = u * 10 ^ places) :
    nearestRank d.toUnits.1 d.toUnits.2 = nearestRank u 1 := by
  apply nearestRank_congr d.toUnits_den_pos Nat.one_pos
  have hpos : 0 < 10 ^ places := Nat.pow_pos (by decide)
  apply Nat.eq_of_mul_eq_mul_right hpos
  rw [Nat.mul_one, d.toUnits_mul 0 hplaces, h, Nat.pow_zero, Nat.mul_one, Nat.mul_right_comm]

theorem nearestRank_exactDecimal (rank : Nat) :
    nearestRank (exactDecimal rank).toUnits.1 (exactDecimal rank).toUnits.2 = rank := by
  have hplaces : (exactDecimal rank).exponent + (1074 : Nat) = (0 : Nat) := rfl
  have hunit : unitDigits * unitsInOne = 10 ^ 1074 := by decide +kernel
  have hdigits : (exactDecimal rank).digits * unitsInOne = units rank * 10 ^ 1074 := by
    rw [exactDecimal, Nat.mul_assoc, hunit]
  rw [nearestRank_toUnits hplaces hdigits, nearestRank_units]

/-- A finite magnitude that is not zero has between 701 and 1400 digits. -/
theorem length_exactDecimal {rank : Nat} (hpos : 0 < rank) (h : rank < 2047 * Nat.pow 2 52) :
    700 < (Numeral.ofNat (exactDecimal rank).digits).length ∧
      (Numeral.ofNat (exactDecimal rank).digits).length ≤ 1400 := by
  have hlower : 10 ^ 700 ≤ (exactDecimal rank).digits :=
    calc 10 ^ 700 ≤ unitDigits := by decide +kernel
      _ ≤ units rank * unitDigits := Nat.le_mul_of_pos_left _ (units_pos hpos)
  have hupper : (exactDecimal rank).digits < 10 ^ 1400 :=
    calc units rank * unitDigits < 2 ^ 2098 * unitDigits :=
          Nat.mul_lt_mul_of_pos_right (units_lt h) unitDigits_pos
      _ ≤ 10 ^ 1400 := by decide +kernel
  constructor
  · apply Nat.lt_of_not_le
    rw [Numeral.length_ofNat_le_iff (by decide)]
    exact Nat.not_lt.mpr hlower
  · rw [Numeral.length_ofNat_le_iff (by decide)]
    exact hupper

/-- All the digits of a magnitude read back as its rank. -/
theorem rankOfDecimal_exactDecimal {rank : Nat} (hpos : 0 < rank)
    (h : rank < 2047 * Nat.pow 2 52) : rankOfDecimal (exactDecimal rank) = some rank := by
  have hne : (exactDecimal rank).digits ≠ 0 :=
    Nat.mul_ne_zero (units_pos hpos).ne' unitDigits_pos.ne'
  have hexponent : (exactDecimal rank).exponent = -1074 := rfl
  obtain ⟨hlong, hshort⟩ := length_exactDecimal hpos h
  have hsmall : (exactDecimal rank).tooSmall = false := by
    simp only [Decimal.tooSmall, hexponent, beq_eq_false_iff_ne.mpr hne, Bool.false_or,
      decide_eq_false_iff_not]
    omega
  have hlarge : (exactDecimal rank).tooLarge = false := by
    simp only [Decimal.tooLarge, hexponent, bne_iff_ne.mpr hne, Bool.true_and,
      decide_eq_false_iff_not]
    omega
  rw [rankOfDecimal, hsmall, hlarge, nearestRank_exactDecimal]
  rfl

/-- The shortest decimal of a double reads back as that double. -/
theorem rankOfDecimal_shortest {rank : Nat} (hpos : 0 < rank) (h : rank < 2047 * Nat.pow 2 52) :
    rankOfDecimal (shortest rank) = some rank := by
  rcases readsBack_shortest_or_exact rank with hreads | hexact
  · exact beq_iff_eq.mp hreads
  · rw [hexact]
    exact rankOfDecimal_exactDecimal hpos h

theorem shortest_digits_pos {rank : Nat} (hpos : 0 < rank) (h : rank < 2047 * Nat.pow 2 52) :
    0 < (shortest rank).digits := by
  apply Nat.pos_of_ne_zero
  intro hzero
  have hreads := rankOfDecimal_shortest hpos h
  have hsmall : (shortest rank).tooSmall := by simp [Decimal.tooSmall, hzero]
  rw [rankOfDecimal, if_pos hsmall] at hreads
  exact hpos.ne (Option.some.inj hreads)

end Binary64

end PageBuilder
