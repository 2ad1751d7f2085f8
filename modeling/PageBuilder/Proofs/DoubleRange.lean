import Mathlib.Tactic.Ring
import PageBuilder.Proofs.DoubleRounding

/-! # The range of doubles

Where rounding leaves the finite doubles. A quotient rounds below an even number exactly if it lies
below the midpoint before that number, so the bound of a scale is read off the rounding of one
quotient. At the other end, whole numbers keep their signs, and the doubles below one are those
below its rank. -/

namespace PageBuilder.Binary64

/-- Whole numbers of this magnitude or more have no finite double: the midpoint between the greatest
finite double and the next power of two, which is even. -/
def overflowFrom : Nat := 2 ^ 1024 - 2 ^ 970

theorem le_roundHalfEven (num den : Nat) : num / den ≤ roundHalfEven num den := by
  unfold roundHalfEven
  dsimp only
  split
  · exact Nat.le_refl _
  · split <;> omega

theorem roundHalfEven_le (num den : Nat) : roundHalfEven num den ≤ num / den + 1 := by
  unfold roundHalfEven
  dsimp only
  split
  · omega
  · split <;> omega

/-- A tie below an even number goes up to that number. -/
theorem roundHalfEven_lt_iff {num den n : Nat} (hden : 0 < den) :
    roundHalfEven num den < 2 * n + 2 ↔ 2 * num < (4 * n + 3) * den := by
  have hnum := Nat.div_add_mod num den
  have hrest := Nat.mod_lt num hden
  have hmid : (4 * n + 3) * den = 2 * (den * (2 * n + 1)) + den := by ring
  have hle := le_roundHalfEven num den
  have hge := roundHalfEven_le num den
  rcases Nat.lt_trichotomy (num / den) (2 * n + 1) with hlow | hlast | hhigh
  · have hsmall : den * (num / den) + den ≤ den * (2 * n + 1) := Nat.mul_le_mul_left den hlow
    constructor
    · intro _
      omega
    · intro _
      omega
  · have hround : roundHalfEven num den =
        if 2 * (num % den) < den then 2 * n + 1 else 2 * n + 2 := by
      unfold roundHalfEven
      dsimp only
      rw [hlast]
      split
      · rfl
      · split <;> omega
    rw [hlast] at hnum
    rw [hround]
    split
    · constructor <;> intro _ <;> omega
    · constructor <;> intro _ <;> omega
  · have hbig : den * (2 * n + 1) + den ≤ den * (num / den) := Nat.mul_le_mul_left den hhigh
    constructor
    · intro _
      omega
    · intro _
      omega

/-- The ranks of scale at most `k` are those of the magnitudes below the midpoint after them. -/
theorem nearestRank_lt_iff {u k : Nat} :
    nearestRank u 1 < (k + 2) * 2 ^ 52 ↔ 2 * u < (2 ^ 54 - 1) * 2 ^ k := by
  obtain ⟨s, hs⟩ : ∃ s, s = u.log2 - 52 := ⟨_, rfl⟩
  have hrank : nearestRank u 1 = s * 2 ^ 52 + roundHalfEven u (2 ^ s) := by
    rw [nearestRank, Nat.div_one, Nat.one_mul, ← hs]
    rfl
  have hpos : 0 < 2 ^ s := Nat.two_pow_pos s
  have hle := roundHalfEven_le u (2 ^ s)
  have hge := le_roundHalfEven u (2 ^ s)
  rw [hrank]
  rcases Nat.lt_trichotomy s k with hlow | rfl | hhigh
  · have hu : u < 2 ^ 53 * 2 ^ s := by
      calc u < 2 ^ (u.log2 + 1) := Nat.lt_log2_self
        _ ≤ 2 ^ (53 + s) := Nat.pow_le_pow_right (by decide) (by omega)
        _ = 2 ^ 53 * 2 ^ s := Nat.pow_add 2 53 s
    have hquot : u / 2 ^ s < 2 ^ 53 := (Nat.div_lt_iff_lt_mul hpos).mpr hu
    have hscale : 2 ^ s * 2 ≤ 2 ^ k := Nat.pow_le_pow_right Nat.two_pos hlow
    constructor <;> intro _ <;> omega
  · have hround : roundHalfEven u (2 ^ s) < 2 * (2 ^ 52 - 1) + 2 ↔
        2 * u < (4 * (2 ^ 52 - 1) + 3) * 2 ^ s := roundHalfEven_lt_iff hpos
    omega
  · have hne : u ≠ 0 := by
      rintro rfl
      simp at hs
      omega
    have hu : 2 ^ 52 * 2 ^ s ≤ u := by
      calc 2 ^ 52 * 2 ^ s = 2 ^ (52 + s) := (Nat.pow_add 2 52 s).symm
        _ = 2 ^ u.log2 := by rw [hs, Nat.add_sub_cancel' (by omega)]
        _ ≤ u := Nat.log2_self_le hne
    have hquot : 2 ^ 52 ≤ u / 2 ^ s := (Nat.le_div_iff_mul_le hpos).mpr hu
    have hscale : 2 ^ k * 2 ≤ 2 ^ s := Nat.pow_le_pow_right Nat.two_pos hhigh
    constructor <;> intro _ <;> omega

/-- The last midpoint in units is that of whole numbers, scaled. -/
theorem midpoint_units_iff {m p unit : Nat} (hunit : 0 < unit) :
    2 * (m * unit) < (2 ^ 54 - 1) * (2 * p * unit) ↔ m < 2 ^ 54 * p - p := by
  have hleft : 2 * (m * unit) = 2 * m * unit := by ring
  have hright : (2 ^ 54 - 1) * (2 * p * unit) = (2 ^ 54 - 1) * (2 * p) * unit := by ring
  rw [hleft, hright, Nat.mul_lt_mul_right hunit]
  omega

theorem nearestRank_unitsInOne_lt_iff {m : Nat} :
    nearestRank (m * unitsInOne) 1 < 2047 * Nat.pow 2 52 ↔ m < overflowFrom := by
  have hlast : 2 ^ 2045 = 2 * Nat.pow 2 970 * unitsInOne := by decide +kernel
  have hbound : overflowFrom = 2 ^ 54 * Nat.pow 2 970 - Nat.pow 2 970 := by decide +kernel
  rw [hbound, ← midpoint_units_iff unitsInOne_pos, ← hlast]
  exact nearestRank_lt_iff

theorem exists_ofRank_eq_finite_iff {negative : Bool} {rank : Nat} :
    (∃ s r, ofRank negative rank = .finite s r) ↔ rank < 2047 * Nat.pow 2 52 := by
  unfold ofRank
  by_cases h : rank < 2047 * Nat.pow 2 52
  · rw [dif_pos h]
    exact ⟨fun _ => h, fun _ => ⟨_, _, rfl⟩⟩
  · rw [dif_neg h]
    exact ⟨fun hfinite => by simp at hfinite, fun hlt => absurd hlt h⟩

theorem isSome_finite?_iff {x : Binary64} : x.finite?.isSome ↔ ∃ s r, x = .finite s r := by
  cases x with
  | nan => exact ⟨nofun, nofun⟩
  | infinite s => exact ⟨nofun, nofun⟩
  | finite s r => exact ⟨fun _ => ⟨s, r, rfl⟩, fun _ => rfl⟩

/-- A whole number has a finite double exactly if it is not too large. -/
theorem isSome_ofInt?_iff {n : Int} : (ofInt? n).isSome ↔ n.natAbs < overflowFrom := by
  rw [ofInt?, isSome_finite?_iff, ofInt, ofUnits, exists_ofRank_eq_finite_iff,
    nearestRank_unitsInOne_lt_iff]

/-- A magnitude of at least one unit does not round to zero. -/
theorem nearestRank_pos {u : Nat} (h : 0 < u) : 0 < nearestRank u 1 := by
  obtain ⟨s, hs⟩ : ∃ s, s = u.log2 - 52 := ⟨_, rfl⟩
  have hrank : nearestRank u 1 = s * 2 ^ 52 + roundHalfEven u (2 ^ s) := by
    rw [nearestRank, Nat.div_one, Nat.one_mul, ← hs]
    rfl
  rw [hrank]
  by_cases hzero : s = 0
  · have hround := le_roundHalfEven u (2 ^ s)
    rw [hzero, Nat.pow_zero, Nat.div_one] at hround
    rw [hzero, Nat.pow_zero]
    omega
  · omega

/-- A whole number that has a finite double has one of its own sign, and not zero unless it is
zero. -/
theorem ofInt?_eq_some {n : Int} {x : Binary64} (h : ofInt? n = some x) :
    ∃ r, x = .finite (n < 0) r ∧ (n ≠ 0 → 0 < r.val) := by
  have hpos : n ≠ 0 → 0 < nearestRank (n.natAbs * unitsInOne) 1 := by
    intro hn
    exact nearestRank_pos (Nat.mul_pos (Int.natAbs_pos.mpr hn) unitsInOne_pos)
  rw [ofInt?, ofInt, ofUnits] at h
  generalize nearestRank (n.natAbs * unitsInOne) 1 = rank at h hpos
  unfold ofRank at h
  split at h
  · cases h
    exact ⟨_, rfl, hpos⟩
  · cases h

/-- The magnitudes below a power of two are those of the ranks below its rank. -/
theorem units_lt_iff {rank k : Nat} (hk : 53 ≤ k) :
    units rank < 2 ^ k ↔ rank < (k - 51) * 2 ^ 52 := by
  obtain ⟨n, rfl⟩ : ∃ n, k = 52 + (n + 1) := ⟨k - 53, by omega⟩
  rw [units_eq, Nat.pow_add]
  constructor
  · intro h
    by_contra hge
    have hscale : n + 1 ≤ scale rank := by
      simp only [scale, Nat.pow_eq]
      omega
    have hne : scale rank ≠ 0 := by omega
    have hle : 2 ^ 52 * 2 ^ (n + 1) ≤ significand rank * Nat.pow 2 (scale rank) :=
      Nat.mul_le_mul (le_significand hne) (Nat.pow_le_pow_right Nat.two_pos hscale)
    exact absurd h (Nat.not_lt.mpr hle)
  · intro h
    have hscale : scale rank ≤ n := by
      simp only [scale, Nat.pow_eq]
      omega
    calc significand rank * Nat.pow 2 (scale rank)
        < Nat.pow 2 53 * Nat.pow 2 (scale rank) :=
          Nat.mul_lt_mul_of_pos_right (significand_lt rank) (Nat.two_pow_pos _)
      _ ≤ Nat.pow 2 53 * 2 ^ n :=
          Nat.mul_le_mul_left _ (Nat.pow_le_pow_right Nat.two_pos hscale)
      _ = 2 ^ 52 * 2 ^ (n + 1) := by
          simp only [Nat.pow_eq]
          ring

/-- The doubles below one are those of smaller rank. -/
theorem units_lt_unitsInOne_iff {rank : Nat} :
    units rank < unitsInOne ↔ rank < 1023 * Nat.pow 2 52 := by
  have hone : unitsInOne = 2 ^ 1074 := by decide +kernel
  rw [hone]
  exact units_lt_iff (by decide)

/-- The magnitude of a finite double in units. -/
theorem units_lt {rank : Nat} (h : rank < 2047 * Nat.pow 2 52) : units rank < 2 ^ 2098 :=
  (units_lt_iff (by decide)).mpr h

/-! ### Signs -/

/-- A finite number is above zero exactly if it is not at most zero. -/
theorem zero_lt_iff_of_finite {x : Binary64} (h : x.finite?.isSome = true) :
    zero.lt x = true ↔ x.le .zero = false := by
  obtain ⟨s, ⟨rank, hrank⟩, rfl⟩ := isSome_finite?_iff.mp h
  cases s with
  | true => simp [le, lt, numericEq, zero, signedZero, isZero]
  | false =>
      have hsign : 0 < rank ↔ ¬rank = 0 := Nat.pos_iff_ne_zero
      simpa [le, lt, numericEq, zero, signedZero, isZero, Fin.lt_def] using hsign

/-- A finite number is at least zero exactly if it is not below zero. -/
theorem zero_le_iff_of_finite {x : Binary64} (h : x.finite?.isSome = true) :
    zero.le x = true ↔ x.lt .zero = false := by
  obtain ⟨s, ⟨rank, hrank⟩, rfl⟩ := isSome_finite?_iff.mp h
  cases s with
  | true => simp [le, lt, numericEq, zero, signedZero, isZero]
  | false =>
      have hsign : 0 < rank ∨ rank = 0 := (Nat.eq_zero_or_pos rank).symm
      simpa [le, lt, numericEq, zero, signedZero, isZero, Fin.lt_def] using hsign

/-- A whole number above zero has a double above zero. -/
theorem ofInt?_pos {n : Int} {x : Binary64} (h : ofInt? n = some x) (hn : 0 < n) :
    x.le .zero = false := by
  obtain ⟨r, rfl, hr⟩ := ofInt?_eq_some h
  rw [← zero_lt_iff_of_finite rfl, decide_eq_false (by omega)]
  have hpos : 0 < r.val := hr (by omega)
  exact decide_eq_true hpos

/-- A whole number that is not below zero has a double that is not below zero. -/
theorem ofInt?_nonneg {n : Int} {x : Binary64} (h : ofInt? n = some x) (hn : 0 ≤ n) :
    x.lt .zero = false := by
  obtain ⟨r, rfl, -⟩ := ofInt?_eq_some h
  rw [decide_eq_false (by omega)]
  exact decide_eq_false (Nat.not_lt_zero r.val)

end PageBuilder.Binary64
