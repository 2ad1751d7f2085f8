import Mathlib.Algebra.Group.Nat.Defs
import Mathlib.Data.List.Basic
import Mathlib.Data.List.TakeWhile
import PageBuilder.Binary64.Layout

/-! # Digits of numerals

A numeral of a positive number starts with a digit other than zero. Zeros at the end multiply by
powers of ten, and zeros in front change nothing. -/

namespace PageBuilder

namespace Numeral

theorem ofNat_ne_nil (n : Nat) : ofNat n ≠ [] :=
  Nat.toDigits_ne_nil

theorem length_ofNat_le_iff {n k : Nat} (hk : 0 < k) : (ofNat n).length ≤ k ↔ n < 10 ^ k :=
  Nat.length_toDigits_le_iff (by decide) hk

theorem ofNat_of_lt_ten {n : Nat} (h : n < 10) : ofNat n = [n.digitChar] :=
  Nat.toDigits_of_lt_base h

theorem ofNat_of_ten_le {n : Nat} (h : 10 ≤ n) :
    ofNat n = ofNat (n / 10) ++ [(n % 10).digitChar] :=
  Nat.toDigits_of_base_le (by decide) h

/-- The numeral of a positive number has no zero in front. -/
theorem head?_ofNat_ne_zero {n : Nat} (hn : 0 < n) : (ofNat n).head? ≠ some '0' := by
  induction n using Nat.strongRecOn with
  | ind n ih =>
      by_cases hlt : n < 10
      · have hdigit : ∀ d < 10, 0 < d → d.digitChar ≠ '0' := by decide
        rw [ofNat_of_lt_ten hlt]
        simpa using hdigit n hlt hn
      · rw [ofNat_of_ten_le (by omega), List.head?_append_of_ne_nil _ (ofNat_ne_nil (n / 10))]
        exact ih (n / 10) (by omega) (by omega)

/-- Decimal digits of which the first is not zero. -/
structure Leading (ds : List Char) : Prop where
  ne_nil : ds ≠ []
  head?_ne_zero : ds.head? ≠ some '0'
  isDigit : ∀ c ∈ ds, c.isDigit

theorem Leading.ofNat {n : Nat} (hn : 0 < n) : Leading (ofNat n) :=
  ⟨ofNat_ne_nil n, head?_ofNat_ne_zero hn, fun _ hc => isDigit_of_mem_ofNat hc⟩

/-- Leading digits stay so without the zeros at their end. -/
theorem Leading.of_append_zeros {ds : List Char} {k : Nat}
    (h : Leading (ds ++ List.replicate k '0')) : Leading ds := by
  have hne : ds ≠ [] := by
    rintro rfl
    cases k with
    | zero => exact h.ne_nil rfl
    | succ k => exact h.head?_ne_zero rfl
  refine ⟨hne, ?_, fun c hc => h.isDigit c (List.mem_append_left _ hc)⟩
  rw [← List.head?_append_of_ne_nil ds hne]
  exact h.head?_ne_zero

theorem isDigit_of_mem_zeros {k : Nat} {c : Char} (h : c ∈ List.replicate k '0') : c.isDigit := by
  rw [List.eq_of_mem_replicate h]
  rfl

theorem Leading.append_zeros {ds : List Char} (h : Leading ds) (k : Nat) :
    Leading (ds ++ List.replicate k '0') := by
  constructor
  · exact List.append_ne_nil_of_left_ne_nil h.ne_nil _
  · rw [List.head?_append_of_ne_nil ds h.ne_nil]
    exact h.head?_ne_zero
  · intro c hc
    rcases List.mem_append.mp hc with hmem | hzero
    · exact h.isDigit c hmem
    · exact isDigit_of_mem_zeros hzero

theorem Leading.take {ds : List Char} (h : Leading ds) {n : Nat} (hn : 0 < n) :
    Leading (ds.take n) := by
  have hne : ds.take n ≠ [] := by
    intro hnil
    rcases List.take_eq_nil_iff.mp hnil with hzero | hnil
    · omega
    · exact h.ne_nil hnil
  refine ⟨hne, ?_, fun c hc => h.isDigit c (List.mem_of_mem_take hc)⟩
  rw [← List.head?_append_of_ne_nil (ds.take n) hne, List.take_append_drop]
  exact h.head?_ne_zero

theorem ofNat_mul_ten {n : Nat} (hn : 0 < n) : ofNat (n * 10) = ofNat n ++ ['0'] := by
  rw [ofNat_of_ten_le (by omega), Nat.mul_div_cancel n (by decide), Nat.mul_mod_left]
  rfl

/-- A factor of a power of ten is written as zeros at the end. -/
theorem ofNat_mul_pow {n : Nat} (hn : 0 < n) (k : Nat) :
    ofNat (n * 10 ^ k) = ofNat n ++ List.replicate k '0' := by
  induction k with
  | zero => simp
  | succ k ih =>
      have hpos : 0 < n * 10 ^ k := Nat.mul_pos hn (Nat.pow_pos (by decide))
      rw [Nat.pow_succ, ← Nat.mul_assoc, ofNat_mul_ten hpos, ih, List.append_assoc,
        ← List.replicate_succ']

theorem value_append (xs ys : List Char) :
    value (xs ++ ys) = value xs * 10 ^ ys.length + value ys := by
  rw [value, Nat.ofDigitChars_append, Nat.ofDigitChars_eq_ofDigitChars_zero, Nat.mul_comm]
  rfl

theorem value_replicate_zero (k : Nat) : value (List.replicate k '0') = 0 :=
  Nat.ofDigitChars_replicate_zero

theorem value_zeros_append (k : Nat) (xs : List Char) :
    value (List.replicate k '0' ++ xs) = value xs := by
  rw [value_append, value_replicate_zero, Nat.zero_mul, Nat.zero_add]

theorem value_append_zeros (xs : List Char) (k : Nat) :
    value (xs ++ List.replicate k '0') = value xs * 10 ^ k := by
  rw [value_append, value_replicate_zero, List.length_replicate, Nat.add_zero]

end Numeral

namespace Binary64

/-- What is removed from the end is zeros. -/
theorem exists_dropTrailingZeros (digits : List Char) :
    ∃ k, digits = dropTrailingZeros digits ++ List.replicate k '0' := by
  refine ⟨(digits.reverse.takeWhile (· == '0')).length, ?_⟩
  have hzeros : digits.reverse.takeWhile (· == '0') =
      List.replicate (digits.reverse.takeWhile (· == '0')).length '0' := by
    apply List.eq_replicate_iff.mpr
    constructor
    · rfl
    · intro c hc
      have hzero := List.mem_takeWhile_imp hc
      exact beq_iff_eq.mp hzero
  have hsplit := List.takeWhile_append_dropWhile (p := (· == '0')) (l := digits.reverse)
  rw [hzeros] at hsplit
  have := congrArg List.reverse hsplit
  simpa [dropTrailingZeros] using this.symm

end Binary64

end PageBuilder
