import Mathlib.Data.List.TakeDrop
import PageBuilder.Json.Parser
import PageBuilder.Proofs.ShortestDecimal

/-! # Numbers in document text

A number is read up to the first character that cannot continue it, and what was written for a whole
number or a double reads back as it. -/

namespace PageBuilder.Json

/-- The text does not start with a character that continues a number. -/
def NumberEnds (rest : List Char) : Prop :=
  ∀ c ∈ rest.head?, c.isDigit = false ∧ c ≠ '.' ∧ c ≠ 'e' ∧ c ≠ 'E'

theorem NumberEnds.nil : NumberEnds [] := by
  intro c hc
  cases hc

theorem NumberEnds.cons {c : Char} (hdigit : c.isDigit = false) (hpoint : c ≠ '.')
    (hsmall : c ≠ 'e') (hcapital : c ≠ 'E') (rest : List Char) : NumberEnds (c :: rest) := by
  intro d hd
  cases hd
  exact ⟨hdigit, hpoint, hsmall, hcapital⟩

/-! ### The parts of a number -/

theorem splitDigits_append {ds rest : List Char} (hds : ∀ c ∈ ds, c.isDigit)
    (hrest : ∀ c ∈ rest.head?, c.isDigit = false) : splitDigits (ds ++ rest) = (ds, rest) := by
  have hstop : rest.takeWhile Char.isDigit = [] ∧ rest.dropWhile Char.isDigit = rest := by
    cases rest with
    | nil => exact ⟨rfl, rfl⟩
    | cons c rest => simp [hrest c rfl]
  rw [splitDigits, List.span_eq_takeWhile_dropWhile, List.takeWhile_append_of_pos hds,
    List.dropWhile_append_of_pos hds, hstop.1, hstop.2, List.append_nil]

theorem splitWhole_zero (rest : List Char) : splitWhole ('0' :: rest) = some (['0'], rest) := rfl

theorem splitWhole_append {ds rest : List Char} (hds : Numeral.Leading ds)
    (hrest : ∀ c ∈ rest.head?, c.isDigit = false) : splitWhole (ds ++ rest) = some (ds, rest) := by
  have hsplit := splitDigits_append hds.isDigit hrest
  cases ds with
  | nil => exact absurd rfl hds.ne_nil
  | cons c ds =>
      have hc : c ≠ '0' := fun h => hds.head?_ne_zero (by rw [h]; rfl)
      have hdigit : c.isDigit := hds.isDigit c List.mem_cons_self
      rw [List.cons_append] at hsplit ⊢
      unfold splitWhole
      split
      · next h => exact absurd (List.cons.inj h).1 hc
      · next h =>
        cases h
        rw [if_pos hdigit, hsplit]
      · contradiction

theorem splitFraction_point {ds rest : List Char} (hne : ds ≠ []) (hds : ∀ c ∈ ds, c.isDigit)
    (hrest : ∀ c ∈ rest.head?, c.isDigit = false) :
    splitFraction ('.' :: (ds ++ rest)) = (ds, rest) := by
  have hsplit := splitDigits_append hds hrest
  cases ds with
  | nil => exact absurd rfl hne
  | cons d ds => simp only [splitFraction, hsplit]

theorem splitFraction_of_ne {rest : List Char} (h : rest.head? ≠ some '.') :
    splitFraction rest = ([], rest) := by
  unfold splitFraction
  split
  · exact absurd rfl h
  · rfl

/-- The sign of an exponent. -/
def exponentSign (negative : Bool) : Char :=
  if negative then '-' else '+'

theorem splitExponent_sign (negative : Bool) {ds rest : List Char} (hne : ds ≠ [])
    (hds : ∀ c ∈ ds, c.isDigit) (hrest : ∀ c ∈ rest.head?, c.isDigit = false) :
    splitExponent ('e' :: exponentSign negative :: (ds ++ rest)) =
      (some (if negative then -(Numeral.value ds : Int) else Numeral.value ds), rest) := by
  have hsplit := splitDigits_append hds hrest
  cases ds with
  | nil => exact absurd rfl hne
  | cons d ds =>
      rw [List.cons_append] at hsplit
      cases negative <;> simp [splitExponent, exponentSign, hsplit]

theorem splitExponent_of_ends {rest : List Char} (h : NumberEnds rest) :
    splitExponent rest = (none, rest) := by
  cases rest with
  | nil => rfl
  | cons c rest =>
      obtain ⟨-, -, hsmall, hcapital⟩ := h c rfl
      simp [splitExponent, hsmall, hcapital]

theorem NumberEnds.not_isDigit {rest : List Char} (h : NumberEnds rest) :
    ∀ c ∈ rest.head?, c.isDigit = false :=
  fun c hc => (h c hc).1

theorem NumberEnds.head?_ne_point {rest : List Char} (h : NumberEnds rest) :
    rest.head? ≠ some '.' :=
  fun hpoint => (h '.' hpoint).2.1 rfl

/-! ### Whole numbers -/

theorem readMagnitude_whole [Limits] (negative : Bool) {cs whole rest : List Char}
    (hwhole : splitWhole cs = some (whole, rest)) (hrest : NumberEnds rest)
    (hlong : tooLong whole.length = false) :
    readMagnitude negative cs =
      .ok (.int (if negative then -(Numeral.value whole : Int) else Numeral.value whole),
        rest) := by
  have hfraction := splitFraction_of_ne hrest.head?_ne_point
  simp [readMagnitude, hwhole, hfraction, splitExponent_of_ends hrest, hlong]

theorem splitWhole_ofNat (n : Nat) {rest : List Char} (hrest : NumberEnds rest) :
    splitWhole (Numeral.ofNat n ++ rest) = some (Numeral.ofNat n, rest) := by
  by_cases hn : 0 < n
  · exact splitWhole_append (.ofNat hn) hrest.not_isDigit
  · rw [Nat.eq_zero_of_not_pos hn]
    rfl

variable [Limits]

theorem readMagnitude_ofNat (negative : Bool) (n : Nat) {rest : List Char}
    (hrest : NumberEnds rest) (hlong : tooLong (Numeral.ofNat n).length = false) :
    readMagnitude negative (Numeral.ofNat n ++ rest) =
      .ok (.int (if negative then -(n : Int) else n), rest) := by
  rw [readMagnitude_whole negative (splitWhole_ofNat n hrest) hrest hlong, Numeral.value_ofNat]

/-! ### Doubles -/

/-- A number with a fraction or an exponent is the double nearest to its decimal. -/
theorem readMagnitude_double (negative : Bool)
    {cs whole afterWhole fraction afterFraction rest : List Char} {exponent : Option Int}
    (hwhole : splitWhole cs = some (whole, afterWhole))
    (hfraction : splitFraction afterWhole = (fraction, afterFraction))
    (hexponent : splitExponent afterFraction = (exponent, rest))
    (hdouble : fraction ≠ [] ∨ exponent ≠ none) :
    readMagnitude negative cs =
      .ok (.float (Binary64.ofDecimal negative
        ⟨Numeral.value (whole ++ fraction), exponent.getD 0 - fraction.length⟩), rest) := by
  have hkind : (fraction.isEmpty && exponent.isNone) = false := by
    rcases hdouble with h | h
    · rw [List.isEmpty_eq_false_iff.mpr h, Bool.false_and]
    · rw [Option.isNone_eq_false_iff.mpr (Option.isSome_iff_ne_none.mpr h), Bool.and_false]
  simp only [readMagnitude, hwhole, hfraction, hexponent, hkind, Bool.false_eq_true, if_false]

end PageBuilder.Json
