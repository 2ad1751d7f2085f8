import PageBuilder.Numeral
import PageBuilder.Binary64.Rounding

/-! # Doubles in decimal

`ofDecimal` reads `digits * 10 ^ exponent` and rounds once. `shortest` chooses the decimal that a
double is written with: on the coarsest grid of significant digits on which a neighbour of the
double reads back, the nearer neighbour that does, a tie going to the even last digit. -/

namespace PageBuilder

/-- The number `digits * 10 ^ exponent`. -/
structure Decimal where
  digits : Nat
  exponent : Int
  deriving DecidableEq, Repr

namespace Decimal

/-- Magnitudes from `10 ^ 400` on are beyond every finite double. -/
def tooLarge (d : Decimal) : Bool :=
  d.digits != 0 && 400 < d.exponent + (Numeral.ofNat d.digits).length

/-- Magnitudes below `10 ^ -400` round to zero. -/
def tooSmall (d : Decimal) : Bool :=
  d.digits == 0 || d.exponent + (Numeral.ofNat d.digits).length < -400

/-- A decimal as a count of units, numerator and denominator. -/
def toUnits (d : Decimal) : Nat × Nat :=
  match d.exponent with
  | .ofNat e => (d.digits * Nat.pow 10 e * Binary64.unitsInOne, 1)
  | .negSucc e => (d.digits * Binary64.unitsInOne, Nat.pow 10 (e + 1))

end Decimal

namespace Binary64

/-- The rank nearest to a decimal, or nothing if the decimal is far out of range. -/
def rankOfDecimal (d : Decimal) : Option Nat :=
  if d.tooSmall then some 0
  else if d.tooLarge then none
  else some (nearestRank d.toUnits.1 d.toUnits.2)

/-- The double nearest to a decimal. -/
def ofDecimal (negative : Bool) (d : Decimal) : Binary64 :=
  match rankOfDecimal d with
  | some r => ofRank negative r
  | none => .infinite negative

/-- The decimal reads back as the given rank. -/
def readsBack (rank : Nat) (d : Decimal) : Bool :=
  rankOfDecimal d == some rank

/-- The exponent of the grid on which the magnitude `units rank` has one digit before the point:
the largest `e` with `10 ^ e ≤ magnitude`. -/
def leadingExponent (rank : Nat) : Int :=
  let u := units rank
  if unitsInOne ≤ u then ((Numeral.ofNat (u / unitsInOne)).length : Int) - 1
  else
    let inverse := (Numeral.ofNat (unitsInOne / u)).length
    if unitsInOne ≤ u * Nat.pow 10 (inverse - 1) then -((inverse : Int) - 1) else -(inverse : Int)

/-- The magnitude of a rank in steps of `10 ^ exponent`, numerator and denominator. -/
def inSteps (rank : Nat) (exponent : Int) : Nat × Nat :=
  match exponent with
  | .ofNat e => (units rank, unitsInOne * Nat.pow 10 e)
  | .negSucc e => (units rank * Nat.pow 10 (e + 1), unitsInOne)

/-- The candidates for a rank on the grid of step `10 ^ exponent`, the nearer one first. -/
def gridNeighbours (rank : Nat) (exponent : Int) : List Decimal :=
  let (num, den) := inSteps rank exponent
  let low := num / den
  let near := roundHalfEven num den
  let far := if near = low then low + 1 else low
  [⟨near, exponent⟩, ⟨far, exponent⟩]

/-- The digits of one unit, which takes 1074 places after the point. -/
def unitDigits : Nat :=
  Nat.pow 5 1074

/-- Every digit of a magnitude. -/
def exactDecimal (rank : Nat) : Decimal :=
  ⟨units rank * unitDigits, -1074⟩

/-- The shortest decimal that reads back as the given rank. -/
def shortest (rank : Nat) : Decimal :=
  let lead := leadingExponent rank
  let candidates := (List.range 17).flatMap fun (k : Nat) => gridNeighbours rank (lead - k)
  (candidates.find? (readsBack rank)).getD (exactDecimal rank)

theorem readsBack_shortest_or_exact (rank : Nat) :
    readsBack rank (shortest rank) ∨ shortest rank = exactDecimal rank := by
  simp only [shortest]
  cases h : List.find? (readsBack rank) _ with
  | none => exact .inr rfl
  | some d => exact .inl (List.find?_some h)

end Binary64

end PageBuilder
