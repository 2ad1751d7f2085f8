/-! # Double precision numbers

A finite double is a sign and a rank: the number of doubles of smaller magnitude and the same
sign. Every finite double is a whole number of units of `2 ^ -1074`, and `units` reads that number
off the rank, so arithmetic on doubles is arithmetic on naturals followed by one rounding.

## Implementation notes

There is one value `nan`, so equality of values is equality of what can be observed of them.
Comparison of numbers is `lt` and `le`; both are false as soon as a side is not a number. -/

namespace PageBuilder

/-- A double precision number. -/
inductive Binary64 where
  | nan
  | infinite (negative : Bool)
  | finite (negative : Bool) (rank : Fin (2047 * Nat.pow 2 52))
  deriving DecidableEq, Repr

namespace Binary64

/-- The power of two by which the significand of a rank is scaled. -/
def scale (rank : Nat) : Nat :=
  rank / Nat.pow 2 52 - 1

/-- The magnitude of the given rank, in units of `2 ^ -1074`. -/
def units (rank : Nat) : Nat :=
  (rank - scale rank * Nat.pow 2 52) * Nat.pow 2 (scale rank)

/-- The number of units in one. -/
def unitsInOne : Nat :=
  Nat.pow 2 1074

/-- Zero of either sign. -/
def signedZero (negative : Bool) : Binary64 :=
  .finite negative ⟨0, by decide⟩

def zero : Binary64 :=
  signedZero false

instance : Inhabited Binary64 := ⟨zero⟩

def neg : Binary64 → Binary64
  | .nan => .nan
  | .infinite s => .infinite (!s)
  | .finite s r => .finite (!s) r

instance : Neg Binary64 := ⟨neg⟩

/-- The sign flag of a number; `nan` counts as positive. -/
def isNegative : Binary64 → Bool
  | .nan => false
  | .infinite s => s
  | .finite s _ => s

/-- A finite number as a signed count of units. -/
def signedUnits? : Binary64 → Option Int
  | .finite s r => some (if s then -(units r : Int) else units r)
  | _ => none

def isZero : Binary64 → Bool
  | .finite _ r => r.val == 0
  | _ => false

/-- Comparison of numbers; the two zeros are not below each other. -/
def lt : Binary64 → Binary64 → Bool
  | .nan, _ => false
  | _, .nan => false
  | .infinite s, .infinite t => s && !t
  | .infinite s, .finite _ _ => s
  | .finite _ _, .infinite t => !t
  | .finite s a, .finite t b =>
    match s, t with
    | false, false => a < b
    | true, true => b < a
    | true, false => !(a.val == 0 && b.val == 0)
    | false, true => false

/-- Equality of numbers: the zeros agree and `nan` agrees with nothing. -/
def numericEq : Binary64 → Binary64 → Bool
  | .nan, _ => false
  | x, y => x == y || (x.isZero && y.isZero)

def le (x y : Binary64) : Bool :=
  x.lt y || x.numericEq y

/-- Why a number has no integer part. -/
inductive NoInteger where
  | infinite
  | notANumber
  deriving DecidableEq, Repr

/-- The integer part, rounded toward zero. -/
def truncate : Binary64 → Except NoInteger Int
  | .nan => .error .notANumber
  | .infinite _ => .error .infinite
  | .finite s r =>
    let whole := units r / unitsInOne
    .ok (if s then -(whole : Int) else whole)

end Binary64

end PageBuilder
