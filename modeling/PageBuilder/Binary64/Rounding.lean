import PageBuilder.Binary64.Basic

/-! # Rounding to double precision

`nearestRank num den` is the rank nearest to `num / den` units, ties to the even rank. Significands
of scale `s` start at rank `s * 2 ^ 52 + 2 ^ 52`, so a significand that rounds up to the next power
of two lands on the right rank without a further case.

Arithmetic computes the exact result in units and rounds it once. -/

namespace PageBuilder.Binary64

/-- The integer nearest to `num / den`, a tie going to the even neighbour. -/
def roundHalfEven (num den : Nat) : Nat :=
  let q := num / den
  let r := num % den
  if 2 * r < den then q
  else if den < 2 * r then q + 1
  else q + q % 2

/-- The rank nearest to `num / den` units. -/
def nearestRank (num den : Nat) : Nat :=
  let s := (num / den).log2 - 52
  s * Nat.pow 2 52 + roundHalfEven num (den * Nat.pow 2 s)

/-- The number of the given rank, infinite past the largest finite magnitude. -/
def ofRank (negative : Bool) (rank : Nat) : Binary64 :=
  if h : rank < 2047 * Nat.pow 2 52 then .finite negative ⟨rank, h⟩ else .infinite negative

/-- The number nearest to `num / den` units. -/
def ofUnits (negative : Bool) (num den : Nat) : Binary64 :=
  ofRank negative (nearestRank num den)

/-- The number nearest to an integer. -/
def ofInt (n : Int) : Binary64 :=
  ofUnits (n < 0) (n.natAbs * unitsInOne) 1

/-- The number if it is finite. -/
def finite? : Binary64 → Option Binary64
  | .finite s r => some (.finite s r)
  | _ => none

/-- The number nearest to an integer, unless it is too large for a finite number. -/
def ofInt? (n : Int) : Option Binary64 :=
  (ofInt n).finite?

/-- The number nearest to the signed count `n` of units; zero takes the given sign. -/
def ofSignedUnits (zeroNegative : Bool) (n : Int) : Binary64 :=
  ofUnits (if n = 0 then zeroNegative else n < 0) n.natAbs 1

def add : Binary64 → Binary64 → Binary64
  | .nan, _ => .nan
  | _, .nan => .nan
  | .infinite s, .infinite t => if s = t then .infinite s else .nan
  | .infinite s, .finite _ _ => .infinite s
  | .finite _ _, .infinite t => .infinite t
  | .finite s a, .finite t b =>
    let signed (negative : Bool) (r : Nat) : Int := if negative then -(units r : Int) else units r
    ofSignedUnits (s && t) (signed s a + signed t b)

def sub (x y : Binary64) : Binary64 :=
  add x (-y)

def mul : Binary64 → Binary64 → Binary64
  | .nan, _ => .nan
  | _, .nan => .nan
  | .infinite s, y => if y.isZero then .nan else .infinite (s != y.isNegative)
  | x, .infinite t => if x.isZero then .nan else .infinite (x.isNegative != t)
  | .finite s a, .finite t b => ofUnits (s != t) (units a * units b) unitsInOne

/-- The quotient; a zero divisor gives an infinity or `nan`. -/
def div : Binary64 → Binary64 → Binary64
  | .nan, _ => .nan
  | _, .nan => .nan
  | .infinite _, .infinite _ => .nan
  | .infinite s, .finite t _ => .infinite (s != t)
  | .finite s _, .infinite t => signedZero (s != t)
  | .finite s a, .finite t b =>
    if b.val = 0 then
      if a.val = 0 then .nan else .infinite (s != t)
    else ofUnits (s != t) (units a * unitsInOne) (units b)

/-- The part after the point, counted up from the next lower integer. -/
def fractionalPart : Binary64 → Binary64
  | .finite s r =>
    let below := units r % unitsInOne
    ofUnits false (if s && below != 0 then unitsInOne - below else below) 1
  | _ => .nan

instance : Add Binary64 := ⟨add⟩
instance : Sub Binary64 := ⟨sub⟩
instance : Mul Binary64 := ⟨mul⟩
instance : Div Binary64 := ⟨div⟩

end PageBuilder.Binary64
