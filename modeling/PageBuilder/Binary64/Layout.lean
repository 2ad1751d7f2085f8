import PageBuilder.Binary64.Decimal

/-! # The written form of doubles

A layout says when the digits of a double are written around a point and when with an exponent,
and how the values without digits are spelled. -/

namespace PageBuilder.Binary64

/-- The choices of a written form. The exponent of a number is that of its first digit. -/
structure Layout where
  /-- The least exponent written without an exponent part. -/
  positionalFrom : Int
  /-- The least exponent past those written without an exponent part. -/
  positionalBelow : Int
  exponentDigits : Nat
  nan : String
  infinity : String

/-- Numbers in text: `nan` and `inf` are words. -/
def Layout.plain : Layout := ⟨-4, 16, 2, "nan", "inf"⟩

/-- Numbers in documents: the same digits, with the document words for the special values. -/
def Layout.document : Layout := { Layout.plain with nan := "NaN", infinity := "Infinity" }

/-- Remove the zeros at the end of a run of digits. -/
def dropTrailingZeros (digits : List Char) : List Char :=
  (digits.reverse.dropWhile (· == '0')).reverse

/-- Digits around a point that stands after `before` of them. -/
def positional (digits : List Char) (before : Int) : List Char :=
  if before ≤ 0 then '0' :: '.' :: (List.replicate before.natAbs '0' ++ digits)
  else
    let whole := digits.take before.toNat
    let rest := digits.drop before.toNat
    let fraction := if rest.isEmpty then ['0'] else rest
    whole ++ List.replicate (before.toNat - whole.length) '0' ++ '.' :: fraction

/-- One digit before the point and an exponent with its sign. -/
def scientific (width : Nat) (digits : List Char) (exponent : Int) : List Char :=
  let mantissa := match digits with
    | [] => []
    | [d] => [d]
    | d :: ds => d :: '.' :: ds
  let power := Numeral.ofNat exponent.natAbs
  mantissa ++ 'e' :: (if exponent < 0 then '-' else '+')
    :: (List.replicate (width - power.length) '0' ++ power)

/-- The written form of a magnitude. -/
def Layout.magnitude (l : Layout) (rank : Nat) : List Char :=
  if rank = 0 then ['0', '.', '0']
  else
    let d := shortest rank
    let all := Numeral.ofNat d.digits
    let digits := dropTrailingZeros all
    let before := d.exponent + all.length
    if l.positionalFrom ≤ before - 1 ∧ before - 1 < l.positionalBelow then positional digits before
    else scientific l.exponentDigits digits (before - 1)

/-- The written form of a number. -/
def Layout.write (l : Layout) : Binary64 → List Char
  | .nan => l.nan.toList
  | .infinite s => (if s then ['-'] else []) ++ l.infinity.toList
  | .finite s r => (if s then ['-'] else []) ++ l.magnitude r

/-- A number as plain text. -/
def text (x : Binary64) : String :=
  String.ofList (Layout.plain.write x)

end PageBuilder.Binary64
