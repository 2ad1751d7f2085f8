import PageBuilder.Text.Blank
import PageBuilder.Text.DecimalDigit

/-! # Integers in text

An integer may have white space around it, a sign in front and single low lines between its digits,
which may be of any script. -/

namespace PageBuilder.Text

/-- White space around a number: the separators U+001C to U+001F do not count. -/
def isNumberBlank (c : Char) : Bool :=
  isBlank c && !('\x1c' ≤ c && c ≤ '\x1f')

/-- The text without white space around a number. -/
def stripNumber (cs : List Char) : List Char :=
  ((cs.dropWhile isNumberBlank).reverse.dropWhile isNumberBlank).reverse

/-- Digits with single low lines between them. -/
def isGrouped (isDigit : Char → Bool) : List Char → Bool
  | [] => false
  | [d] => isDigit d
  | d :: '_' :: rest => isDigit d && isGrouped isDigit rest
  | d :: rest => isDigit d && isGrouped isDigit rest

/-- Read a decimal integer. -/
def integer? (s : String) : Option Int :=
  let (negative, digits) := match stripNumber s.toList with
    | '-' :: rest => (true, rest)
    | '+' :: rest => (false, rest)
    | rest => (false, rest)
  if isGrouped isDecimalDigit digits then
    let n : Int := decimalValue (digits.filter (· != '_'))
    some (if negative then -n else n)
  else none

end PageBuilder.Text
