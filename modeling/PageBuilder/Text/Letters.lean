/-! # Letter case

Capital and small forms, as far as they are Latin letters: every character whose capital form
consists of the letters `A` to `Z`, and every character whose small form is a letter `a` to `z`.
All other characters are kept, so a text can be compared with a word in Latin letters. -/

namespace PageBuilder.Text

/-- The capital form of a character, several letters for a ligature. -/
def capital (c : Char) : List Char :=
  match c with
  | 'ß' => ['S', 'S']
  | 'ı' => ['I']
  | 'ſ' => ['S']
  | 'ﬀ' => ['F', 'F']
  | 'ﬁ' => ['F', 'I']
  | 'ﬂ' => ['F', 'L']
  | 'ﬃ' => ['F', 'F', 'I']
  | 'ﬄ' => ['F', 'F', 'L']
  | 'ﬅ' => ['S', 'T']
  | 'ﬆ' => ['S', 'T']
  | c => [c.toUpper]

/-- Text in capital letters. -/
def capitals (s : String) : String :=
  String.ofList (s.toList.flatMap capital)

/-- The small form of a character; the sign for kelvin is a capital K. -/
def small (c : Char) : Char :=
  if c = '\u212A' then 'k' else c.toLower

/-- The value of a hexadecimal digit. -/
def hexValue? (c : Char) : Option Nat :=
  if '0' ≤ c ∧ c ≤ '9' then some (c.toNat - 48)
  else if 'a' ≤ c ∧ c ≤ 'f' then some (c.toNat - 87)
  else if 'A' ≤ c ∧ c ≤ 'F' then some (c.toNat - 55)
  else none

/-- A hexadecimal digit, in either case. -/
def isHexDigit (c : Char) : Bool :=
  (hexValue? c).isSome

/-- The value of a run of hexadecimal digits. -/
def hexNumber (digits : List Char) : Nat :=
  digits.foldl (fun n c => 16 * n + (hexValue? c).getD 0) 0

/-- The digit of a value below sixteen, in small letters. -/
def hexDigit (n : Nat) : Char :=
  if n < 10 then Char.ofNat (48 + n) else Char.ofNat (87 + n)

/-- The last `width` hexadecimal digits of a number. -/
def hexDigits : Nat → Nat → List Char
  | 0, _ => []
  | width + 1, n => hexDigits width (n / 16) ++ [hexDigit (n % 16)]

end PageBuilder.Text
