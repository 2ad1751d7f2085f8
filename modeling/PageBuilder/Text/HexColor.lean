import PageBuilder.Text.Letters

/-! # Hexadecimal colors

The colors of settings: a hash and six hexadecimal digits, or eight with transparency. One new line
after the digits is accepted. -/

namespace PageBuilder.Text

/-- The text without one new line at its end. -/
def dropFinalNewline (cs : List Char) : List Char :=
  if cs.getLast? = some '\n' then cs.dropLast else cs

/-- A hash and six or eight hexadecimal digits. -/
def isHexColor (s : String) : Bool :=
  match dropFinalNewline s.toList with
  | '#' :: digits => digits.all isHexDigit && (digits.length == 6 || digits.length == 8)
  | _ => false

end PageBuilder.Text
