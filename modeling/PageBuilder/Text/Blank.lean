import PageBuilder.Text.CharRange

/-! # White space

The white space characters of Unicode, and text without white space at its ends. -/

namespace PageBuilder.Text

/-- The ranges of white space characters. -/
def blankRanges : List CharRange := [
  (0x9, 0xD), (0x1C, 0x20), (0x85, 0x85), (0xA0, 0xA0), (0x1680, 0x1680), (0x2000, 0x200A),
  (0x2028, 0x2029), (0x202F, 0x202F), (0x205F, 0x205F), (0x3000, 0x3000)]

/-- A white space character. -/
def isBlank (c : Char) : Bool :=
  inRanges blankRanges c

/-- Remove white space from both ends. -/
def stripChars (cs : List Char) : List Char :=
  ((cs.dropWhile isBlank).reverse.dropWhile isBlank).reverse

/-- Remove white space from both ends. -/
def strip (s : String) : String :=
  String.ofList (stripChars s.toList)

/-- Text of white space only; the empty text is blank. -/
def blank (s : String) : Bool :=
  s.toList.all isBlank

theorem ne_empty_of_not_blank {s : String} (h : blank s = false) : s ≠ "" := by
  rintro rfl
  cases h

end PageBuilder.Text
