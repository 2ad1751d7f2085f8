import PageBuilder.Binary64.Decimal
import PageBuilder.Binary64.Rounding
import PageBuilder.Drawing.NamedColor
import PageBuilder.Text.Blank
import PageBuilder.Text.DecimalDigit
import PageBuilder.Text.HexColor
import PageBuilder.Text.Start

/-! # Reading colors

Colors in styles are written as names, as hexadecimal digits, or as functions of their parts, of
hue, saturation and lightness, or of hue, saturation and value. Case does not matter, and
transparency is dropped. -/

namespace PageBuilder

namespace Rgb

/-- A digit stands for itself twice. -/
def ofDigit (c : Char) : Int :=
  Text.hexNumber [c, c]

/-- The value of two digits. -/
def ofDigits (c d : Char) : Int :=
  Text.hexNumber [c, d]

/-- A color of hexadecimal digits after a hash. -/
def ofHex? (digits : List Char) : Option Rgb :=
  if digits.all Text.isHexDigit then
    match digits with
    | [r, g, b] => some ⟨ofDigit r, ofDigit g, ofDigit b⟩
    | [r, g, b, _] => some ⟨ofDigit r, ofDigit g, ofDigit b⟩
    | [r, r', g, g', b, b'] => some ⟨ofDigits r r', ofDigits g g', ofDigits b b'⟩
    | [r, r', g, g', b, b', _, _] => some ⟨ofDigits r r', ofDigits g g', ofDigits b b'⟩
    | _ => none
  else none

/-- Split a text at commas. -/
def splitCommas : List Char → List (List Char)
  | [] => [[]]
  | c :: cs =>
    match splitCommas cs with
    | [] => [[c]]
    | part :: parts => if c = ',' then [] :: part :: parts else (c :: part) :: parts

/-- The arguments between the parentheses after the name of a function, without white space around
them. -/
def arguments? (function : String) (cs : List Char) : Option (List (List Char)) :=
  match (Text.afterChars? function.toList cs).map List.reverse with
  | some (')' :: inside) => some ((splitCommas inside.reverse).map Text.stripChars)
  | _ => none

/-- A run of decimal digits. -/
def natural? (cs : List Char) : Option Nat :=
  if !cs.isEmpty && cs.all Text.isDecimalDigit then some (Text.decimalValue cs) else none

/-- A number with an optional point after its first digit. -/
def number? (cs : List Char) : Option Binary64 :=
  let whole := cs.takeWhile Text.isDecimalDigit
  match whole, cs.drop whole.length with
  | [], _ => none
  | _, [] => some (.ofDecimal false ⟨Text.decimalValue whole, 0⟩)
  | _, '.' :: fraction =>
    if fraction.all Text.isDecimalDigit then
      some (.ofDecimal false ⟨Text.decimalValue (whole ++ fraction), -(fraction.length : Int)⟩)
    else none
  | _, _ :: _ => none

/-- What stands before a percent sign. -/
def percent? (cs : List Char) : Option (List Char) :=
  if cs.getLast? = some '%' then some cs.dropLast else none

/-- The number one third. -/
def third : Binary64 := .ofInt 1 / .ofInt 3

/-- One half. -/
def half : Binary64 := .ofDecimal false ⟨5, -1⟩

/-- A part between zero and one as a part below 256, rounded. -/
def part? (x : Binary64) : Option Int :=
  (x * .ofInt 255 + half).truncate.toOption

def ofParts? (r g b : Binary64) : Option Rgb := do
  return ⟨← part? r, ← part? g, ← part? b⟩

/-- A percentage of 255, rounded. -/
def percentPart? (p : Nat) : Option Int :=
  (.ofInt (p * 255) / .ofInt 100 + half : Binary64).truncate.toOption

/-- One part of a color of hue, lightness and saturation; `low` and `high` bound the parts. -/
def huePart (low high hue : Binary64) : Binary64 :=
  let twoThirds : Binary64 := .ofInt 2 / .ofInt 3
  let angle := hue.fractionalPart
  let rise := fun (x : Binary64) => low + (high - low) * x * .ofInt 6
  if angle.lt (.ofInt 1 / .ofInt 6) then rise angle
  else if angle.lt half then high
  else if angle.lt twoThirds then rise (twoThirds - angle)
  else low

/-- The color of hue, lightness and saturation. -/
def ofHls? (hue lightness saturation : Binary64) : Option Rgb :=
  let one : Binary64 := .ofInt 1
  if saturation.isZero then ofParts? lightness lightness lightness
  else
    let high := if lightness.le half then lightness * (one + saturation)
      else lightness + saturation - lightness * saturation
    let low := .ofInt 2 * lightness - high
    let part := huePart low high
    ofParts? (part (hue + third)) (part hue) (part (hue - third))

/-- The color of hue, saturation and value. -/
def ofHsv? (hue saturation value : Binary64) : Option Rgb :=
  let one : Binary64 := .ofInt 1
  if saturation.isZero then ofParts? value value value
  else
    let sector := hue * .ofInt 6
    match sector.truncate with
    | .error _ => none
    | .ok i =>
      let f := sector - .ofInt i
      let p := value * (one - saturation)
      let q := value * (one - saturation * f)
      let t := value * (one - saturation * (one - f))
      match i.fmod 6 with
      | 0 => ofParts? value t p
      | 1 => ofParts? q value p
      | 2 => ofParts? p value t
      | 3 => ofParts? p q value
      | 4 => ofParts? t p value
      | _ => ofParts? value p q

/-- A color of three parts, given as numbers or as percentages. -/
def ofRgbArguments? : List (List Char) → Option Rgb
  | [r, g, b] =>
    match natural? r, natural? g, natural? b with
    | some r, some g, some b => some ⟨r, g, b⟩
    | _, _, _ => do
      let r ← percentPart? (← natural? (← percent? r))
      let g ← percentPart? (← natural? (← percent? g))
      let b ← percentPart? (← natural? (← percent? b))
      return ⟨r, g, b⟩
  | _ => none

/-- A color of three parts and a transparency. -/
def ofRgbaArguments? : List (List Char) → Option Rgb
  | [r, g, b, a] => do
    let _ ← natural? a
    return ⟨← natural? r, ← natural? g, ← natural? b⟩
  | _ => none

/-- A hue in degrees and two percentages, as parts of one. -/
def hueArguments? : List (List Char) → Option (Binary64 × Binary64 × Binary64)
  | [h, a, b] => do
    let h ← number? h
    let a ← number? (← percent? a)
    let b ← number? (← percent? b)
    return (h / .ofInt 360, a / .ofInt 100, b / .ofInt 100)
  | _ => none

/-- A color written as a function. -/
def ofFunction? (cs : List Char) : Option Rgb :=
  match arguments? "rgb(" cs, arguments? "rgba(" cs, arguments? "hsl(" cs with
  | some args, _, _ => ofRgbArguments? args
  | _, some args, _ => ofRgbaArguments? args
  | _, _, some args => (hueArguments? args).bind fun (h, s, l) => ofHls? h l s
  | _, _, _ =>
    ((arguments? "hsv(" cs).or (arguments? "hsb(" cs)).bind fun args =>
      (hueArguments? args).bind fun (h, s, v) => ofHsv? h s v

/-- Read a color. -/
def ofText? (s : String) : Option Rgb :=
  if 100 < s.length then none
  else
    let cs := s.toList.map Text.small
    match namedColors.lookup (String.ofList cs) with
    | some color => some color
    | none =>
      match Text.dropFinalNewline cs with
      | '#' :: digits => ofHex? digits
      | cs => ofFunction? cs

end Rgb

end PageBuilder
