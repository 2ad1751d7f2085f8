import PageBuilder.Binary64.Decimal
import PageBuilder.Json.Basic
import PageBuilder.Json.Limits
import PageBuilder.Text.Letters
import PageBuilder.Text.Start

/-! # Reading document text

A strict reader. Beyond the standard grammar it accepts the words `NaN`, `Infinity` and
`-Infinity`; of two fields with one key the later value takes the place of the earlier field. The
first fault met from the left is reported, unless a limit of the reader is met before it.

## Implementation notes

The mutual readers recurse on fuel. Each step either consumes a character or opens the reading of a
value, so twice the length of the text is enough. -/

namespace PageBuilder.Json

/-- What is wrong with a text. -/
inductive Fault where
  | byteOrderMark
  | expectingValue
  | expectingName
  | expectingColon
  | expectingComma
  | extraData
  | unterminatedText
  | controlCharacter
  | escape
  | unicodeEscape
  deriving DecidableEq, Repr

def Fault.message : Fault → String
  | .byteOrderMark => "Unexpected UTF-8 BOM (decode using utf-8-sig)"
  | .expectingValue => "Expecting value"
  | .expectingName => "Expecting property name enclosed in double quotes"
  | .expectingColon => "Expecting ':' delimiter"
  | .expectingComma => "Expecting ',' delimiter"
  | .extraData => "Extra data"
  | .unterminatedText => "Unterminated string starting at"
  | .controlCharacter => "Invalid control character at"
  | .escape => "Invalid \\escape"
  | .unicodeEscape => "Invalid \\uXXXX escape"

/-- White space between tokens. -/
def isSpace (c : Char) : Bool :=
  c == ' ' || c == '\t' || c == '\n' || c == '\r'

def skipSpace (cs : List Char) : List Char :=
  cs.dropWhile isSpace

theorem skipSpace_append {ws : List Char} (hws : ∀ c ∈ ws, isSpace c) (rest : List Char) :
    skipSpace (ws ++ rest) = skipSpace rest :=
  List.dropWhile_append_of_pos hws

theorem skipSpace_cons {c : Char} (hc : isSpace c = false) (rest : List Char) :
    skipSpace (c :: rest) = c :: rest := by
  simp [skipSpace, hc]

/-- The character of an escape with one letter. -/
def simpleEscape? (c : Char) : Option Char :=
  if c = '"' || c = '\\' || c = '/' then some c
  else if c = 'b' then some '\x08'
  else if c = 'f' then some '\x0c'
  else if c = 'n' then some '\n'
  else if c = 'r' then some '\r'
  else if c = 't' then some '\t'
  else none

/-- The code unit of four hexadecimal digits. -/
def codeUnit? (digits : List Char) : Option Nat :=
  if digits.all Text.isHexDigit then some (Text.hexNumber digits) else none

def isHighSurrogate (unit : Nat) : Bool :=
  0xD800 ≤ unit && unit < 0xDC00

def isLowSurrogate (unit : Nat) : Bool :=
  0xDC00 ≤ unit && unit < 0xE000

/-- The character of a code unit; half of a pair alone stands for no character. -/
def unitChar (unit : Nat) : Char :=
  if 0xD800 ≤ unit && unit < 0xE000 then '\uFFFD' else Char.ofNat unit

/-- The character of a pair of code units. -/
def pairChar (high low : Nat) : Char :=
  Char.ofNat (0x10000 + (high - 0xD800) * 0x400 + (low - 0xDC00))

/-- Read the code units after a backslash and the letter `u`. A second escape is read with the
first one if the first is the first half of a pair and a character follows both. -/
def readUnits : List Char → Except Fault (Char × List Char)
  | a :: b :: c :: d :: e :: rest =>
    match codeUnit? [a, b, c, d] with
    | none => .error .unicodeEscape
    | some unit =>
      if isHighSurrogate unit then
        match e :: rest with
        | '\\' :: 'u' :: a' :: b' :: c' :: d' :: e' :: rest' =>
          match codeUnit? [a', b', c', d'] with
          | none => .error .unicodeEscape
          | some low =>
            if isLowSurrogate low then .ok (pairChar unit low, e' :: rest')
            else .ok (unitChar unit, e :: rest)
        | _ => .ok (unitChar unit, e :: rest)
      else .ok (unitChar unit, e :: rest)
  | _ => .error .unicodeEscape

/-- Read the rest of a quoted text of at most `fuel` characters. -/
def readText : Nat → List Char → Except Fault (List Char × List Char)
  | 0, _ => .error .unterminatedText
  | _, [] => .error .unterminatedText
  | fuel + 1, c :: rest =>
    if c = '"' then .ok ([], rest)
    else if c = '\\' then
      match rest with
      | [] => .error .unterminatedText
      | 'u' :: digits =>
        match readUnits digits with
        | .error e => .error e
        | .ok (d, after) => (readText fuel after).map fun r => (d :: r.1, r.2)
      | letter :: after =>
        match simpleEscape? letter with
        | none => .error .escape
        | some d => (readText fuel after).map fun r => (d :: r.1, r.2)
    else if c.toNat < 0x20 then .error .controlCharacter
    else (readText fuel rest).map fun r => (c :: r.1, r.2)

/-- Read a quoted text after its first quote. -/
def readString (cs : List Char) : Except Fault (String × List Char) :=
  (readText (cs.length + 1) cs).map fun r => (String.ofList r.1, r.2)

/-- A digit run at the start of a text, and the rest. -/
def splitDigits (cs : List Char) : List Char × List Char :=
  cs.span Char.isDigit

/-- The whole part of a number: a zero, or digits that do not start with one. -/
def splitWhole : List Char → Option (List Char × List Char)
  | '0' :: rest => some (['0'], rest)
  | c :: rest => if c.isDigit then some (splitDigits (c :: rest)) else none
  | [] => none

/-- The digits after a point, if there are any. -/
def splitFraction : List Char → List Char × List Char
  | '.' :: rest =>
    match splitDigits rest with
    | ([], _) => ([], '.' :: rest)
    | (digits, after) => (digits, after)
  | cs => ([], cs)

/-- The exponent after an `e`, if it has digits. -/
def splitExponent (cs : List Char) : Option Int × List Char :=
  match cs with
  | [] => (none, cs)
  | e :: rest =>
    if e = 'e' || e = 'E' then
      let (negative, unsigned) := match rest with
        | '-' :: more => (true, more)
        | '+' :: more => (false, more)
        | more => (false, more)
      match splitDigits unsigned with
      | ([], _) => (none, cs)
      | (digits, after) =>
        let n : Int := Numeral.value digits
        (some (if negative then -n else n), after)
    else (none, cs)

variable [Limits]

/-- Read an unsigned number: a double if it has a fraction or an exponent. -/
def readMagnitude (negative : Bool) (cs : List Char) : Except (Halt Fault) (Json × List Char) :=
  match splitWhole cs with
  | none => .error (.fault .expectingValue)
  | some (whole, afterWhole) =>
    let (fraction, afterFraction) := splitFraction afterWhole
    let (exponent, rest) := splitExponent afterFraction
    if fraction.isEmpty && exponent.isNone then
      if tooLong whole.length then .error (.overrun .digits)
      else
        let n : Int := Numeral.value whole
        .ok (.int (if negative then -n else n), rest)
    else
      let d : Decimal := ⟨Numeral.value (whole ++ fraction), exponent.getD 0 - fraction.length⟩
      .ok (.float (Binary64.ofDecimal negative d), rest)

/-- The words that are values. -/
def words : List (List Char × Json) := [
  ("null".toList, .null), ("true".toList, .bool true), ("false".toList, .bool false),
  ("NaN".toList, .float .nan), ("Infinity".toList, .float (.infinite false)),
  ("-Infinity".toList, .float (.infinite true))]

/-- Read a word or a number. -/
def readScalar (cs : List Char) : Except (Halt Fault) (Json × List Char) :=
  match words.findSome? fun w => (Text.afterChars? w.1 cs).map fun rest => (w.2, rest) with
  | some r => .ok r
  | none =>
    match cs with
    | '-' :: rest => readMagnitude true rest
    | _ => readMagnitude false cs

mutual

/-- Read a value at the start of a text, inside `depth` lists and objects. -/
def readValue : Nat → Nat → List Char → Except (Halt Fault) (Json × List Char)
  | 0, _, _ => .error (.fault .expectingValue)
  | fuel + 1, depth, cs =>
    match cs with
    | '"' :: rest => ((readString rest).mapError .fault).map fun r => (.str r.1, r.2)
    | '[' :: rest =>
      if tooDeep (depth + 1) then .error (.overrun .depth)
      else
        match skipSpace rest with
        | ']' :: after => .ok (.arr [], after)
        | inside => (readItems fuel (depth + 1) inside).map fun r => (.arr r.1, r.2)
    | '{' :: rest =>
      if tooDeep (depth + 1) then .error (.overrun .depth)
      else
        match skipSpace rest with
        | '}' :: after => .ok (.obj [], after)
        | inside => (readFields fuel (depth + 1) [] inside).map fun r => (.obj r.1, r.2)
    | _ => readScalar cs

/-- Read the items of a list up to its closing bracket. -/
def readItems : Nat → Nat → List Char → Except (Halt Fault) (List Json × List Char)
  | 0, _, _ => .error (.fault .expectingValue)
  | fuel + 1, depth, cs =>
    match readValue fuel depth cs with
    | .error e => .error e
    | .ok (v, rest) =>
      match skipSpace rest with
      | ']' :: after => .ok ([v], after)
      | ',' :: after => (readItems fuel depth (skipSpace after)).map fun r => (v :: r.1, r.2)
      | _ => .error (.fault .expectingComma)

/-- Read the fields of an object up to its closing brace, after the fields `acc`. -/
def readFields : Nat → Nat → Fields → List Char → Except (Halt Fault) (Fields × List Char)
  | 0, _, _, _ => .error (.fault .expectingValue)
  | fuel + 1, depth, acc, cs =>
    match cs with
    | '"' :: rest =>
      match readString rest with
      | .error e => .error (.fault e)
      | .ok (key, afterKey) =>
        match skipSpace afterKey with
        | ':' :: afterColon =>
          match readValue fuel depth (skipSpace afterColon) with
          | .error e => .error e
          | .ok (v, afterValue) =>
            let acc := Fields.set acc key v
            match skipSpace afterValue with
            | '}' :: after => .ok (acc, after)
            | ',' :: after => readFields fuel depth acc (skipSpace after)
            | _ => .error (.fault .expectingComma)
        | _ => .error (.fault .expectingColon)
    | _ => .error (.fault .expectingName)

end

/-- Read a whole text as one value. -/
def parseChars (cs : List Char) : Except (Halt Fault) Json :=
  if cs.head? = some '\uFEFF' then .error (.fault .byteOrderMark)
  else
    match readValue (2 * cs.length + 2) 0 (skipSpace cs) with
    | .error e => .error e
    | .ok (v, rest) => if (skipSpace rest).isEmpty then .ok v else .error (.fault .extraData)

/-- Read a whole text as one value. -/
def parse (s : String) : Except (Halt Fault) Json :=
  parseChars s.toList

end PageBuilder.Json
