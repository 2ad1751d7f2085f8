import PageBuilder.Binary64.Decimal
import PageBuilder.Document.Timestamp
import PageBuilder.Json.Basic
import PageBuilder.Text.Integer
import PageBuilder.Text.Letters
import PageBuilder.Text.Start

/-! # Words of settings files

Texts, numbers, dates and flags. Every reader takes the longest word of its kind from the start of a
text and gives it with the rest. A date is checked and then read as null, since no setting is a
date. -/

namespace PageBuilder.Toml

/-- A word with the text after it. -/
abbrev Read (α : Type) := Option (α × List Char)

/-- A character that may stand in comments and texts. -/
def isPlain (c : Char) : Bool :=
  c == '\t' || (0x20 ≤ c.toNat && c != '\x7f')

/-- A space or a tab. -/
def isSpace (c : Char) : Bool :=
  c == ' ' || c == '\t'

/-- A character of a bare key. -/
def isKeyChar (c : Char) : Bool :=
  c.isAlphanum || c == '-' || c == '_'

/-- The text between the quotes that end it. -/
def readUntil (stop : List Char) (allowed : Char → Bool) : List Char → Read (List Char)
  | [] => none
  | c :: cs =>
    match Text.afterChars? stop (c :: cs) with
    | some rest => some ([], rest)
    | none => if allowed c then (readUntil stop allowed cs).map fun r => (c :: r.1, r.2) else none

/-- The character with the given code point. -/
def scalar? (n : Nat) : Option Char :=
  if h : n.isValidChar then some (Char.ofNatAux n h) else none

/-- A character given by `width` hexadecimal digits. -/
def readCodePoint (width : Nat) (cs : List Char) : Read Char :=
  let digits := cs.take width
  if digits.length = width && digits.all Text.isHexDigit then
    (scalar? (Text.hexNumber digits)).map fun c => (c, cs.drop width)
  else none

/-- A character after a backslash. -/
def readEscape : List Char → Read Char
  | 'b' :: rest => some ('\x08', rest)
  | 't' :: rest => some ('\t', rest)
  | 'n' :: rest => some ('\n', rest)
  | 'f' :: rest => some ('\x0c', rest)
  | 'r' :: rest => some ('\r', rest)
  | '"' :: rest => some ('"', rest)
  | '\\' :: rest => some ('\\', rest)
  | 'u' :: rest => readCodePoint 4 rest
  | 'U' :: rest => readCodePoint 8 rest
  | _ => none

/-- What follows a backslash at the end of a line: the next line without the space before it. -/
def skipLineEnd (cs : List Char) : Option (List Char) :=
  match cs.dropWhile isSpace with
  | [] => if cs.isEmpty then none else some []
  | '\n' :: rest => some (rest.dropWhile fun c => isSpace c || c == '\n')
  | _ => none

/-- Read the rest of a text in double quotes of at most `fuel` characters. -/
def readBasic (multiline : Bool) : Nat → List Char → Read (List Char)
  | 0, _ => none
  | _, [] => none
  | fuel + 1, c :: cs =>
    let stop := if multiline then ['"', '"', '"'] else ['"']
    match Text.afterChars? stop (c :: cs) with
    | some rest => some ([], rest)
    | none =>
      if c = '\\' then
        match if multiline then skipLineEnd cs else none with
        | some rest => readBasic multiline fuel rest
        | none =>
          match readEscape cs with
          | none => none
          | some (d, rest) => (readBasic multiline fuel rest).map fun r => (d :: r.1, r.2)
      else if isPlain c || (multiline && c == '\n') then
        (readBasic multiline fuel cs).map fun r => (c :: r.1, r.2)
      else none

/-- Up to two more quotes belong to a text that ends in more than three. -/
def takeExtraQuotes (quote : Char) (r : List Char × List Char) : String × List Char :=
  let extra := (r.2.takeWhile (· == quote)).take 2
  (String.ofList (r.1 ++ extra), r.2.drop extra.length)

/-- The text without a new line at its start. -/
def dropFirstNewline : List Char → List Char
  | '\n' :: rest => rest
  | cs => cs

/-- A text on one line, as a value or as a key. -/
def readLineText : List Char → Read String
  | '"' :: rest => (readBasic false (rest.length + 1) rest).map fun r => (String.ofList r.1, r.2)
  | '\'' :: rest => (readUntil ['\''] isPlain rest).map fun r => (String.ofList r.1, r.2)
  | _ => none

/-- A text in quotes. -/
def readText : List Char → Read String
  | '"' :: '"' :: '"' :: rest =>
    let body := dropFirstNewline rest
    (readBasic true (body.length + 1) body).map (takeExtraQuotes '"')
  | '\'' :: '\'' :: '\'' :: rest =>
    (readUntil ['\'', '\'', '\''] (fun c => isPlain c || c == '\n') (dropFirstNewline rest)).map
      (takeExtraQuotes '\'')
  | cs => readLineText cs

/-- The longest run of digits with single low lines between them. -/
def splitGrouped (isDigit : Char → Bool) : List Char → List Char × List Char
  | [] => ([], [])
  | d :: '_' :: rest =>
    if !isDigit d then ([], d :: '_' :: rest)
    else if rest.head?.any isDigit then
      let (digits, after) := splitGrouped isDigit rest
      (d :: digits, after)
    else ([d], '_' :: rest)
  | d :: rest =>
    if isDigit d then
      let (digits, after) := splitGrouped isDigit rest
      (d :: digits, after)
    else ([], d :: rest)

/-- A number in another base, after its zero. -/
def readBased : List Char → Read Json
  | base :: rest =>
    let digits := fun (allowed : Char → Bool) (radix : Nat) =>
      match splitGrouped allowed rest with
      | ([], _) => none
      | (ds, after) =>
        let n := ds.foldl (fun n c => radix * n + (Text.hexValue? c).getD 0) 0
        some (Json.int n, after)
    if base = 'x' then digits Text.isHexDigit 16
    else if base = 'b' then digits (fun c => c == '0' || c == '1') 2
    else if base = 'o' then digits (fun c => '0' ≤ c && c ≤ '7') 8
    else none
  | [] => none

/-- The digits after a point, if there are any. -/
def splitFraction (cs : List Char) : List Char × List Char :=
  match cs with
  | '.' :: rest =>
    match splitGrouped Char.isDigit rest with
    | ([], _) => ([], cs)
    | r => r
  | _ => ([], cs)

/-- The exponent after an `e`, if it has digits. -/
def splitExponent (cs : List Char) : Option Int × List Char :=
  match cs with
  | [] => (none, cs)
  | e :: rest =>
    if e = 'e' || e = 'E' then
      let (negative, unsigned) := match rest with
        | '-' :: more => (true, more)
        | '+' :: more => (false, more)
        | more => (false, more)
      match splitGrouped Char.isDigit unsigned with
      | ([], _) => (none, cs)
      | (digits, after) =>
        let n : Int := Numeral.value digits
        (some (if negative then -n else n), after)
    else (none, cs)

/-- The whole part of a decimal number. -/
def splitWhole : List Char → List Char × List Char
  | '0' :: rest => (['0'], rest)
  | cs => splitGrouped Char.isDigit cs

/-- A decimal number without its sign. -/
def readDecimal (negative : Bool) (cs : List Char) : Read Json :=
  match splitWhole cs with
  | ([], _) => none
  | (whole, afterWhole) =>
    let (fraction, afterFraction) := splitFraction afterWhole
    let (exponent, rest) := splitExponent afterFraction
    if fraction.isEmpty && exponent.isNone then
      let n : Int := Numeral.value whole
      some (.int (if negative then -n else n), rest)
    else
      let d : Decimal := ⟨Numeral.value (whole ++ fraction), exponent.getD 0 - fraction.length⟩
      some (.float (.ofDecimal negative d), rest)

/-- A sign and the text after it. -/
def splitSign : List Char → Bool × List Char
  | '-' :: rest => (true, rest)
  | '+' :: rest => (false, rest)
  | cs => (false, cs)

/-- A number or one of the words for special numbers. -/
def readNumber (cs : List Char) : Read Json :=
  let based := match cs with
    | '0' :: rest => readBased rest
    | _ => none
  let (negative, unsigned) := splitSign cs
  let special : Read Json :=
    match Text.afterChars? "inf".toList unsigned, Text.afterChars? "nan".toList unsigned with
    | some rest, _ => some (.float (.infinite negative), rest)
    | _, some rest => some (.float .nan, rest)
    | _, _ => none
  based.or ((readDecimal negative unsigned).or special)

/-- A number of exactly `width` digits between two bounds. -/
def readField (width least greatest : Nat) (cs : List Char) : Read Nat :=
  let digits := cs.take width
  let n := Numeral.value digits
  if digits.length = width && digits.all Char.isDigit && least ≤ n && n ≤ greatest then
    some (n, cs.drop width)
  else none

/-- The text after a given character. -/
def after (c : Char) (cs : List Char) : Option (List Char) :=
  Text.afterChars? [c] cs

/-- The text after a time of day. -/
def skipTime (cs : List Char) : Option (List Char) := do
  let (_, cs) ← readField 2 0 23 cs
  let (_, cs) ← readField 2 0 59 (← after ':' cs)
  let (_, cs) ← readField 2 0 59 (← after ':' cs)
  return (splitPlainFraction cs)
where
  splitPlainFraction (cs : List Char) : List Char :=
    match cs with
    | '.' :: d :: rest => if d.isDigit then rest.dropWhile Char.isDigit else cs
    | _ => cs

/-- The text after the offset of a time, if it has one. -/
def skipOffset (cs : List Char) : List Char :=
  match cs with
  | 'Z' :: rest => rest
  | 'z' :: rest => rest
  | sign :: rest =>
    let after : Option (List Char) := do
      let (_, cs) ← readField 2 0 23 rest
      let (_, cs) ← readField 2 0 59 (← after ':' cs)
      return cs
    if sign = '+' || sign = '-' then after.getD cs else cs
  | [] => cs

/-- The time of day after a date, if there is one. -/
def skipTimeOfDate (cs : List Char) : List Char :=
  match cs with
  | t :: rest =>
    if t = 'T' || t = 't' || t = ' ' then ((skipTime rest).map skipOffset).getD cs else cs
  | [] => cs

/-- A day of the calendar. -/
def isDay (year month day : Nat) : Bool :=
  let date : Int × Int × Int := (year, month, day)
  1 ≤ year && Moment.ofDayNumber (Moment.dayNumber year month day) == date

/-- Year, month and day of a date, with what follows it. -/
def readDate (cs : List Char) : Option ((Nat × Nat × Nat) × List Char) := do
  let (year, cs) ← readField 4 0 9999 cs
  let (month, cs) ← readField 2 1 12 (← after '-' cs)
  let (day, cs) ← readField 2 1 31 (← after '-' cs)
  return ((year, month, day), cs)

/-- A flag, a date, a time or a number. -/
def readScalar (cs : List Char) : Read Json :=
  match Text.afterChars? "true".toList cs, Text.afterChars? "false".toList cs with
  | some rest, _ => some (.bool true, rest)
  | _, some rest => some (.bool false, rest)
  | _, _ =>
    match readDate cs, skipTime cs with
    | some ((year, month, day), rest), _ =>
      if isDay year month day then some (.null, skipTimeOfDate rest) else none
    | _, some rest => some (.null, rest)
    | _, _ => readNumber cs

end PageBuilder.Toml
