import PageBuilder.Text.Blank
import PageBuilder.Text.DecimalDigit
import PageBuilder.Text.WordChar

/-! # Line wrapping

Text is split into chunks, which are runs of spaces, dashes between words, and words or parts of
hyphenated words; lines are then filled greedily with chunks. A chunk that is longer than a line is
cut at the width, or after its last hyphen before the width. Every character of the text is in
exactly one chunk.

## Implementation notes

`before` is always the text already passed, last character first. -/

namespace PageBuilder.Text.Wrap

/-- A character at which lines may be broken and that is written as a space. -/
def isGap (c : Char) : Bool :=
  c == ' ' || ('\t' ≤ c && c ≤ '\r')

/-- Replace each tab by the spaces up to the next multiple of eight columns. -/
def expandTabs (column : Nat) : List Char → List Char
  | [] => []
  | c :: cs =>
    if c = '\t' then
      let width := 8 - column % 8
      List.replicate width ' ' ++ expandTabs (column + width) cs
    else if c = '\n' || c = '\r' then c :: expandTabs 0 cs
    else c :: expandTabs (column + 1) cs

/-- The text with every gap written as spaces. -/
def normalGaps (cs : List Char) : List Char :=
  (expandTabs 0 cs).map fun c => if isGap c then ' ' else c

/-- A letter or other word character that is not a digit. -/
def isLetter (c : Char) : Bool :=
  isWordChar c && !isDecimalDigit c

/-- A character that may stand before a dash between words. -/
def endsWord (c : Char) : Bool :=
  isWordChar c || "!\"'&.,?".toList.contains c

/-- Two or more hyphens and a word character are ahead. -/
def dashAhead (rest : List Char) : Bool :=
  let hyphens := rest.takeWhile (· == '-')
  2 ≤ hyphens.length && (rest.drop hyphens.length).head?.any isWordChar

/-- A hyphen between `before` and `rest` may end a line: two letters, or a letter on each side of
an earlier hyphen, stand before it, and two letters, perhaps with a hyphen between, after it. -/
def breaksAtHyphen (before rest : List Char) : Bool :=
  let left := match before with
    | a :: b :: more =>
      isLetter a && (isLetter b || (b == '-' && more.head?.any isLetter))
    | _ => false
  let right := match rest with
    | a :: '-' :: b :: _ => isLetter a && isLetter b
    | a :: b :: _ => isLetter a && isLetter b
    | _ => false
  left && right

/-- The first word of the text or the first part of it, with what follows. -/
def splitWord (before : List Char) : List Char → List Char × List Char
  | [] => ([], [])
  | c :: rest =>
    let atHyphen := match rest with
      | '-' :: after => breaksAtHyphen (c :: before) after
      | _ => false
    if atHyphen then ([c, '-'], rest.drop 1)
    else if rest.head?.all isGap then ([c], rest)
    else if endsWord c && dashAhead rest then ([c], rest)
    else
      let (word, after) := splitWord (c :: before) rest
      (c :: word, after)

/-- The first chunk of the text, with what follows. -/
def splitChunk (before text : List Char) : List Char × List Char :=
  if text.head?.any isGap then text.span isGap
  else if before.head?.any endsWord && dashAhead text then text.span (· == '-')
  else splitWord before text

/-- The chunks of a text of at most `fuel` characters. -/
def chunksFrom : Nat → List Char → List Char → List (List Char)
  | 0, _, _ => []
  | _, _, [] => []
  | fuel + 1, before, text =>
    let (chunk, rest) := splitChunk before text
    chunk :: chunksFrom fuel (chunk.reverse ++ before) rest

/-- The chunks of a text. -/
def chunks (text : List Char) : List (List Char) :=
  chunksFrom text.length [] text

/-- The chunks that fit into the room, with those that follow. -/
def fill (room : Nat) : List (List Char) → List (List Char) × List (List Char)
  | [] => ([], [])
  | c :: cs =>
    if c.length ≤ room then
      let (line, rest) := fill (room - c.length) cs
      (c :: line, rest)
    else ([], c :: cs)

/-- The length at which a chunk is cut when `room` characters are left on the line. -/
def cutLength (room : Nat) (chunk : List Char) : Nat :=
  let head := chunk.take room
  let upToHyphen := (head.reverse.dropWhile (· != '-')).reverse
  if upToHyphen.dropLast.any (· != '-') then upToHyphen.length else room

/-- Put a part of the next chunk on the line if that chunk is longer than any line. -/
def breakLong (width : Nat) (line rest : List (List Char)) : List (List Char) × List (List Char) :=
  match rest with
  | [] => (line, [])
  | c :: cs =>
    if width < c.length then
      let cut := cutLength (width - line.flatten.length) c
      (line ++ [c.take cut], c.drop cut :: cs)
    else (line, rest)

/-- Drop a last chunk of white space. -/
def dropTrailingGap (line : List (List Char)) : List (List Char) :=
  if line.getLast?.any (·.all isBlank) then line.dropLast else line

/-- The next line and the chunks after it; only the first line may start with white space. -/
def nextLine (width : Nat) (first : Bool) (cs : List (List Char)) :
    List (List Char) × List (List Char) :=
  let cs := if !first && cs.head?.any (·.all isBlank) then cs.drop 1 else cs
  let (line, rest) := fill width cs
  let (line, rest) := breakLong width line rest
  (dropTrailingGap line, rest)

/-- The lines of at most `fuel` characters in chunks. -/
def linesFrom (width : Nat) : Nat → Bool → List (List Char) → List (List Char)
  | 0, _, _ => []
  | _, _, [] => []
  | fuel + 1, first, cs =>
    let (line, rest) := nextLine width first cs
    if line.isEmpty then linesFrom width fuel first rest
    else line.flatten :: linesFrom width fuel false rest

/-- The lines of a text, each of at most `width` characters. -/
def lines (width : Nat) (text : String) : List String :=
  let normal := normalGaps text.toList
  (linesFrom width (normal.length + 1) true (chunks normal)).map String.ofList

end PageBuilder.Text.Wrap
