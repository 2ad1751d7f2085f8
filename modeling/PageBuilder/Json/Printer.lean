import PageBuilder.Binary64.Layout
import PageBuilder.Json.Basic
import PageBuilder.Text.Letters

/-! # Document text

One writer with two layouts: `Layout.compact` has no white space, and `Layout.pretty` has a line for
each item and field and two columns per level. -/

namespace PageBuilder.Json

/-- A character inside a quoted text. -/
def escapeChar (c : Char) : List Char :=
  if c = '"' then ['\\', '"']
  else if c = '\\' then ['\\', '\\']
  else if c = '\n' then ['\\', 'n']
  else if c = '\r' then ['\\', 'r']
  else if c = '\t' then ['\\', 't']
  else if c = '\x08' then ['\\', 'b']
  else if c = '\x0c' then ['\\', 'f']
  else if c.toNat < 0x20 then '\\' :: 'u' :: Text.hexDigits 4 c.toNat
  else [c]

/-- A text in double quotes. -/
def quote (s : String) : List Char :=
  '"' :: (s.toList.flatMap escapeChar ++ ['"'])

/-- The white space of a text: what stands before each item or field at a level and before the
closing bracket of that level, and what follows a colon. -/
structure Layout where
  gap : Nat → List Char
  afterColon : List Char

/-- A new line at the given level. -/
def newLine (level : Nat) : List Char :=
  '\n' :: List.replicate (2 * level) ' '

/-- No white space at all. -/
def Layout.compact : Layout := ⟨fun _ => [], []⟩

/-- A line for each item and field. -/
def Layout.pretty : Layout := ⟨newLine, [' ']⟩

mutual

/-- The text of a value at the given level. -/
def write (l : Layout) (level : Nat) : Json → List Char
  | .null => "null".toList
  | .bool true => "true".toList
  | .bool false => "false".toList
  | .int n => Numeral.ofInt n
  | .float x => Binary64.Layout.document.write x
  | .str s => quote s
  | .arr [] => ['[', ']']
  | .obj [] => ['{', '}']
  | .arr (x :: xs) => '[' :: (writeItems l (level + 1) (x :: xs) ++ (l.gap level ++ [']']))
  | .obj (f :: fs) => '{' :: (writeFields l (level + 1) (f :: fs) ++ (l.gap level ++ ['}']))

def writeItems (l : Layout) (level : Nat) : List Json → List Char
  | [] => []
  | [x] => l.gap level ++ write l level x
  | x :: y :: xs => l.gap level ++ (write l level x ++ ',' :: writeItems l level (y :: xs))

def writeFields (l : Layout) (level : Nat) : List (String × Json) → List Char
  | [] => []
  | [f] => l.gap level ++ (quote f.1 ++ ':' :: (l.afterColon ++ write l level f.2))
  | f :: g :: fs =>
    let rest := writeFields l level (g :: fs)
    l.gap level ++ (quote f.1 ++ ':' :: (l.afterColon ++ (write l level f.2 ++ ',' :: rest)))

end

/-- The compact text of a value. -/
def compactText (v : Json) : String :=
  String.ofList (write .compact 0 v)

/-- The text of a value on several lines. -/
def prettyText (v : Json) : String :=
  String.ofList (write .pretty 0 v)

end PageBuilder.Json
