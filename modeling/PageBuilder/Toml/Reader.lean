import PageBuilder.Toml.Scalar
import PageBuilder.Toml.Table

/-! # Reading settings files

A settings file is a list of lines, each with at most one statement: a key with its value, the
header of a table, or the header of the next element of a list of tables. `Toml.parse` gives the
fields of the file, and nothing if any line is malformed. -/

namespace PageBuilder.Toml

/-- The text after a comment, if there is one. -/
def skipComment (cs : List Char) : Option (List Char) :=
  match cs with
  | '#' :: rest =>
    let comment := rest.takeWhile (· != '\n')
    if comment.all isPlain then some (rest.drop comment.length) else none
  | _ => some cs

/-- The text after spaces, new lines and comments inside a list. -/
def skipBlank : Nat → List Char → Option (List Char)
  | 0, cs => some cs
  | fuel + 1, cs =>
    match cs.dropWhile fun c => isSpace c || c == '\n' with
    | '#' :: rest => (skipComment ('#' :: rest)).bind (skipBlank fuel)
    | rest => some rest

/-- A part of a key. -/
def readKeyPart (cs : List Char) : Read String :=
  match cs.takeWhile isKeyChar with
  | [] => readLineText cs
  | bare => some (String.ofList bare, cs.drop bare.length)

/-- A key of at most `fuel` parts, with the space after it. -/
def readKeyParts : Nat → List Char → Read (List String)
  | 0, _ => none
  | fuel + 1, cs =>
    match readKeyPart cs with
    | none => none
    | some (part, rest) =>
      match rest.dropWhile isSpace with
      | '.' :: more => (readKeyParts fuel (more.dropWhile isSpace)).map fun r => (part :: r.1, r.2)
      | rest => some ([part], rest)

/-- A key. -/
def readKey (cs : List Char) : Read (List String) :=
  readKeyParts (cs.length + 1) cs

mutual

/-- A value. -/
def readValue : Nat → List Char → Read Json
  | 0, _ => none
  | fuel + 1, cs =>
    match cs with
    | '"' :: _ => (readText cs).map fun r => (.str r.1, r.2)
    | '\'' :: _ => (readText cs).map fun r => (.str r.1, r.2)
    | '[' :: rest => (readItems fuel rest).map fun r => (.arr r.1, r.2)
    | '{' :: rest =>
      match rest.dropWhile isSpace with
      | '}' :: after => some (.obj [], after)
      | inside =>
        (readPairs fuel inside).bind fun r => (inlineFields r.1).map fun fs => (.obj fs, r.2)
    | _ => readScalar cs

/-- The items of a list and its closing bracket. -/
def readItems : Nat → List Char → Read (List Json)
  | 0, _ => none
  | fuel + 1, cs =>
    match skipBlank cs.length cs with
    | none => none
    | some (']' :: after) => some ([], after)
    | some inside =>
      match readValue fuel inside with
      | none => none
      | some (v, rest) =>
        match skipBlank rest.length rest with
        | some (']' :: after) => some ([v], after)
        | some (',' :: after) => (readItems fuel after).map fun r => (v :: r.1, r.2)
        | _ => none

/-- The pairs of an inline table and its closing brace. -/
def readPairs : Nat → List Char → Read (List (List String × Json))
  | 0, _ => none
  | fuel + 1, cs =>
    match readPair fuel cs with
    | none => none
    | some (pair, rest) =>
      match rest.dropWhile isSpace with
      | '}' :: after => some ([pair], after)
      | ',' :: after =>
        (readPairs fuel (after.dropWhile isSpace)).map fun r => (pair :: r.1, r.2)
      | _ => none

/-- A key with its value. -/
def readPair : Nat → List Char → Read (List String × Json)
  | 0, _ => none
  | fuel + 1, cs =>
    match readKey cs with
    | some (key, '=' :: rest) =>
      (readValue fuel (rest.dropWhile isSpace)).map fun r => ((key, r.1), r.2)
    | _ => none

end

/-- The statement at the start of a text that is not blank. -/
def readStatement (cs : List Char) : Read Statement :=
  match cs with
  | '[' :: '[' :: rest =>
    match readKey (rest.dropWhile isSpace) with
    | some (key, ']' :: ']' :: after) => some (.extend key, after)
    | _ => none
  | '[' :: rest =>
    match readKey (rest.dropWhile isSpace) with
    | some (key, ']' :: after) => some (.declare key, after)
    | _ => none
  | _ => (readPair (4 * cs.length + 4) cs).map fun r => (.assign r.1.1 r.1.2, r.2)

/-- The statements of a text of at most `fuel` lines. -/
def readStatements : Nat → List Char → Option (List Statement)
  | 0, _ => none
  | fuel + 1, cs =>
    let line := cs.dropWhile isSpace
    match line with
    | [] => some []
    | '\n' :: rest => readStatements fuel rest
    | c :: _ =>
      let statement : Read (List Statement) :=
        if c = '#' then some ([], line) else (readStatement line).map fun r => ([r.1], r.2)
      match statement with
      | none => none
      | some (found, rest) =>
        match skipComment (rest.dropWhile isSpace) with
        | some [] => some found
        | some ('\n' :: rest) => (readStatements fuel rest).map fun more => found ++ more
        | _ => none

/-- The text with every line ended by a new line alone. -/
def normalLines : List Char → List Char
  | '\r' :: '\n' :: rest => '\n' :: normalLines rest
  | c :: rest => c :: normalLines rest
  | [] => []

/-- The fields of a settings file. -/
def parse (s : String) : Option Fields :=
  let cs := normalLines s.toList
  (readStatements (cs.length + 1) cs).bind Statement.build

end PageBuilder.Toml
