/-! # Path names

A path name in its plain form: repeated slashes and the parts `.` are left out, the parts `..` stay,
since what they lead to depends on the files. -/

namespace PageBuilder

/-- A path name. -/
structure PathName where
  /-- The slashes in front of a path from the root, and nothing in front of any other. -/
  root : String := ""
  parts : List String
  deriving DecidableEq, Repr

namespace PathName

/-- The pieces of a text between slashes. -/
def pieces : List Char → List (List Char)
  | [] => [[]]
  | '/' :: cs => [] :: pieces cs
  | c :: cs =>
    match pieces cs with
    | [] => [[c]]
    | piece :: rest => (c :: piece) :: rest

/-- The root of a path name. Two slashes are a root of their own; more of them are one. -/
def rootOf (cs : List Char) : String :=
  match cs.takeWhile (· == '/') with
  | [] => ""
  | ['/', '/'] => "//"
  | _ => "/"

def ofText (s : String) : PathName where
  root := rootOf s.toList
  parts := ((pieces s.toList).map String.ofList).filter fun part => part != "" && part != "."

/-- The path name as a text; the folder itself is a dot. -/
def text (p : PathName) : String :=
  if p.root = "" && p.parts.isEmpty then "." else p.root ++ "/".intercalate p.parts

/-- The directory that holds what a path names. -/
def parent (p : PathName) : PathName :=
  { p with parts := p.parts.dropLast }

end PathName

end PageBuilder
