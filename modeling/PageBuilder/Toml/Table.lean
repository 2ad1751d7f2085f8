import PageBuilder.Json.Basic

/-! # Tables under construction

The tables of a settings file while its statements are read. A name can be given a value once; a
table can be declared once, and not after its keys were given with dots; a value that is a list or
an inline table is closed. Every operation gives nothing where a statement breaks one of these
rules.

## Implementation notes

A list of tables keeps its last element apart, since every path through it leads to that element. -/

namespace PageBuilder.Toml

/-- How a table came to be. -/
inductive Origin where
  /-- On the way to another table. -/
  | implicit
  /-- By a dotted key in the given group. -/
  | dotted (group : Nat)
  /-- By a header of its own. -/
  | declared
  deriving DecidableEq, Repr

/-- What a name stands for. -/
inductive Entry where
  | value (v : Json)
  | table (origin : Origin) (fields : List (String × Entry))
  | tables (last : List (String × Entry)) (before : List (List (String × Entry)))

/-- The names of a table in order. -/
abbrev Table := List (String × Entry)

namespace Table

/-- Give a name an entry, in its place if it has one already. -/
def put : Table → String → Entry → Table
  | [], key, e => [(key, e)]
  | f :: fs, key, e => if f.1 = key then (key, e) :: fs else f :: put fs key e

/-- Change the table behind a name. -/
def within (t : Table) (key : String) (f : Table → Option Table) : Option Table :=
  match t.lookup key with
  | none => (f []).map fun inner => put t key (.table .implicit inner)
  | some (.table origin inner) => (f inner).map fun inner => put t key (.table origin inner)
  | some (.tables last before) => (f last).map fun last => put t key (.tables last before)
  | some (.value _) => none

/-- Change the table at the end of a path. -/
def atPath : List String → (Table → Option Table) → Table → Option Table
  | [], f, t => f t
  | key :: path, f, t => within t key (atPath path f)

/-- Declare a table by its header. -/
def declare (key : String) (t : Table) : Option Table :=
  match t.lookup key with
  | none => some (put t key (.table .declared []))
  | some (.table .implicit inner) => some (put t key (.table .declared inner))
  | some _ => none

/-- Start another element of a list of tables. -/
def extend (key : String) (t : Table) : Option Table :=
  match t.lookup key with
  | none => some (put t key (.tables [] []))
  | some (.tables last before) => some (put t key (.tables [] (before ++ [last])))
  | some _ => none

/-- Give a dotted key a value in the given group. -/
def assign (group : Nat) : List String → Json → Table → Option Table
  | [], _, _ => none
  | [key], v, t => if (t.lookup key).isSome then none else some (put t key (.value v))
  | key :: path, v, t =>
    let inner := match t.lookup key with
      | none => some []
      | some (.table .implicit fields) => some fields
      | some (.table (.dotted s) fields) => if s = group then some fields else none
      | some _ => none
    match inner with
    | none => none
    | some fields =>
      (assign group path v fields).map fun fields => put t key (.table (.dotted group) fields)

mutual

/-- The table as the fields of an object. -/
def toFields : List (String × Entry) → Fields
  | [] => []
  | f :: fs => (f.1, entryJson f.2) :: toFields fs

/-- The value of an entry. -/
def entryJson : Entry → Json
  | .value v => v
  | .table _ fields => .obj (toFields fields)
  | .tables last before => .arr (tablesJson before ++ [.obj (toFields last)])

def tablesJson : List (List (String × Entry)) → List Json
  | [] => []
  | t :: ts => .obj (toFields t) :: tablesJson ts

end

end Table

/-- A statement of a settings file. -/
inductive Statement where
  | assign (path : List String) (v : Json)
  | declare (path : List String)
  | extend (path : List String)

/-- The tables after some statements: the header that is open, and how many were opened before. -/
structure Progress where
  tables : Table := []
  header : List String := []
  group : Nat := 0

namespace Progress

/-- Carry out a statement. -/
def step (p : Progress) : Statement → Option Progress
  | .assign path v =>
    (Table.atPath p.header (Table.assign p.group path v) p.tables).map fun tables =>
      { p with tables }
  | .declare path =>
    path.getLast?.bind fun key =>
      (Table.atPath path.dropLast (Table.declare key) p.tables).map fun tables =>
        ⟨tables, path, p.group + 1⟩
  | .extend path =>
    path.getLast?.bind fun key =>
      (Table.atPath path.dropLast (Table.extend key) p.tables).map fun tables =>
        ⟨tables, path, p.group + 1⟩

end Progress

/-- The fields that statements give. -/
def Statement.build (statements : List Statement) : Option Fields :=
  (statements.foldlM Progress.step {}).map fun p => Table.toFields p.tables

/-- The fields of an inline table. -/
def inlineFields (pairs : List (List String × Json)) : Option Fields :=
  (pairs.foldlM (fun t (p : List String × Json) => Table.assign 0 p.1 p.2 t) []).map Table.toFields

end PageBuilder.Toml
