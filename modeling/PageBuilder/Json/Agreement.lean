import PageBuilder.Binary64.Rounding
import PageBuilder.Json.Basic

/-! # Agreement of values

Two values agree if they differ only in the kind of their numbers (`true`, `1` and `1.0` agree) and
in the order of fields. -/

namespace PageBuilder.Json

/-- The whole number that a flag or a whole number stands for. -/
def whole? : Json → Option Int
  | .bool b => some (if b then 1 else 0)
  | .int n => some n
  | _ => none

/-- A double and a whole number are the same number. -/
def doubleIsWhole (x : Binary64) (n : Int) : Bool :=
  x.signedUnits? == some (n * (Binary64.unitsInOne : Int))

/-- Numeric agreement; `nan` agrees with itself. -/
def scalarsAgree (a b : Json) : Bool :=
  match a, b with
  | .null, .null => true
  | .str s, .str t => s == t
  | .float x, .float y => x == y || x.numericEq y
  | .float x, b => b.whole?.any (doubleIsWhole x)
  | a, .float y => a.whole?.any (doubleIsWhole y)
  | a, b => a.whole?.any fun m => b.whole? == some m

mutual

/-- Agreement of two values. -/
def agrees : Json → Json → Bool
  | .arr xs, .arr ys => itemsAgree xs ys
  | .obj fs, .obj gs => fs.length == gs.length && fieldsAgree fs gs
  | .arr _, _ => false
  | .obj _, _ => false
  | a, b => scalarsAgree a b

def itemsAgree : List Json → List Json → Bool
  | [], [] => true
  | x :: xs, y :: ys => agrees x y && itemsAgree xs ys
  | _, _ => false

/-- Every field has a field of the same key that agrees with it. -/
def fieldsAgree : List (String × Json) → Fields → Bool
  | [], _ => true
  | f :: fs, gs =>
    (match Fields.get? gs f.1 with
      | some v => agrees f.2 v
      | none => false) && fieldsAgree fs gs

end

end PageBuilder.Json
