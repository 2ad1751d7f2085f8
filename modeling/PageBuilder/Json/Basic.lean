import PageBuilder.Numeral
import PageBuilder.Binary64.Basic

/-! # Document values

The values that documents are made of. Whole numbers and doubles are different values even where
they are numerically equal, and the fields of an object have an order.

The operations on `Fields` keep keys distinct: setting a field that is present keeps its place, and
a field that is absent comes last. -/

namespace PageBuilder

/-- A document value. -/
inductive Json where
  | null
  | bool (value : Bool)
  | int (value : Int)
  | float (value : Binary64)
  | str (value : String)
  | arr (items : List Json)
  | obj (fields : List (String × Json))
  deriving Repr

/-- The fields of an object in order. -/
abbrev Fields := List (String × Json)

namespace Json

instance : Inhabited Json := ⟨.null⟩

def isNull : Json → Bool
  | .null => true
  | _ => false

/-- The fields of an object, and nothing for another value. -/
def fields? : Json → Option Fields
  | .obj fs => some fs
  | _ => none

/-- The items of a list, and nothing for another value. -/
def items? : Json → Option (List Json)
  | .arr xs => some xs
  | _ => none

/-- The text of a string, and nothing for another value. -/
def text? : Json → Option String
  | .str s => some s
  | _ => none

/-- Null, false, zero, and the empty text, list and object count as no; all else as yes. -/
def truthy : Json → Bool
  | .null => false
  | .bool b => b
  | .int n => n != 0
  | .float x => !x.isZero
  | .str s => s != ""
  | .arr xs => !xs.isEmpty
  | .obj fs => !fs.isEmpty

/-- The value if it counts as yes. -/
def orElseNull (v : Json) : Json :=
  if v.truthy then v else .null

end Json

namespace Fields

/-- The value of a field that is present. -/
def get? (fs : Fields) (key : String) : Option Json :=
  fs.lookup key

def has (fs : Fields) (key : String) : Bool :=
  (get? fs key).isSome

/-- The value of a field; an absent field counts as null. -/
def value (fs : Fields) (key : String) : Json :=
  (get? fs key).getD .null

/-- Set a field, in its place if it is present and at the end otherwise. -/
def set : Fields → String → Json → Fields
  | [], key, v => [(key, v)]
  | f :: fs, key, v => if f.1 = key then (key, v) :: fs else f :: set fs key v

/-- Set every field of `new` in turn. -/
def merge (fs new : Fields) : Fields :=
  new.foldl (fun acc f => set acc f.1 f.2) fs

/-- The fields whose keys are not among `keys`. -/
def without (fs : Fields) (keys : List String) : Fields :=
  fs.filter fun f => !keys.contains f.1

/-- No key occurs twice. -/
def DistinctKeys (fs : Fields) : Prop :=
  (fs.map Prod.fst).Nodup

@[simp] theorem get?_nil (key : String) : get? [] key = none :=
  List.lookup_nil

theorem get?_cons (f : String × Json) (fs : Fields) (key : String) :
    get? (f :: fs) key = if key = f.1 then some f.2 else get? fs key := by
  obtain ⟨name, v⟩ := f
  by_cases h : key = name
  · simp [get?, h]
  · simp only [get?, List.lookup_cons, beq_eq_false_iff_ne.2 h, if_neg h]

theorem get?_set_self (fs : Fields) (key : String) (v : Json) :
    get? (set fs key v) key = some v := by
  induction fs with
  | nil => simp [set, get?_cons]
  | cons f fs ih =>
    simp only [set]
    split
    · simp [get?_cons]
    · next h => simp [get?_cons, Ne.symm h, ih]

theorem get?_set_of_ne {fs : Fields} {key other : String} (h : other ≠ key) (v : Json) :
    get? (set fs key v) other = get? fs other := by
  induction fs with
  | nil => simp [set, get?_cons, h]
  | cons f fs ih =>
    simp only [set]
    split
    · next hf => simp [get?_cons, hf, h]
    · simp [get?_cons, ih]

end Fields

namespace Json

mutual

/-- Every object inside the value has distinct keys. -/
def WellFormed : Json → Prop
  | .arr xs => ItemsWellFormed xs
  | .obj fs => Fields.DistinctKeys fs ∧ FieldsWellFormed fs
  | _ => True

/-- Every item is well formed. -/
def ItemsWellFormed : List Json → Prop
  | [] => True
  | x :: xs => WellFormed x ∧ ItemsWellFormed xs

/-- Every field holds a well formed value. -/
def FieldsWellFormed : List (String × Json) → Prop
  | [] => True
  | f :: fs => WellFormed f.2 ∧ FieldsWellFormed fs

end

end Json

end PageBuilder
