import PageBuilder.Json.Basic

/-! # Limits of a reader

A reader takes on whole numbers of so many digits and values that are nested so deep. A text beyond
a limit is not faulty: reading it is given up, so that whoever handles faults is not asked. -/

namespace PageBuilder.Json

/-- How much a reader takes on; what has no limit is absent. -/
class Limits where
  /-- The most digits of a whole number. -/
  digits : Option Nat
  /-- The most lists and objects inside each other. -/
  depth : Option Nat

namespace Limits

/-- The limits that the program runs with. -/
instance standard : Limits := ⟨some 4300, some 980⟩

/-- No limits. -/
abbrev unlimited : Limits := ⟨none, none⟩

end Limits

/-- A limit that a text goes beyond. -/
inductive Overrun where
  | digits
  | depth
  deriving DecidableEq, Repr

/-- Why reading ends without a value: for a fault of what is read, or at a limit. -/
inductive Halt (ε : Type) where
  | fault (error : ε)
  | overrun (limit : Overrun)
  deriving DecidableEq, Repr

/-- The same end with another fault. -/
def Halt.map {ε ε' : Type} (f : ε → ε') : Halt ε → Halt ε'
  | .fault e => .fault (f e)
  | .overrun limit => .overrun limit

variable [Limits]

/-- A whole number of `n` digits is beyond the limit. -/
def tooLong (n : Nat) : Bool := Limits.digits.any (· < n)

/-- Lists and objects, `n` inside each other, are beyond the limit. -/
def tooDeep (n : Nat) : Bool := Limits.depth.any (· < n)

mutual

/-- The reader takes on the value inside `depth` lists and objects. -/
def fits (depth : Nat) : Json → Bool
  | .int n => !tooLong (Numeral.ofNat n.natAbs).length
  | .arr xs => !tooDeep (depth + 1) && itemsFit (depth + 1) xs
  | .obj fs => !tooDeep (depth + 1) && fieldsFit (depth + 1) fs
  | _ => true

def itemsFit (depth : Nat) : List Json → Bool
  | [] => true
  | x :: xs => fits depth x && itemsFit depth xs

def fieldsFit (depth : Nat) : List (String × Json) → Bool
  | [] => true
  | f :: fs => fits depth f.2 && fieldsFit depth fs

end

theorem itemsFit_iff {depth : Nat} {xs : List Json} :
    itemsFit depth xs = true ↔ ∀ x ∈ xs, x.fits depth = true := by
  induction xs with
  | nil => simp [itemsFit]
  | cons x xs ih => simp [itemsFit, ih]

theorem fieldsFit_iff {depth : Nat} {fs : Fields} :
    fieldsFit depth fs = true ↔ ∀ f ∈ fs, f.2.fits depth = true := by
  induction fs with
  | nil => simp [fieldsFit]
  | cons f fs ih => simp [fieldsFit, ih]

theorem fits_arr {depth : Nat} {xs : List Json} :
    (arr xs).fits depth = true ↔
      tooDeep (depth + 1) = false ∧ ∀ x ∈ xs, x.fits (depth + 1) = true := by
  simp [fits, itemsFit_iff]

theorem fits_obj {depth : Nat} {fs : Fields} :
    (obj fs).fits depth = true ↔
      tooDeep (depth + 1) = false ∧ ∀ f ∈ fs, f.2.fits (depth + 1) = true := by
  simp [fits, fieldsFit_iff]

/-- The reader takes on everything. -/
structure Unlimited : Prop where
  digits : Limits.digits = none
  depth : Limits.depth = none

namespace Unlimited

theorem tooLong (h : Unlimited) (n : Nat) : tooLong n = false := by
  rw [Json.tooLong, h.digits]
  rfl

theorem tooDeep (h : Unlimited) (n : Nat) : tooDeep n = false := by
  rw [Json.tooDeep, h.depth]
  rfl

mutual

theorem fits (h : Unlimited) (depth : Nat) : (v : Json) → v.fits depth = true
  | .int n => by rw [Json.fits, h.tooLong, Bool.not_false]
  | .arr xs => by
    rw [Json.fits, h.tooDeep, h.itemsFit (depth + 1) xs]
    rfl
  | .obj fs => by
    rw [Json.fits, h.tooDeep, h.fieldsFit (depth + 1) fs]
    rfl
  | .null | .bool _ | .float _ | .str _ => rfl

theorem itemsFit (h : Unlimited) (depth : Nat) : (xs : List Json) → itemsFit depth xs = true
  | [] => rfl
  | x :: xs => by
    rw [Json.itemsFit, h.fits depth x, h.itemsFit depth xs]
    rfl

theorem fieldsFit (h : Unlimited) (depth : Nat) :
    (fs : List (String × Json)) → fieldsFit depth fs = true
  | [] => rfl
  | f :: fs => by
    rw [Json.fieldsFit, h.fits depth f.2, h.fieldsFit depth fs]
    rfl

end

end Unlimited

end PageBuilder.Json
