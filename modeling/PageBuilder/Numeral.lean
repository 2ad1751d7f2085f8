/-! # Decimal numerals

The written form of naturals and integers, and the value of a run of decimal digits. Writing is
injective: `ofInt_injective`. -/

namespace PageBuilder.Numeral

/-- Digits of a natural, most significant first; zero is written `0`. -/
def ofNat (n : Nat) : List Char :=
  Nat.toDigits 10 n

/-- An integer as a numeral with a minus sign in front of a negative one. -/
def ofInt : Int → List Char
  | .ofNat n => ofNat n
  | .negSucc n => '-' :: ofNat (n + 1)

/-- The numeral of an integer as a string. -/
def text (n : Int) : String :=
  String.ofList (ofInt n)

/-- The value of a run of decimal digits; the empty run is zero. -/
def value (digits : List Char) : Nat :=
  Nat.ofDigitChars 10 digits 0

@[simp] theorem value_ofNat (n : Nat) : value (ofNat n) = n :=
  Nat.ofDigitChars_toDigits (by decide) (by decide)

theorem ofNat_injective {m n : Nat} (h : ofNat m = ofNat n) : m = n := by
  rw [← value_ofNat m, h, value_ofNat]

theorem isDigit_of_mem_ofNat {n : Nat} {c : Char} (h : c ∈ ofNat n) : c.isDigit :=
  Nat.isDigit_of_mem_toDigits (by decide) (by decide) h

theorem ofInt_injective {m n : Int} (h : ofInt m = ofInt n) : m = n := by
  have sign : ∀ a b : Nat, ofNat a ≠ '-' :: ofNat (b + 1) := fun a b he =>
    absurd (isDigit_of_mem_ofNat (n := a) (he ▸ List.mem_cons_self)) (by decide)
  cases m with
  | ofNat a =>
    cases n with
    | ofNat b => exact congrArg Int.ofNat (ofNat_injective h)
    | negSucc b => exact absurd h (sign a b)
  | negSucc a =>
    cases n with
    | ofNat b => exact absurd h.symm (sign b a)
    | negSucc b =>
      have := ofNat_injective (List.cons.inj h).2
      exact congrArg Int.negSucc (by omega)

end PageBuilder.Numeral
