import PageBuilder.Text.Utf8

/-! # UTF-8 is decoded strictly

Bytes are decoded exactly if they are the bytes of a text. The four classes of first bytes have the
numbers of one to four bytes; the narrower ranges after some first bytes keep out short forms,
surrogates and numbers that are too great. -/

namespace PageBuilder.Text.Utf8

variable {p : Pending} {b : UInt8} {bs bytes : List UInt8} {n : Nat} {cs : List Char}

/-- The character begun after one more byte. -/
def Pending.next (p : Pending) (b : UInt8) : Pending :=
  ⟨p.owed - 1, 0x80, 0xBF, p.bits * 64 + (b.toNat - 0x80)⟩

/-- The bytes that a character begun still owes, and the number of the character. -/
inductive Pending.Completes : Pending → List UInt8 → Nat → Prop
  | done {p : Pending} (h : p.owed = 0) : Completes p [] p.bits
  | byte {p : Pending} {b : UInt8} {bs : List UInt8} {n : Nat} (howed : p.owed ≠ 0)
      (hleast : p.least ≤ b) (hgreatest : b ≤ p.greatest) (h : Completes (p.next b) bs n) :
      Completes p (b :: bs) n

theorem Pending.completes_zero {least greatest : UInt8} {bits : Nat} :
    Completes ⟨0, least, greatest, bits⟩ bs n ↔ bs = [] ∧ n = bits := by
  constructor
  · intro h
    cases h with
    | done => exact ⟨rfl, rfl⟩
    | byte howed => simp at howed
  · rintro ⟨rfl, rfl⟩
    exact .done rfl

theorem Pending.completes_succ {owed bits : Nat} {least greatest : UInt8} :
    Completes ⟨owed + 1, least, greatest, bits⟩ bs n ↔
      ∃ b rest, bs = b :: rest ∧ least.toNat ≤ b.toNat ∧ b.toNat ≤ greatest.toNat ∧
        Completes ⟨owed, 0x80, 0xBF, bits * 64 + (b.toNat - 0x80)⟩ rest n := by
  constructor
  · intro h
    cases h with
    | done h => simp at h
    | byte howed hleast hgreatest h => exact ⟨_, _, rfl, hleast, hgreatest, h⟩
  · rintro ⟨b, rest, rfl, hleast, hgreatest, h⟩
    exact .byte (by simp) hleast hgreatest h

/-- What a first byte begins, by the number of the byte. -/
theorem first_eq (b : UInt8) :
    first b =
      if b.toNat < 0x80 then some ⟨0, 0x80, 0xBF, b.toNat⟩
      else if b.toNat < 0xC2 then none
      else if b.toNat < 0xE0 then some ⟨1, 0x80, 0xBF, b.toNat - 0xC0⟩
      else if b.toNat = 0xE0 then some ⟨2, 0xA0, 0xBF, 0⟩
      else if b.toNat = 0xED then some ⟨2, 0x80, 0x9F, 0xD⟩
      else if b.toNat < 0xF0 then some ⟨2, 0x80, 0xBF, b.toNat - 0xE0⟩
      else if b.toNat = 0xF0 then some ⟨3, 0x90, 0xBF, 0⟩
      else if b.toNat < 0xF4 then some ⟨3, 0x80, 0xBF, b.toNat - 0xF0⟩
      else if b.toNat = 0xF4 then some ⟨3, 0x80, 0x8F, 4⟩
      else none := by
  simp only [first, UInt8.lt_iff_toNat_lt, ← UInt8.toNat_inj, UInt8.reduceToNat]

/-! ### The bytes of a number -/

theorem val_ofNat {n : Nat} (h : n.isValidChar) : (Char.ofNat n).val.toNat = n := by
  rw [Char.ofNat, dif_pos h]
  exact UInt32.toNat_ofNatLT

/-- A number that fits in a byte is the number of a byte. -/
theorem exists_byte {k : Nat} (h : k < 256) : ∃ b : UInt8, b.toNat = k :=
  ⟨UInt8.ofNat k, UInt8.toNat_ofNat_of_lt h⟩

theorem ofNat_eq {b : UInt8} {k : Nat} (h : k = b.toNat) : UInt8.ofNat k = b := by
  rw [h, UInt8.ofNat_toNat]

theorem one_byte {b : UInt8} (hn : n < 0x80) (hb : b.toNat = n) :
    String.utf8EncodeChar (Char.ofNat n) = [b] := by
  have hval := val_ofNat (n := n) (by unfold Nat.isValidChar; omega)
  rw [String.utf8EncodeChar, hval, if_pos (by omega), ofNat_eq hb.symm]

theorem two_bytes {b b₁ : UInt8} (hleast : 0x80 ≤ n) (hn : n < 0x800)
    (hb : b.toNat = 0xC0 + n / 64) (hb₁ : b₁.toNat = 0x80 + n % 64) :
    String.utf8EncodeChar (Char.ofNat n) = [b, b₁] := by
  have hval := val_ofNat (n := n) (by unfold Nat.isValidChar; omega)
  rw [String.utf8EncodeChar, hval, if_neg (by omega), if_pos (by omega),
    ofNat_eq (b := b) (by omega), ofNat_eq (b := b₁) (by omega)]

theorem three_bytes {b b₁ b₂ : UInt8} (hv : n.isValidChar) (hleast : 0x800 ≤ n) (hn : n < 0x10000)
    (hb : b.toNat = 0xE0 + n / 4096) (hb₁ : b₁.toNat = 0x80 + n / 64 % 64)
    (hb₂ : b₂.toNat = 0x80 + n % 64) : String.utf8EncodeChar (Char.ofNat n) = [b, b₁, b₂] := by
  rw [String.utf8EncodeChar, val_ofNat hv, if_neg (by omega), if_neg (by omega),
    if_pos (by omega), ofNat_eq (b := b) (by omega), ofNat_eq (b := b₁) (by omega),
    ofNat_eq (b := b₂) (by omega)]

theorem four_bytes {b b₁ b₂ b₃ : UInt8} (hleast : 0x10000 ≤ n) (hn : n < 0x110000)
    (hb : b.toNat = 0xF0 + n / 262144) (hb₁ : b₁.toNat = 0x80 + n / 4096 % 64)
    (hb₂ : b₂.toNat = 0x80 + n / 64 % 64) (hb₃ : b₃.toNat = 0x80 + n % 64) :
    String.utf8EncodeChar (Char.ofNat n) = [b, b₁, b₂, b₃] := by
  have hval := val_ofNat (n := n) (by unfold Nat.isValidChar; omega)
  rw [String.utf8EncodeChar, hval, if_neg (by omega), if_neg (by omega),
    if_neg (by omega), ofNat_eq (b := b) (by omega), ofNat_eq (b := b₁) (by omega),
    ofNat_eq (b := b₂) (by omega), ofNat_eq (b := b₃) (by omega)]

/-! ### Characters begun -/

namespace Pending

variable {least greatest : UInt8} {bits : Nat}

theorem completes_one : Completes ⟨1, least, greatest, bits⟩ bs n ↔
    ∃ b₁ : UInt8, bs = [b₁] ∧ least.toNat ≤ b₁.toNat ∧ b₁.toNat ≤ greatest.toNat ∧
      n = bits * 64 + (b₁.toNat - 0x80) := by
  rw [completes_succ]
  constructor
  · rintro ⟨b₁, rest, rfl, hleast, hgreatest, h⟩
    obtain ⟨rfl, hn⟩ := completes_zero.mp h
    exact ⟨b₁, rfl, hleast, hgreatest, hn⟩
  · rintro ⟨b₁, rfl, hleast, hgreatest, hn⟩
    exact ⟨b₁, [], rfl, hleast, hgreatest, completes_zero.mpr ⟨rfl, hn⟩⟩

theorem completes_two : Completes ⟨2, least, greatest, bits⟩ bs n ↔
    ∃ b₁ b₂ : UInt8, bs = [b₁, b₂] ∧ least.toNat ≤ b₁.toNat ∧ b₁.toNat ≤ greatest.toNat ∧
      0x80 ≤ b₂.toNat ∧ b₂.toNat ≤ 0xBF ∧
      n = (bits * 64 + (b₁.toNat - 0x80)) * 64 + (b₂.toNat - 0x80) := by
  rw [completes_succ]
  constructor
  · rintro ⟨b₁, rest, rfl, hleast, hgreatest, h⟩
    obtain ⟨b₂, rfl, hleast₂, hgreatest₂, hn⟩ := completes_one.mp h
    exact ⟨b₁, b₂, rfl, hleast, hgreatest, hleast₂, hgreatest₂, hn⟩
  · rintro ⟨b₁, b₂, rfl, hleast, hgreatest, hleast₂, hgreatest₂, hn⟩
    exact ⟨b₁, [b₂], rfl, hleast, hgreatest,
      completes_one.mpr ⟨b₂, rfl, hleast₂, hgreatest₂, hn⟩⟩

theorem completes_three : Completes ⟨3, least, greatest, bits⟩ bs n ↔
    ∃ b₁ b₂ b₃ : UInt8, bs = [b₁, b₂, b₃] ∧ least.toNat ≤ b₁.toNat ∧
      b₁.toNat ≤ greatest.toNat ∧ 0x80 ≤ b₂.toNat ∧ b₂.toNat ≤ 0xBF ∧ 0x80 ≤ b₃.toNat ∧
      b₃.toNat ≤ 0xBF ∧
      n = ((bits * 64 + (b₁.toNat - 0x80)) * 64 + (b₂.toNat - 0x80)) * 64 + (b₃.toNat - 0x80) := by
  rw [completes_succ]
  constructor
  · rintro ⟨b₁, rest, rfl, hleast, hgreatest, h⟩
    obtain ⟨b₂, b₃, rfl, hleast₂, hgreatest₂, hleast₃, hgreatest₃, hn⟩ := completes_two.mp h
    exact ⟨b₁, b₂, b₃, rfl, hleast, hgreatest, hleast₂, hgreatest₂, hleast₃, hgreatest₃, hn⟩
  · rintro ⟨b₁, b₂, b₃, rfl, hleast, hgreatest, hleast₂, hgreatest₂, hleast₃, hgreatest₃, hn⟩
    exact ⟨b₁, [b₂, b₃], rfl, hleast, hgreatest,
      completes_two.mpr ⟨b₂, b₃, rfl, hleast₂, hgreatest₂, hleast₃, hgreatest₃, hn⟩⟩

end Pending

/-- A character begun that owes one byte. -/
theorem encode_of_completes_one {b : UInt8} (hb : 0xC2 ≤ b.toNat) (hb' : b.toNat < 0xE0)
    (h : Pending.Completes ⟨1, 0x80, 0xBF, b.toNat - 0xC0⟩ bs n) :
    String.utf8EncodeChar (Char.ofNat n) = b :: bs := by
  obtain ⟨b₁, rfl, hleast, hgreatest, hn⟩ := Pending.completes_one.mp h
  simp only [UInt8.reduceToNat] at hleast hgreatest
  apply two_bytes <;> omega

/-- A character begun that owes two bytes; the range of the first one keeps out short forms and
surrogates. -/
theorem encode_of_completes_two {b least greatest : UInt8} {bits : Nat}
    (h : Pending.Completes ⟨2, least, greatest, bits⟩ bs n) (hb : b.toNat = 0xE0 + bits)
    (hbits : bits < 0x10) (hleast : 0x80 ≤ least.toNat) (hgreatest : greatest.toNat ≤ 0xBF)
    (hshort : bits = 0 → 0xA0 ≤ least.toNat) (hsurrogate : bits = 0xD → greatest.toNat ≤ 0x9F) :
    String.utf8EncodeChar (Char.ofNat n) = b :: bs := by
  obtain ⟨b₁, b₂, rfl, hl₁, hg₁, hl₂, hg₂, hn⟩ := Pending.completes_two.mp h
  have hv : n.isValidChar := by
    unfold Nat.isValidChar
    omega
  apply three_bytes hv <;> omega

/-- A character begun that owes three bytes; the range of the first one keeps out short forms and
numbers that are too great. -/
theorem encode_of_completes_three {b least greatest : UInt8} {bits : Nat}
    (h : Pending.Completes ⟨3, least, greatest, bits⟩ bs n) (hb : b.toNat = 0xF0 + bits)
    (hbits : bits ≤ 4) (hleast : 0x80 ≤ least.toNat) (hgreatest : greatest.toNat ≤ 0xBF)
    (hshort : bits = 0 → 0x90 ≤ least.toNat) (hgreat : bits = 4 → greatest.toNat ≤ 0x8F) :
    String.utf8EncodeChar (Char.ofNat n) = b :: bs := by
  obtain ⟨b₁, b₂, b₃, rfl, hl₁, hg₁, hl₂, hg₂, hl₃, hg₃, hn⟩ := Pending.completes_three.mp h
  apply four_bytes <;> omega

/-- A first byte and the bytes that complete its character are the bytes of that character. -/
theorem encode_of_completes {b : UInt8} {p : Pending} (hb : first b = some p)
    (h : p.Completes bs n) : String.utf8EncodeChar (Char.ofNat n) = b :: bs := by
  rw [first_eq] at hb
  split at hb
  · cases hb
    obtain ⟨rfl, hn⟩ := Pending.completes_zero.mp h
    exact one_byte (by omega) hn.symm
  split at hb
  · cases hb
  split at hb
  · next htwo =>
    cases hb
    exact encode_of_completes_one (by omega) htwo h
  split at hb
  · next hE0 =>
    cases hb
    exact encode_of_completes_two h hE0 (by decide) (by decide) (by decide) (by decide) (by decide)
  split at hb
  · next hED =>
    cases hb
    exact encode_of_completes_two h hED (by decide) (by decide) (by decide) (by decide) (by decide)
  split at hb
  · cases hb
    exact encode_of_completes_two h (by omega) (by omega) (by decide) (by decide) (by omega)
      (by omega)
  split at hb
  · next hF0 =>
    cases hb
    exact encode_of_completes_three h hF0 (by decide) (by decide) (by decide) (by decide)
      (by decide)
  split at hb
  · cases hb
    exact encode_of_completes_three h (by omega) (by omega) (by decide) (by decide) (by omega)
      (by omega)
  split at hb
  · next hF4 =>
    cases hb
    exact encode_of_completes_three h hF4 (by decide) (by decide) (by decide) (by decide)
      (by decide)
  · cases hb

/-! Every character is begun by some byte and completed by others, one case for each length. -/

theorem exists_first_one (hn : n < 0x80) : ∃ b bs p, first b = some p ∧ p.Completes bs n := by
  obtain ⟨b, hb⟩ := exists_byte (k := n) (by omega)
  have hfirst : first b = some ⟨0, 0x80, 0xBF, b.toNat⟩ := by
    rw [first_eq, if_pos (by omega)]
  exact ⟨b, [], _, hfirst, Pending.completes_zero.mpr ⟨rfl, hb.symm⟩⟩

theorem exists_first_two (hleast : 0x80 ≤ n) (hn : n < 0x800) :
    ∃ b bs p, first b = some p ∧ p.Completes bs n := by
  obtain ⟨b, hb⟩ := exists_byte (k := 0xC0 + n / 64) (by omega)
  obtain ⟨b₁, hb₁⟩ := exists_byte (k := 0x80 + n % 64) (by omega)
  have hfirst : first b = some ⟨1, 0x80, 0xBF, b.toNat - 0xC0⟩ := by
    rw [first_eq, if_neg (by omega), if_neg (by omega), if_pos (by omega)]
  refine ⟨b, [b₁], _, hfirst, Pending.completes_one.mpr ⟨b₁, rfl, ?_⟩⟩
  simp only [UInt8.reduceToNat]
  omega

theorem exists_first_three (hv : n.isValidChar) (hleast : 0x800 ≤ n) (hn : n < 0x10000) :
    ∃ b bs p, first b = some p ∧ p.Completes bs n := by
  obtain ⟨b, hb⟩ := exists_byte (k := 0xE0 + n / 4096) (by omega)
  obtain ⟨b₁, hb₁⟩ := exists_byte (k := 0x80 + n / 64 % 64) (by omega)
  obtain ⟨b₂, hb₂⟩ := exists_byte (k := 0x80 + n % 64) (by omega)
  -- the three kinds of first bytes differ in the range of the byte that follows
  have hbegun {least greatest : UInt8} {bits : Nat}
      (hfirst : first b = some ⟨2, least, greatest, bits⟩)
      (h : bits = n / 4096 ∧ least.toNat ≤ b₁.toNat ∧ b₁.toNat ≤ greatest.toNat) :
      ∃ b bs p, first b = some p ∧ p.Completes bs n := by
    obtain ⟨hbits, hleast, hgreatest⟩ := h
    refine ⟨b, [b₁, b₂], _, hfirst, Pending.completes_two.mpr ⟨b₁, b₂, rfl, hleast, hgreatest, ?_⟩⟩
    omega
  unfold Nat.isValidChar at hv
  have hfirst := first_eq b
  rw [if_neg (by omega), if_neg (by omega), if_neg (by omega)] at hfirst
  by_cases hE0 : b.toNat = 0xE0
  · rw [if_pos hE0] at hfirst
    apply hbegun hfirst
    simp only [UInt8.reduceToNat]
    omega
  by_cases hED : b.toNat = 0xED
  · rw [if_neg hE0, if_pos hED] at hfirst
    apply hbegun hfirst
    simp only [UInt8.reduceToNat]
    omega
  · rw [if_neg hE0, if_neg hED, if_pos (by omega)] at hfirst
    apply hbegun hfirst
    simp only [UInt8.reduceToNat]
    omega

theorem exists_first_four (hleast : 0x10000 ≤ n) (hn : n < 0x110000) :
    ∃ b bs p, first b = some p ∧ p.Completes bs n := by
  obtain ⟨b, hb⟩ := exists_byte (k := 0xF0 + n / 262144) (by omega)
  obtain ⟨b₁, hb₁⟩ := exists_byte (k := 0x80 + n / 4096 % 64) (by omega)
  obtain ⟨b₂, hb₂⟩ := exists_byte (k := 0x80 + n / 64 % 64) (by omega)
  obtain ⟨b₃, hb₃⟩ := exists_byte (k := 0x80 + n % 64) (by omega)
  have hbegun {least greatest : UInt8} {bits : Nat}
      (hfirst : first b = some ⟨3, least, greatest, bits⟩)
      (h : bits = n / 262144 ∧ least.toNat ≤ b₁.toNat ∧ b₁.toNat ≤ greatest.toNat) :
      ∃ b bs p, first b = some p ∧ p.Completes bs n := by
    obtain ⟨hbits, hleast, hgreatest⟩ := h
    refine ⟨b, [b₁, b₂, b₃], _, hfirst,
      Pending.completes_three.mpr ⟨b₁, b₂, b₃, rfl, hleast, hgreatest, ?_⟩⟩
    omega
  have hfirst := first_eq b
  rw [if_neg (by omega), if_neg (by omega), if_neg (by omega), if_neg (by omega),
    if_neg (by omega), if_neg (by omega)] at hfirst
  by_cases hF0 : b.toNat = 0xF0
  · rw [if_pos hF0] at hfirst
    apply hbegun hfirst
    simp only [UInt8.reduceToNat]
    omega
  by_cases hF4 : b.toNat = 0xF4
  · rw [if_neg hF0, if_neg (by omega), if_pos hF4] at hfirst
    apply hbegun hfirst
    simp only [UInt8.reduceToNat]
    omega
  · rw [if_neg hF0, if_pos (by omega)] at hfirst
    apply hbegun hfirst
    simp only [UInt8.reduceToNat]
    omega

/-- The bytes of a character are a first byte and the bytes that complete it. -/
theorem completes_of_encode (c : Char) :
    ∃ b bs p, first b = some p ∧ p.Completes bs c.toNat ∧ String.utf8EncodeChar c = b :: bs := by
  have hv : c.toNat.isValidChar := c.valid
  have hbegun : ∃ b bs p, first b = some p ∧ p.Completes bs c.toNat := by
    by_cases hone : c.toNat < 0x80
    · exact exists_first_one hone
    by_cases htwo : c.toNat < 0x800
    · exact exists_first_two (by omega) htwo
    by_cases hthree : c.toNat < 0x10000
    · exact exists_first_three hv (by omega) hthree
    · unfold Nat.isValidChar at hv
      exact exists_first_four (by omega) (by omega)
  obtain ⟨b, bs, p, hfirst, hcompletes⟩ := hbegun
  refine ⟨b, bs, p, hfirst, hcompletes, ?_⟩
  rw [← encode_of_completes hfirst hcompletes, Char.ofNat_toNat]

/-! ### Decoding -/

/-- Decode what follows a character begun. -/
def resume (p : Pending) (bytes : List UInt8) : Except Fault (List Char) :=
  if p.owed = 0 then (decodeFrom none bytes).map (Char.ofNat p.bits :: ·)
  else decodeFrom (some p) bytes

theorem decodeFrom_cons {p : Pending} (hp : first b = some p) :
    decodeFrom none (b :: bytes) = resume p bytes := by
  simp [decodeFrom, hp, resume]

theorem resume_cons (howed : p.owed ≠ 0) :
    resume p (b :: bytes) =
      if p.least ≤ b ∧ b ≤ p.greatest then resume (p.next b) bytes
      else .error .continuationByte := by
  rw [resume, if_neg howed, decodeFrom]
  split
  · by_cases hlast : p.owed ≤ 1
    · have hnext : (p.next b).owed = 0 := by
        simp only [Pending.next]
        omega
      rw [resume, if_pos hnext, if_pos hlast]
      rfl
    · have hnext : (p.next b).owed ≠ 0 := by
        simp only [Pending.next]
        omega
      rw [resume, if_neg hnext, if_neg hlast]
      rfl
  · rfl

/-- The bytes that complete a character begun give it. -/
theorem Pending.Completes.resume {p : Pending} (h : p.Completes bs n) (rest : List UInt8) :
    Utf8.resume p (bs ++ rest) = (decodeFrom none rest).map (Char.ofNat n :: ·) := by
  induction h with
  | done howed => rw [List.nil_append, Utf8.resume, if_pos howed]
  | byte howed hleast hgreatest _ ih =>
      rw [List.cons_append, resume_cons howed, if_pos ⟨hleast, hgreatest⟩, ih]

/-- Only such bytes do. -/
theorem completes_of_resume {owed : Nat} {p : Pending} (howed : p.owed = owed)
    (h : resume p bytes = .ok cs) :
    ∃ bs n rest cs', bytes = bs ++ rest ∧ p.Completes bs n ∧ cs = Char.ofNat n :: cs' ∧
      decodeFrom none rest = .ok cs' := by
  induction owed generalizing p bytes with
  | zero =>
      rw [resume, if_pos howed] at h
      cases hrest : decodeFrom none bytes with
      | error fault => simp [hrest, Except.map] at h
      | ok cs' =>
          rw [hrest] at h
          cases h
          exact ⟨[], p.bits, bytes, cs', rfl, .done howed, rfl, hrest⟩
  | succ owed ih =>
      have hne : p.owed ≠ 0 := by omega
      cases bytes with
      | nil => simp [resume, hne, decodeFrom] at h
      | cons b rest =>
          rw [resume_cons hne] at h
          split at h
          · next hrange =>
            have hnext : (p.next b).owed = owed := by
              simp only [Pending.next]
              omega
            obtain ⟨bs, n, rest', cs', rfl, hcompletes, hcs, hrest⟩ := ih hnext h
            exact ⟨b :: bs, n, rest', cs', rfl, .byte hne hrange.1 hrange.2 hcompletes, hcs, hrest⟩
          · cases h

theorem decodeFrom_encode (cs : List Char) :
    decodeFrom none (cs.flatMap String.utf8EncodeChar) = .ok cs := by
  induction cs with
  | nil => simp [decodeFrom]
  | cons c cs ih =>
      obtain ⟨b, bs, p, hfirst, hcompletes, hbytes⟩ := completes_of_encode c
      rw [List.flatMap_cons, hbytes, List.cons_append, decodeFrom_cons hfirst, hcompletes.resume,
        ih, Char.ofNat_toNat]
      rfl

theorem eq_encode_of_decodeFrom (h : decodeFrom none bytes = .ok cs) :
    bytes = cs.flatMap String.utf8EncodeChar := by
  induction cs generalizing bytes with
  | nil =>
      cases bytes with
      | nil => rfl
      | cons b rest =>
          cases hfirst : first b with
          | none => simp [decodeFrom, hfirst] at h
          | some p =>
              rw [decodeFrom_cons hfirst] at h
              obtain ⟨_, _, _, _, _, _, hcs, _⟩ := completes_of_resume rfl h
              cases hcs
  | cons c cs ih =>
      cases bytes with
      | nil => simp [decodeFrom] at h
      | cons b rest =>
          cases hfirst : first b with
          | none => simp [decodeFrom, hfirst] at h
          | some p =>
              rw [decodeFrom_cons hfirst] at h
              obtain ⟨bs, n, rest, cs', rfl, hcompletes, hcs, hrest⟩ := completes_of_resume rfl h
              cases hcs
              rw [List.flatMap_cons, encode_of_completes hfirst hcompletes, List.cons_append,
                ih hrest]

/-! ### Texts -/

/-- The list of the bytes of an array. -/
theorem toList_loop (bytes : ByteArray) (i : Nat) (acc : List UInt8) :
    ByteArray.toList.loop bytes i acc = acc.reverse ++ bytes.data.toList.drop i := by
  fun_induction ByteArray.toList.loop bytes i acc with
  | case1 i acc h ih =>
      have hi : i < bytes.data.toList.length := by simpa using h
      rw [ih, List.drop_eq_getElem_cons hi]
      simp [ByteArray.get!, h]
  | case2 i acc h =>
      rw [List.drop_eq_nil_of_le (by simpa using Nat.le_of_not_lt h), List.append_nil]

/-- The bytes of a text are those of its characters, one after the other. -/
theorem encode_eq_flatMap (s : String) : encode s = s.toList.flatMap String.utf8EncodeChar := by
  obtain ⟨cs, rfl⟩ : ∃ cs, s = String.ofList cs := ⟨s.toList, String.ofList_toList.symm⟩
  have hbytes : (String.ofList cs).toUTF8 = (cs.flatMap String.utf8EncodeChar).toByteArray := rfl
  rw [encode, hbytes, ByteArray.toList, toList_loop, List.toList_data_toByteArray,
    String.toList_ofList]
  rfl

/-- Bytes are decoded exactly if they are the bytes of a text, to that text. -/
theorem decode_eq_ok_iff {s : String} : decode bytes = .ok s ↔ bytes = encode s := by
  rw [encode_eq_flatMap, decode]
  constructor
  · intro h
    cases hcs : decodeFrom none bytes with
    | error fault => simp [hcs, Except.map] at h
    | ok cs =>
        rw [hcs] at h
        cases h
        rw [String.toList_ofList]
        exact eq_encode_of_decodeFrom hcs
  · rintro rfl
    rw [decodeFrom_encode, Except.map, String.ofList_toList]

end PageBuilder.Text.Utf8
