import PageBuilder.Proofs.NumberText

/-! # Doubles in document text

Each of the written forms of a magnitude is read as a decimal of the same rank: with the point
inside the digits, before or after them, and with an exponent. -/

namespace PageBuilder.Json

open Binary64

/-! ### The parts of written numbers -/

theorem splitWhole_leading_point {ds : List Char} (hds : Numeral.Leading ds) (rest : List Char) :
    splitWhole (ds ++ '.' :: rest) = some (ds, '.' :: rest) := by
  apply splitWhole_append hds
  intro c hc
  cases hc
  rfl

/-- The digits of an exponent, with zeros in front up to the given width. -/
def power (width : Nat) (exponent : Int) : List Char :=
  List.replicate (width - (Numeral.ofNat exponent.natAbs).length) '0' ++
    Numeral.ofNat exponent.natAbs

theorem splitExponent_power (width : Nat) (exponent : Int) {rest : List Char}
    (hrest : NumberEnds rest) :
    splitExponent ('e' :: exponentSign (exponent < 0) :: (power width exponent ++ rest)) =
      (some exponent, rest) := by
  have hne : power width exponent ≠ [] :=
    List.append_ne_nil_of_right_ne_nil _ (Numeral.ofNat_ne_nil _)
  have hdigits : ∀ c ∈ power width exponent, c.isDigit := by
    intro c hc
    rcases List.mem_append.mp hc with hzero | hmem
    · exact Numeral.isDigit_of_mem_zeros hzero
    · exact Numeral.isDigit_of_mem_ofNat hmem
  have hvalue : Numeral.value (power width exponent) = exponent.natAbs := by
    rw [power, Numeral.value_zeros_append, Numeral.value_ofNat]
  have hsigned : (if decide (exponent < 0) then -(exponent.natAbs : Int) else exponent.natAbs) =
      exponent := by
    split
    · next h =>
      have := of_decide_eq_true h
      omega
    · next h =>
      have := of_decide_eq_false (Bool.eq_false_iff.mpr h)
      omega
  rw [splitExponent_sign _ hne hdigits hrest.not_isDigit, hvalue, hsigned]

theorem scientific_eq (width : Nat) (d : Char) (ds : List Char) (exponent : Int) :
    scientific width (d :: ds) exponent =
      d :: ((if ds = [] then [] else '.' :: ds) ++
        'e' :: exponentSign (exponent < 0) :: power width exponent) := by
  have hsign : (if exponent < 0 then '-' else '+') = exponentSign (exponent < 0) := by
    simp [exponentSign]
  cases ds with
  | nil => simp [scientific, power, hsign]
  | cons d' ds => simp [scientific, power, hsign]

/-- Without the zeros at their end the digits of a decimal still have its rank. -/
theorem dropTrailingZeros_digits {d : Decimal} (hd : 0 < d.digits) {ds : List Char}
    (h : dropTrailingZeros (Numeral.ofNat d.digits) = ds) :
    Numeral.Leading ds ∧
      rankOfDecimal ⟨Numeral.value ds, d.exponent + (Numeral.ofNat d.digits).length - ds.length⟩ =
        rankOfDecimal d := by
  obtain ⟨k, hall⟩ := exists_dropTrailingZeros (Numeral.ofNat d.digits)
  rw [h] at hall
  constructor
  · have hleading := Numeral.Leading.ofNat hd
    rw [hall] at hleading
    exact hleading.of_append_zeros
  · have hvalue : d.digits = Numeral.value ds * 10 ^ k := by
      rw [← Numeral.value_append_zeros, ← hall, Numeral.value_ofNat]
    rw [← rankOfDecimal_padded _ k, hall]
    congr 1
    simp only [Decimal.padded, ← hvalue, List.length_append, List.length_replicate]
    obtain ⟨digits, exponent⟩ := d
    simp only [Decimal.mk.injEq, true_and]
    omega

/-- Digits and the characters of a list are none of the other characters. -/
theorem ne_of_digit_or_mem {cs : List Char} {c d : Char} (hc : c.isDigit ∨ c ∈ cs)
    (hdigit : d.isDigit = false) (hd : d ∉ cs) : c ≠ d := by
  rintro rfl
  rcases hc with h | h
  · rw [hdigit] at h
    cases h
  · exact hd h

theorem ne_of_isDigit {c d : Char} (hc : c.isDigit) (hd : d.isDigit = false) : d ≠ c :=
  (ne_of_digit_or_mem (.inl hc) hd List.not_mem_nil).symm

/-- No word starts with a digit, nor with a minus sign and a digit. -/
theorem words_findSome?_digit {c : Char} (hc : c.isDigit) (cs : List Char) :
    (words.findSome? fun w => (Text.afterChars? w.1 (c :: cs)).map fun rest => (w.2, rest)) = none ∧
      (words.findSome? fun w =>
        (Text.afterChars? w.1 ('-' :: c :: cs)).map fun rest => (w.2, rest)) = none := by
  have h (d : Char) (hd : d.isDigit = false) : d ≠ c := ne_of_isDigit hc hd
  simp [words, Text.afterChars?, h 'n' rfl, h 't' rfl, h 'f' rfl, h 'N' rfl, h 'I' rfl, h '-' rfl]

/-! ### Magnitudes -/

variable [Limits]

/-- Before anything that ends a number, the text is read as a decimal of the given rank. -/
def ReadsAs (text : List Char) (rank : Option Nat) : Prop :=
  ∀ negative rest, NumberEnds rest → ∃ d : Decimal,
    readMagnitude negative (text ++ rest) = .ok (.float (ofDecimal negative d), rest) ∧
      rankOfDecimal d = rank

theorem ReadsAs.of_double {text : List Char} {rank : Option Nat} (whole fraction : List Char)
    (exponent : Option Int)
    (hparts : ∀ rest, NumberEnds rest → ∃ afterWhole afterFraction,
      splitWhole (text ++ rest) = some (whole, afterWhole) ∧
        splitFraction afterWhole = (fraction, afterFraction) ∧
        splitExponent afterFraction = (exponent, rest))
    (hdouble : fraction ≠ [] ∨ exponent ≠ none)
    (hrank : rankOfDecimal
      ⟨Numeral.value (whole ++ fraction), exponent.getD 0 - fraction.length⟩ = rank) :
    ReadsAs text rank := by
  intro negative rest hrest
  obtain ⟨afterWhole, afterFraction, hwhole, hfraction, hexponent⟩ := hparts rest hrest
  exact ⟨_, readMagnitude_double negative hwhole hfraction hexponent hdouble, hrank⟩

/-- Digits, a point and digits. -/
theorem readsAs_point {whole fraction : List Char} {rank : Option Nat}
    (hwhole : ∀ rest, splitWhole (whole ++ '.' :: rest) = some (whole, '.' :: rest))
    (hne : fraction ≠ []) (hfraction : ∀ c ∈ fraction, c.isDigit)
    (hrank : rankOfDecimal ⟨Numeral.value (whole ++ fraction), -fraction.length⟩ = rank) :
    ReadsAs (whole ++ '.' :: fraction) rank := by
  refine .of_double whole fraction none (fun rest hrest => ?_) (.inl hne) (by simpa using hrank)
  refine ⟨'.' :: (fraction ++ rest), rest, ?_, ?_, splitExponent_of_ends hrest⟩
  · rw [List.append_assoc, List.cons_append]
    exact hwhole (fraction ++ rest)
  · exact splitFraction_point hne hfraction hrest.not_isDigit

/-- The point stands before the digits. -/
theorem readsAs_point_before {ds : List Char} (hds : Numeral.Leading ds) {before : Int}
    (hbefore : before ≤ 0) :
    ReadsAs (positional ds before) (rankOfDecimal ⟨Numeral.value ds, before - ds.length⟩) := by
  have hform : positional ds before =
      ['0'] ++ '.' :: (List.replicate before.natAbs '0' ++ ds) := by
    rw [positional, if_pos hbefore]
    rfl
  rw [hform]
  refine readsAs_point (fun rest => splitWhole_zero _)
    (List.append_ne_nil_of_right_ne_nil _ hds.ne_nil) ?_ ?_
  · intro c hc
    rcases List.mem_append.mp hc with hzero | hmem
    · exact Numeral.isDigit_of_mem_zeros hzero
    · exact hds.isDigit c hmem
  · have hvalue := Numeral.value_zeros_append (1 + before.natAbs) ds
    rw [List.replicate_add, List.append_assoc] at hvalue
    congr 1
    simp only [Decimal.mk.injEq, List.length_append, List.length_replicate]
    exact ⟨hvalue, by omega⟩

/-- The point stands inside the digits. -/
theorem readsAs_point_inside {ds : List Char} (hds : Numeral.Leading ds) {n : Nat} (hn : 0 < n)
    (hinside : n < ds.length) :
    ReadsAs (positional ds n) (rankOfDecimal ⟨Numeral.value ds, n - ds.length⟩) := by
  have hne : ds.drop n ≠ [] := by
    intro hnil
    have := List.drop_eq_nil_iff.mp hnil
    omega
  have hform : positional ds n = ds.take n ++ '.' :: ds.drop n := by
    have hlen : n - min n ds.length = 0 := by omega
    rw [positional, if_neg (by omega)]
    simp [hne, hlen]
  rw [hform]
  refine readsAs_point (splitWhole_leading_point (hds.take hn)) hne
    (fun c hc => hds.isDigit c (List.mem_of_mem_drop hc)) ?_
  rw [List.take_append_drop, List.length_drop]
  congr 2
  omega

/-- The point stands after the digits, and zeros fill the places up to it. -/
theorem readsAs_point_after {ds : List Char} (hds : Numeral.Leading ds) {n : Nat} (hn : 0 < n)
    (hlen : ds.length ≤ n) :
    ReadsAs (positional ds n) (rankOfDecimal ⟨Numeral.value ds, n - ds.length⟩) := by
  have hform : positional ds n = (ds ++ List.replicate (n - ds.length) '0') ++ '.' :: ['0'] := by
    rw [positional, if_neg (by omega)]
    simp [List.take_of_length_le hlen, List.drop_of_length_le hlen]
  rw [hform]
  refine readsAs_point (splitWhole_leading_point (hds.append_zeros _)) (List.cons_ne_nil _ _)
    (by simp) ?_
  rw [← rankOfDecimal_padded ⟨Numeral.value ds, n - ds.length⟩ (n - ds.length + 1),
    List.append_assoc, ← List.replicate_succ', Numeral.value_append_zeros]
  congr 1
  simp only [Decimal.padded, List.length_singleton, Decimal.mk.injEq, true_and]
  omega

theorem readsAs_positional {ds : List Char} (hds : Numeral.Leading ds) (before : Int) :
    ReadsAs (positional ds before) (rankOfDecimal ⟨Numeral.value ds, before - ds.length⟩) := by
  by_cases hbefore : before ≤ 0
  · exact readsAs_point_before hds hbefore
  · obtain ⟨n, rfl⟩ := Int.eq_ofNat_of_zero_le (Int.le_of_not_le hbefore)
    have hn : 0 < n := by omega
    by_cases hinside : n < ds.length
    · exact readsAs_point_inside hds hn hinside
    · exact readsAs_point_after hds hn (Nat.le_of_not_lt hinside)

theorem readsAs_scientific {ds : List Char} (hds : Numeral.Leading ds) (width : Nat)
    (exponent : Int) :
    ReadsAs (scientific width ds exponent)
      (rankOfDecimal ⟨Numeral.value ds, exponent + 1 - ds.length⟩) := by
  cases ds with
  | nil => exact absurd rfl hds.ne_nil
  | cons d ds =>
      have hfirst : Numeral.Leading [d] := hds.take (n := 1) Nat.one_pos
      have hfraction : ∀ c ∈ ds, c.isDigit := fun c hc => hds.isDigit c (List.mem_cons_of_mem d hc)
      rw [scientific_eq]
      refine .of_double [d] ds (some exponent) (fun rest hrest => ?_)
        (.inr (Option.some_ne_none exponent)) ?_
      · refine ⟨_, _, splitWhole_append hfirst ?_, ?_, splitExponent_power width exponent hrest⟩
        · split <;>
          · intro c hc
            cases hc
            rfl
        · by_cases hnil : ds = []
          · rw [hnil]
            exact splitFraction_of_ne (by simp)
          · rw [if_neg hnil]
            have hends : ∀ c ∈ ('e' :: exponentSign (exponent < 0) ::
                (power width exponent ++ rest)).head?, c.isDigit = false := by simp
            simpa using splitFraction_point hnil hfraction hends
      · congr 2
        simp only [Option.getD_some, List.length_cons]
        omega

/-- A written magnitude is read as its own rank. -/
theorem readsAs_magnitude (l : Binary64.Layout) {rank : Nat} (h : rank < 2047 * Nat.pow 2 52) :
    ReadsAs (l.magnitude rank) (some rank) := by
  by_cases hzero : rank = 0
  · subst hzero
    have hwhole (rest : List Char) :
        splitWhole (['0'] ++ '.' :: rest) = some (['0'], '.' :: rest) :=
      splitWhole_zero ('.' :: rest)
    exact readsAs_point hwhole (List.cons_ne_nil '0' []) (by simp) rfl
  · have hpos : 0 < rank := Nat.pos_of_ne_zero hzero
    obtain ⟨hds, hrank⟩ := dropTrailingZeros_digits (shortest_digits_pos hpos h) rfl
    rw [rankOfDecimal_shortest hpos h] at hrank
    simp only [Binary64.Layout.magnitude, if_neg hzero]
    split
    · rw [← hrank]
      exact readsAs_positional hds _
    · have hscientific := readsAs_scientific hds l.exponentDigits
        ((shortest rank).exponent + (Numeral.ofNat (shortest rank).digits).length - 1)
      rw [Int.sub_add_cancel, hrank] at hscientific
      exact hscientific

/-! ### Numbers as scalars -/

theorem readMagnitude_magnitude (l : Binary64.Layout) (negative : Bool)
    (rank : Fin (2047 * Nat.pow 2 52)) {rest : List Char} (hrest : NumberEnds rest) :
    readMagnitude negative (l.magnitude rank ++ rest) =
      .ok (.float (.finite negative rank), rest) := by
  obtain ⟨d, hread, hrank⟩ := readsAs_magnitude l rank.isLt negative rest hrest
  have hdouble : ofDecimal negative d = .finite negative rank := by
    simp only [ofDecimal, hrank, ofRank, dif_pos rank.isLt]
  rw [hread, hdouble]

/-- What is read as a number starts with a digit. -/
theorem exists_digit_of_readMagnitude {negative : Bool} {cs : List Char} {r : Json × List Char}
    (h : readMagnitude negative cs = .ok r) : ∃ c rest, cs = c :: rest ∧ c.isDigit := by
  unfold readMagnitude at h
  split at h
  · cases h
  · next parts hwhole =>
    unfold splitWhole at hwhole
    split at hwhole
    · exact ⟨_, _, rfl, rfl⟩
    · split at hwhole
      · next hdigit => exact ⟨_, _, rfl, hdigit⟩
      · cases hwhole
    · cases hwhole

theorem readScalar_of_readMagnitude {cs : List Char} {r : Json × List Char}
    (h : readMagnitude false cs = .ok r) : readScalar cs = .ok r := by
  obtain ⟨c, rest, rfl, hc⟩ := exists_digit_of_readMagnitude h
  have hminus : '-' ≠ c := ne_of_isDigit hc rfl
  unfold readScalar
  rw [(words_findSome?_digit hc rest).1]
  dsimp only
  split
  · next heq => exact absurd (List.cons.inj heq).1.symm hminus
  · exact h

theorem readScalar_minus {cs : List Char} {r : Json × List Char}
    (h : readMagnitude true cs = .ok r) : readScalar ('-' :: cs) = .ok r := by
  obtain ⟨c, rest, rfl, hc⟩ := exists_digit_of_readMagnitude h
  unfold readScalar
  rw [(words_findSome?_digit hc rest).2]
  simp only [h]

theorem readScalar_ofInt (n : Int) {rest : List Char} (hrest : NumberEnds rest)
    (hlong : tooLong (Numeral.ofNat n.natAbs).length = false) :
    readScalar (Numeral.ofInt n ++ rest) = .ok (.int n, rest) := by
  cases n with
  | ofNat n => exact readScalar_of_readMagnitude (readMagnitude_ofNat false n hrest hlong)
  | negSucc n => exact readScalar_minus (readMagnitude_ofNat true (n + 1) hrest hlong)

theorem readScalar_write (x : Binary64) {rest : List Char} (hrest : NumberEnds rest) :
    readScalar (Binary64.Layout.document.write x ++ rest) = .ok (.float x, rest) := by
  cases x with
  | nan => rfl
  | infinite negative => cases negative <;> rfl
  | finite negative rank =>
      have hread := readMagnitude_magnitude .document negative rank hrest
      cases negative with
      | false => exact readScalar_of_readMagnitude hread
      | true => exact readScalar_minus hread

end PageBuilder.Json
