import PageBuilder.Json.Parser
import PageBuilder.Json.Printer

/-! # Quoted texts

A text that was quoted reads back as itself, whatever follows the closing quote. -/

namespace PageBuilder.Json

/-- The four digits of a control character, read as a code unit. -/
theorem codeUnit?_hexDigits : ∀ n < 0x20, codeUnit? (Text.hexDigits 4 n) = some n := by
  decide

theorem readUnits_hexDigits {n : Nat} (hn : n < 0x20) (t : Char) (rest : List Char) :
    readUnits (Text.hexDigits 4 n ++ t :: rest) = .ok (Char.ofNat n, t :: rest) := by
  have hunit := codeUnit?_hexDigits n hn
  have hhigh : isHighSurrogate n = false := by
    simp only [isHighSurrogate, Bool.and_eq_false_iff, decide_eq_false_iff_not]
    omega
  have hchar : unitChar n = Char.ofNat n := by
    have : ¬ 0xD800 ≤ n := by omega
    simp [unitChar, this]
  simp only [Text.hexDigits, List.nil_append, List.cons_append] at hunit ⊢
  simp only [readUnits, hunit, hhigh, Bool.false_eq_true, if_false, hchar]

/-- One step of the reader takes back one escaped character. -/
theorem readText_escapeChar (fuel : Nat) (c t : Char) (rest : List Char) :
    readText (fuel + 1) (escapeChar c ++ t :: rest) =
      (readText fuel (t :: rest)).map fun r => (c :: r.1, r.2) := by
  by_cases hquote : c = '"'
  · subst hquote; rfl
  by_cases hbackslash : c = '\\'
  · subst hbackslash; rfl
  by_cases hline : c = '\n'
  · subst hline; rfl
  by_cases hreturn : c = '\r'
  · subst hreturn; rfl
  by_cases htab : c = '\t'
  · subst htab; rfl
  by_cases hback : c = '\x08'
  · subst hback; rfl
  by_cases hfeed : c = '\x0c'
  · subst hfeed; rfl
  by_cases hcontrol : c.toNat < 0x20
  · have hescape : escapeChar c = '\\' :: 'u' :: Text.hexDigits 4 c.toNat := by
      simp only [escapeChar, hquote, hbackslash, hline, hreturn, htab, hback, hfeed, hcontrol,
        if_false, if_true]
    have hunits := readUnits_hexDigits hcontrol t rest
    rw [Char.ofNat_toNat] at hunits
    rw [hescape, List.cons_append, List.cons_append]
    simp [readText, hunits]
  · have hescape : escapeChar c = [c] := by
      simp only [escapeChar, hquote, hbackslash, hline, hreturn, htab, hback, hfeed, hcontrol,
        if_false]
    rw [hescape, List.singleton_append]
    simp [readText, hquote, hbackslash, hcontrol]

/-- The induction is on the text; each of its characters takes one unit of fuel. -/
theorem readText_escaped (cs rest : List Char) {fuel : Nat} (hfuel : cs.length < fuel) :
    readText fuel (cs.flatMap escapeChar ++ '"' :: rest) = .ok (cs, rest) := by
  induction cs generalizing fuel with
  | nil =>
      obtain ⟨fuel, rfl⟩ := Nat.exists_eq_add_one_of_ne_zero (Nat.ne_of_gt hfuel)
      rfl
  | cons c cs ih =>
      obtain ⟨fuel, rfl⟩ := Nat.exists_eq_add_one_of_ne_zero (Nat.ne_zero_of_lt hfuel)
      rw [List.length_cons] at hfuel
      have hrest := ih (Nat.lt_of_succ_lt_succ hfuel)
      rw [List.flatMap_cons, List.append_assoc]
      generalize hafter : cs.flatMap escapeChar ++ '"' :: rest = after at hrest
      cases after with
      | nil => exact absurd hafter (by simp)
      | cons t after =>
          rw [readText_escapeChar, hrest]
          rfl

theorem length_le_flatMap_escapeChar (cs : List Char) :
    cs.length ≤ (cs.flatMap escapeChar).length := by
  induction cs with
  | nil => exact Nat.le_refl 0
  | cons c cs ih =>
      have hpos : 0 < (escapeChar c).length := by
        unfold escapeChar
        repeat' split
        all_goals exact Nat.zero_lt_succ _
      rw [List.flatMap_cons, List.length_append, List.length_cons]
      omega

/-- A text in quotes reads back, whatever follows. -/
theorem readString_quoted (s : String) (rest : List Char) :
    readString (s.toList.flatMap escapeChar ++ '"' :: rest) = .ok (s, rest) := by
  have hlen := length_le_flatMap_escapeChar s.toList
  rw [readString, readText_escaped s.toList rest (by rw [List.length_append]; omega)]
  simp [Except.map]

end PageBuilder.Json
