import PageBuilder.Action.Basic
import PageBuilder.Proofs.DoubleText
import PageBuilder.Proofs.FreshIds

/-! # Values where a text is expected

A value that is neither a text nor an object displays with a first character by which it can be told
from the names and the tokens of actions. -/

namespace PageBuilder

namespace Json

/-- The first characters of the literals of values that are neither texts nor objects. -/
def StartsLiteral (c : Char) : Prop :=
  c.isDigit ∨ c ∈ ['N', 'T', 'F', 'n', 'i', '-', '[']

theorem StartsLiteral.ne {c d : Char} (hc : StartsLiteral c) (hdigit : d.isDigit = false)
    (hd : d ∉ ['N', 'T', 'F', 'n', 'i', '-', '[']) : c ≠ d :=
  ne_of_digit_or_mem hc hdigit hd

theorem StartsLiteral.not_blank {c : Char} (hc : StartsLiteral c) : Text.isBlank c = false := by
  rcases hc with h | h
  · exact Text.isBlank_of_isDigit h
  · simp only [List.mem_cons, List.not_mem_nil, or_false] at h
    rcases h with rfl | rfl | rfl | rfl | rfl | rfl | rfl <;> rfl

theorem exists_start_of_magnitude (l : Binary64.Layout) (rank : Fin (2047 * Nat.pow 2 52)) :
    ∃ c cs, l.magnitude rank = c :: cs ∧ c.isDigit := by
  have hread := readMagnitude_magnitude l false rank .nil
  rw [List.append_nil] at hread
  exact exists_digit_of_readMagnitude hread

theorem exists_start_of_plain (x : Binary64) :
    ∃ c cs, Binary64.Layout.plain.write x = c :: cs ∧ StartsLiteral c := by
  cases x with
  | nan => exact ⟨_, _, rfl, .inr (by decide)⟩
  | infinite negative => cases negative <;> exact ⟨_, _, rfl, .inr (by decide)⟩
  | finite negative rank =>
      cases negative with
      | false =>
          obtain ⟨c, cs, hcs, hc⟩ := exists_start_of_magnitude .plain rank
          exact ⟨c, cs, hcs, .inl hc⟩
      | true => exact ⟨_, _, rfl, .inr (by decide)⟩

theorem exists_start_of_numeral (n : Int) :
    ∃ c cs, Numeral.ofInt n = c :: cs ∧ StartsLiteral c := by
  cases n with
  | ofNat n =>
      obtain ⟨c, cs, hcs⟩ := List.exists_cons_of_ne_nil (Numeral.ofNat_ne_nil n)
      have hmem : c ∈ Numeral.ofNat n := by
        rw [hcs]
        exact List.mem_cons_self
      exact ⟨c, cs, hcs, .inl (Numeral.isDigit_of_mem_ofNat hmem)⟩
  | negSucc n => exact ⟨_, _, rfl, .inr (by decide)⟩

theorem exists_start_of_literal {v : Json} (htext : v.text? = none) (hfields : v.fields? = none) :
    ∃ c cs, literal v = c :: cs ∧ StartsLiteral c := by
  cases v with
  | null => exact ⟨_, _, rfl, .inr (by decide)⟩
  | bool b => cases b <;> exact ⟨_, _, rfl, .inr (by decide)⟩
  | int n => exact exists_start_of_numeral n
  | float x => exact exists_start_of_plain x
  | str s => cases htext
  | arr xs => exact ⟨_, _, rfl, .inr (by decide)⟩
  | obj fs => cases hfields

theorem toList_display {v : Json} (h : v.text? = none) : v.display.toList = literal v := by
  cases v with
  | str s => cases h
  | _ => exact String.toList_ofList

/-- A value that displays as a text that no literal starts like is that text. -/
theorem eq_str_of_display {v : Json} {s : String} {c : Char} {cs : List Char}
    (h : v.display = s) (hs : s.toList = c :: cs) (hdigit : c.isDigit = false)
    (hc : c ∉ ['N', 'T', 'F', 'n', 'i', '-', '[']) (hbrace : c ≠ '{') : v = .str s := by
  cases htext : v.text? with
  | some t =>
      cases v <;> simp [text?] at htext
      rw [display_str] at h
      rw [h]
  | none =>
      have hlist := toList_display htext
      rw [h, hs] at hlist
      cases hfields : v.fields? with
      | none =>
          obtain ⟨d, ds, hds, hd⟩ := exists_start_of_literal htext hfields
          rw [hds] at hlist
          exact absurd (List.cons.inj hlist).1.symm (hd.ne hdigit hc)
      | some fs =>
          cases v <;> simp [fields?] at hfields
          exact absurd (List.cons.inj hlist).1 hbrace

theorem display_ne_empty {v : Json} (h : v.text? = none) : v.display ≠ "" := by
  intro hempty
  have hlist := toList_display h
  rw [hempty] at hlist
  cases hfields : v.fields? with
  | none =>
      obtain ⟨c, cs, hcs, -⟩ := exists_start_of_literal h hfields
      rw [hcs] at hlist
      cases hlist
  | some fs =>
      cases v <;> simp [fields?] at hfields
      cases hlist

/-- The first value that counts as yes displays as some text. -/
theorem ne_empty_of_find?_truthy {vs : List Json} {s : String}
    (h : (vs.find? truthy).map display = some s) : s ≠ "" := by
  obtain ⟨v, hv, rfl⟩ := Option.map_eq_some_iff.mp h
  have htruthy := List.find?_some hv
  cases htext : v.text? with
  | none => exact display_ne_empty htext
  | some s =>
      cases v <;> simp [text?] at htext
      simpa [truthy] using htruthy

/-- Only null and the empty text display as nothing. -/
theorem displayOrEmpty_eq_empty_iff {v : Json} :
    v.displayOrEmpty = "" ↔ v = .null ∨ v = .str "" := by
  cases v with
  | null => simp [displayOrEmpty]
  | str s => simp [displayOrEmpty]
  | bool b => simp [displayOrEmpty, displayUnlessNull?, display_ne_empty (v := .bool b) rfl]
  | int n => simp [displayOrEmpty, displayUnlessNull?, display_ne_empty (v := .int n) rfl]
  | float x => simp [displayOrEmpty, displayUnlessNull?, display_ne_empty (v := .float x) rfl]
  | arr xs => simp [displayOrEmpty, displayUnlessNull?, display_ne_empty (v := .arr xs) rfl]
  | obj fs => simp [displayOrEmpty, displayUnlessNull?, display_ne_empty (v := .obj fs) rfl]

end Json

namespace Text

/-- Stripping keeps a first character that is not white space. -/
theorem head?_stripChars {c : Char} (hc : isBlank c = false) (cs : List Char) :
    (stripChars (c :: cs)).head? = some c := by
  have hleft : (c :: cs).dropWhile isBlank = c :: cs := by simp [hc]
  rw [stripChars, hleft, List.reverse_cons, List.dropWhile_append]
  split
  · simp [hc]
  · simp

theorem stripChars_eq_self {first last : Char} {cs : List Char} (hfirst : isBlank first = false)
    (hlast : isBlank last = false) (h : (first :: cs).getLast? = some last) :
    stripChars (first :: cs) = first :: cs := by
  have hfront : (first :: cs).dropWhile isBlank = first :: cs :=
    List.dropWhile_cons_of_neg (by simp [hfirst])
  obtain ⟨rest, hrest⟩ : ∃ rest, (first :: cs).reverse = last :: rest := by
    rw [List.getLast?_eq_head?_reverse] at h
    exact List.head?_eq_some_iff.mp h
  rw [stripChars, hfront, hrest, List.dropWhile_cons_of_neg (by simp [hlast]), ← hrest,
    List.reverse_reverse]

end Text

end PageBuilder
