import Mathlib.Data.List.Nodup
import Mathlib.Data.List.Perm.Subperm
import PageBuilder.Edit.FreshId
import PageBuilder.Text.Blank

/-!
# Fresh ids are free

One more candidate than there are taken ids always holds a free one, since different stamps give
different ids. A stamped id ends in a digit, so it is never blank, whatever its stem.
-/

namespace PageBuilder

theorem exists_free_candidate (stem : String) (taken : List String) (clock : Int) :
    ∃ k ∈ List.range (taken.length + 1), stampedId stem (clock + (k : Int)) ∉ taken := by
  by_contra hnone
  push Not at hnone
  have hnodup : ((List.range (taken.length + 1)).map fun (k : Nat) =>
      stampedId stem (clock + (k : Int))).Nodup := by
    refine List.Nodup.map (fun a b hab => ?_) List.nodup_range
    have := stampedId_injective hab
    omega
  have hsub : ((List.range (taken.length + 1)).map fun (k : Nat) =>
      stampedId stem (clock + (k : Int))) ⊆ taken := by
    intro id hid
    obtain ⟨k, hk, rfl⟩ := List.mem_map.mp hid
    exact hnone k hk
  have hlen := (List.subperm_of_subset hnodup hsub).length_le
  rw [List.length_map, List.length_range] at hlen
  omega

/-- A fresh id is not taken. -/
theorem freshId_not_mem (stem : String) (taken : List String) (clock : Int) :
    freshId stem taken clock ∉ taken := by
  obtain ⟨k, hk, hfree⟩ := exists_free_candidate stem taken clock
  have hfound : ∃ stamp, (((List.range (taken.length + 1)).map fun (k : Nat) =>
      clock + (k : Int)).find? fun stamp => !taken.contains (stampedId stem stamp)) =
      some stamp := by
    apply Option.isSome_iff_exists.mp
    rw [List.find?_isSome]
    exact ⟨clock + (k : Int), List.mem_map.mpr ⟨k, hk, rfl⟩, by simpa using hfree⟩
  obtain ⟨stamp, hstamp⟩ := hfound
  have hfree := List.find?_some hstamp
  simp only [freshId, freshStamp, hstamp, Option.getD_some]
  simpa using hfree

namespace Text

theorem isBlank_of_isDigit {c : Char} (h : c.isDigit) : isBlank c = false := by
  have hrange : 48 ≤ c.toNat ∧ c.toNat ≤ 57 := Char.isDigit_iff_toNat.mp h
  apply Bool.eq_false_iff.mpr
  intro hblank
  obtain ⟨r, hr, hlow, hhigh⟩ := inRanges_iff.mp hblank
  simp only [blankRanges, List.mem_cons, List.not_mem_nil, or_false] at hr
  rcases hr with rfl | rfl | rfl | rfl | rfl | rfl | rfl | rfl | rfl | rfl <;>
    simp at hlow hhigh <;> omega

theorem blank_append (s t : String) : blank (s ++ t) = (blank s && blank t) := by
  simp [blank, String.toList_append, List.all_append]

end Text

theorem blank_numeral (n : Int) : Text.blank (Numeral.text n) = false := by
  have hdigits (m : Nat) : (Numeral.ofNat m).all Text.isBlank = false := by
    obtain ⟨c, hc⟩ := List.exists_mem_of_ne_nil _ (Nat.toDigits_ne_nil (n := m) (b := 10))
    exact List.all_eq_false.mpr
      ⟨c, hc, by simp [Text.isBlank_of_isDigit (Numeral.isDigit_of_mem_ofNat hc)]⟩
  cases n with
  | ofNat m => simpa [Text.blank, Numeral.text, Numeral.ofInt] using hdigits m
  | negSucc m =>
      simp only [Text.blank, Numeral.text, Numeral.ofInt, String.toList_ofList, List.all_cons,
        hdigits, Bool.and_false]

/-- A fresh id is not blank. -/
theorem freshId_not_blank (stem : String) (taken : List String) (clock : Int) :
    Text.blank (freshId stem taken clock) = false := by
  rw [freshId, stampedId, Text.blank_append, blank_numeral, Bool.and_false]

end PageBuilder
