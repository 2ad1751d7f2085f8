import Mathlib.Data.List.Forall2
import Mathlib.Data.List.Perm.Subperm
import PageBuilder.Json.Agreement
import PageBuilder.Proofs.DoubleRounding
import PageBuilder.Proofs.FieldLists

/-! # Agreement is an equivalence

Plain values agree exactly if they are the same value or the same finite number, lists agree item by
item, and objects agree if they are equally long and every field finds one that agrees with it. From
this agreement is transitive, and it is symmetric for values with distinct keys: without them a
field may be found twice and another one never. -/

namespace PageBuilder

/-! ### Numbers -/

namespace Binary64

theorem units_injective : Function.Injective units := fun a b h => by
  rw [← nearestRank_units a, h, nearestRank_units]

/-- Two doubles agree if they are the same value or the same finite number. -/
theorem same_or_numericEq_iff {x y : Binary64} :
    (x == y || x.numericEq y) = true ↔
      x = y ∨ ∃ n, x.signedUnits? = some n ∧ y.signedUnits? = some n := by
  constructor
  · intro h
    by_cases hxy : x = y
    · exact .inl hxy
    · cases x <;> cases y <;> simp_all [numericEq, isZero, signedUnits?, units]
  · rintro (rfl | ⟨n, hx, hy⟩)
    · simp
    · match x, y with
      | .finite s a, .finite t b =>
        simp only [signedUnits?, Option.some.injEq] at hx hy
        by_cases hst : s = t
        · subst hst
          have hunits : units a = units b := by
            cases s <;> simp at hx hy <;> omega
          have hrank : a = b := Fin.ext (units_injective hunits)
          simp [hrank]
        · have hzero : units a = units 0 ∧ units b = units 0 := by
            have h0 : units 0 = 0 := by simp [units]
            cases s <;> cases t <;> simp at hst hx hy <;> omega
          have ha := units_injective hzero.1
          have hb := units_injective hzero.2
          simp [numericEq, isZero, ha, hb]

theorem unitsInOne_ne_zero : (unitsInOne : Int) ≠ 0 :=
  Int.natCast_ne_zero.mpr (Nat.ne_of_gt unitsInOne_pos)

end Binary64

namespace Json

/-- The finite number that a value is, as a count of units. -/
def units? : Json → Option Int
  | .float x => x.signedUnits?
  | v => v.whole?.map (· * (Binary64.unitsInOne : Int))

theorem plain_of_units? {v : Json} {n : Int} (h : v.units? = some n) :
    v.items? = none ∧ v.fields? = none := by
  cases v with
  | arr | obj => cases h
  | _ => exact ⟨rfl, rfl⟩

theorem doubleIsWhole_iff (x : Binary64) (v : Json) :
    v.whole?.any (doubleIsWhole x) = true ↔
      ∃ n, x.signedUnits? = some n ∧ v.whole?.map (· * (Binary64.unitsInOne : Int)) = some n := by
  unfold doubleIsWhole
  generalize (Binary64.unitsInOne : Int) = one
  cases v.whole? <;> simp

theorem whole_eq_iff (a b : Json) :
    (a.whole?.any fun m => b.whole? == some m) = true ↔
      ∃ n, a.whole?.map (· * (Binary64.unitsInOne : Int)) = some n ∧
        b.whole?.map (· * (Binary64.unitsInOne : Int)) = some n := by
  have hone := Binary64.unitsInOne_ne_zero
  generalize (Binary64.unitsInOne : Int) = one at hone
  cases a.whole? with
  | none => simp
  | some m =>
      cases b.whole? with
      | none => simp
      | some k => simp [Int.mul_eq_mul_right_iff hone]

/-- A flag or a whole number agrees with the values that are the same number. -/
theorem agrees_whole_iff {a b : Json} (ha : a.whole?.isSome) :
    a.agrees b = true ↔ ∃ n, a.units? = some n ∧ b.units? = some n := by
  have hunits : a.units? = a.whole?.map (· * (Binary64.unitsInOne : Int)) := by
    cases a <;> first | rfl | cases ha
  have hagrees : a.agrees b = match b with
      | .float y => a.whole?.any (doubleIsWhole y)
      | b => a.whole?.any fun m => b.whole? == some m := by
    cases a <;> first | (cases b <;> rfl) | cases ha
  rw [hunits, hagrees]
  cases b with
  | float y =>
      simp only [doubleIsWhole_iff, and_comm]
      rfl
  | _ => exact whole_eq_iff a _

theorem agrees_float_iff {x : Binary64} {b : Json} :
    (float x).agrees b = true ↔
      float x = b ∨ ∃ n, (float x).units? = some n ∧ b.units? = some n := by
  have hother (h : ∀ y, b ≠ float y) : (float x).agrees b = b.whole?.any (doubleIsWhole x) ∧
      b.units? = b.whole?.map (· * (Binary64.unitsInOne : Int)) := by
    cases b with
    | float y => exact absurd rfl (h y)
    | _ => exact ⟨rfl, rfl⟩
  cases b with
  | float y =>
      rw [float.injEq]
      exact Binary64.same_or_numericEq_iff
  | _ =>
      obtain ⟨hagrees, hunits⟩ := hother (by simp)
      rw [hagrees, hunits, or_iff_right (by simp)]
      exact doubleIsWhole_iff x _

/-- A plain value agrees with the same value and the same finite number. -/
theorem agrees_plain_iff {a b : Json} (hitems : a.items? = none) (hfields : a.fields? = none) :
    a.agrees b = true ↔ a = b ∨ ∃ n, a.units? = some n ∧ b.units? = some n := by
  have hnull : null.units? = none := rfl
  have hstr (s : String) : (str s).units? = none := rfl
  cases a with
  | arr xs => cases hitems
  | obj fs => cases hfields
  | null => cases b <;> simp [agrees, scalarsAgree, hnull, whole?]
  | str s => cases b <;> simp [agrees, scalarsAgree, hstr, whole?]
  | float x => exact agrees_float_iff
  | bool p =>
      rw [agrees_whole_iff rfl, or_iff_right_of_imp]
      rintro rfl
      exact ⟨_, rfl, rfl⟩
  | int m =>
      rw [agrees_whole_iff rfl, or_iff_right_of_imp]
      rintro rfl
      exact ⟨_, rfl, rfl⟩

/-! ### Lists and objects -/

theorem itemsAgree_iff {xs ys : List Json} :
    itemsAgree xs ys = true ↔ List.Forall₂ (fun x y => x.agrees y = true) xs ys := by
  induction xs generalizing ys with
  | nil => cases ys <;> simp [itemsAgree]
  | cons x xs ih => cases ys <;> simp [itemsAgree, ih]

theorem fieldsAgree_iff {fs gs : Fields} :
    fieldsAgree fs gs = true ↔
      ∀ f ∈ fs, ∃ v, Fields.get? gs f.1 = some v ∧ f.2.agrees v = true := by
  induction fs with
  | nil => simp [fieldsAgree]
  | cons f fs ih =>
      rw [fieldsAgree, Bool.and_eq_true, ih, List.forall_mem_cons]
      cases Fields.get? gs f.1 <;> simp

theorem agrees_arr_iff {xs : List Json} {b : Json} :
    (arr xs).agrees b = true ↔
      ∃ ys, b = arr ys ∧ List.Forall₂ (fun x y => x.agrees y = true) xs ys := by
  cases b <;> simp [agrees, itemsAgree_iff]

theorem agrees_obj_iff {fs : Fields} {b : Json} :
    (obj fs).agrees b = true ↔
      ∃ gs : Fields, b = obj gs ∧ fs.length = gs.length ∧
        ∀ f ∈ fs, ∃ v, Fields.get? gs f.1 = some v ∧ f.2.agrees v = true := by
  cases b <;> simp [agrees, fieldsAgree_iff]

/-- Fields that agree have the same keys. -/
theorem keys_perm_of_agree {fs gs : Fields} (hkeys : fs.DistinctKeys)
    (hlength : fs.length = gs.length) (hfound : ∀ f ∈ fs, (Fields.get? gs f.1).isSome) :
    fs.keys.Perm gs.keys := by
  have hsub : fs.keys ⊆ gs.keys := by
    intro key hkey
    obtain ⟨f, hf, rfl⟩ := List.mem_map.mp hkey
    obtain ⟨v, hv⟩ := Option.isSome_iff_exists.mp (hfound f hf)
    exact List.mem_map.mpr ⟨(f.1, v), Fields.mem_of_get?_eq_some hv, rfl⟩
  refine (List.subperm_of_subset hkeys hsub).perm_of_length_le ?_
  simp [Fields.keys, hlength]

/-! ### The laws -/

/-- The induction is on the first value, whose keys are known to be distinct. -/
theorem WellFormed.agrees_symm {a b : Json} (ha : a.WellFormed) (h : a.agrees b = true) :
    b.agrees a = true := by
  refine WellFormed.induction (p := fun a => ∀ b : Json, a.agrees b = true → b.agrees a = true)
    ?plain ?arr ?obj a ha b h
  case plain =>
    intro a hitems hfields b h
    rcases (agrees_plain_iff hitems hfields).mp h with rfl | ⟨n, ha, hb⟩
    · exact h
    · obtain ⟨hitems, hfields⟩ := plain_of_units? hb
      exact (agrees_plain_iff hitems hfields).mpr (.inr ⟨n, hb, ha⟩)
  case arr =>
    intro xs ih b h
    obtain ⟨ys, rfl, hxys⟩ := agrees_arr_iff.mp h
    refine agrees_arr_iff.mpr ⟨xs, rfl, ?_⟩
    clear h
    induction hxys with
    | nil => exact .nil
    | cons hxy _ ihxys =>
        exact .cons (ih _ List.mem_cons_self _ hxy)
          (ihxys fun x hx => ih x (List.mem_cons_of_mem _ hx))
  case obj =>
    intro fs hkeys ih b h
    obtain ⟨gs, rfl, hlength, hfound⟩ := agrees_obj_iff.mp h
    have hperm := keys_perm_of_agree hkeys hlength fun f hf => by
      obtain ⟨v, hv, -⟩ := hfound f hf
      exact Option.isSome_iff_exists.mpr ⟨v, hv⟩
    refine agrees_obj_iff.mpr ⟨fs, rfl, hlength.symm, fun g hg => ?_⟩
    have hkey : g.1 ∈ fs.keys := hperm.mem_iff.mpr (List.mem_map_of_mem hg)
    obtain ⟨f, hf, hfg⟩ := List.mem_map.mp hkey
    obtain ⟨v, hv, hagrees⟩ := hfound f hf
    have hgs : gs.DistinctKeys := hperm.nodup_iff.mp hkeys
    rw [hfg, Fields.get?_of_mem hgs hg, Option.some.injEq] at hv
    subst hv
    exact ⟨f.2, hfg ▸ Fields.get?_of_mem hkeys hf, ih f hf g.2 hagrees⟩

theorem WellFormed.agrees_trans {a b c : Json} (ha : a.WellFormed) (hab : a.agrees b = true)
    (hbc : b.agrees c = true) : a.agrees c = true := by
  refine WellFormed.induction
    (p := fun a => ∀ b c : Json, a.agrees b = true → b.agrees c = true → a.agrees c = true)
    ?plain ?arr ?obj a ha b c hab hbc
  case plain =>
    intro a hitems hfields b c hab hbc
    rcases (agrees_plain_iff hitems hfields).mp hab with rfl | ⟨n, ha, hb⟩
    · exact hbc
    · obtain ⟨hbitems, hbfields⟩ := plain_of_units? hb
      rcases (agrees_plain_iff hbitems hbfields).mp hbc with rfl | ⟨m, hb', hc⟩
      · exact hab
      · rw [hb] at hb'
        exact (agrees_plain_iff hitems hfields).mpr (.inr ⟨n, ha, hb' ▸ hc⟩)
  case arr =>
    intro xs ih b c hab hbc
    obtain ⟨ys, rfl, hxys⟩ := agrees_arr_iff.mp hab
    obtain ⟨zs, rfl, hyzs⟩ := agrees_arr_iff.mp hbc
    refine agrees_arr_iff.mpr ⟨zs, rfl, ?_⟩
    clear hab hbc
    induction hxys generalizing zs with
    | nil =>
        cases hyzs
        exact .nil
    | cons hxy _ ihxys =>
        cases hyzs with
        | cons hyz hyzs =>
            exact .cons (ih _ List.mem_cons_self _ _ hxy hyz)
              (ihxys (fun x hx => ih x (List.mem_cons_of_mem _ hx)) _ hyzs)
  case obj =>
    intro fs hkeys ih b c hab hbc
    obtain ⟨gs, rfl, hfgs, hfirst⟩ := agrees_obj_iff.mp hab
    obtain ⟨hs, rfl, hghs, hsecond⟩ := agrees_obj_iff.mp hbc
    refine agrees_obj_iff.mpr ⟨hs, rfl, hfgs.trans hghs, fun f hf => ?_⟩
    obtain ⟨v, hv, hfv⟩ := hfirst f hf
    obtain ⟨w, hw, hvw⟩ := hsecond (f.1, v) (Fields.mem_of_get?_eq_some hv)
    exact ⟨w, hw, ih f hf v w hfv hvw⟩

end Json

end PageBuilder
