import Mathlib.Data.Int.Interval
import PageBuilder.Proofs.FreshIds

/-! # The search for a free stamp

The search for a fresh id goes from the stamp of the clock to the next one as long as the id with
the stamp is taken. It stops, since it passes a different taken id at each stamp, and it stops at
the least stamp whose id is free.

## Implementation notes

`freshStamp` looks through a list of candidates whose length is fixed beforehand. `StampSearch`
knows no such bound: that a run of it exists is what termination means here. -/

namespace PageBuilder

/-- The search that starts at the first stamp looks at `steps` ids and stops at the last stamp. -/
inductive StampSearch (stem : String) (taken : List String) : Int → Nat → Int → Prop
  | stop {stamp : Int} (hfree : stampedId stem stamp ∉ taken) : StampSearch stem taken stamp 1 stamp
  | pass {stamp last : Int} {steps : Nat} (htaken : stampedId stem stamp ∈ taken)
      (hrest : StampSearch stem taken (stamp + 1) steps last) :
      StampSearch stem taken stamp (steps + 1) last

namespace StampSearch

variable {stem : String} {taken : List String} {clock last : Int} {steps : Nat}

/-- The id at which the search stops is free. -/
theorem free (h : StampSearch stem taken clock steps last) : stampedId stem last ∉ taken := by
  induction h with
  | stop hfree => exact hfree
  | pass _ _ ih => exact ih

/-- Each step but the last one goes to the next stamp. -/
theorem clock_add_steps (h : StampSearch stem taken clock steps last) :
    clock + steps = last + 1 := by
  induction h with
  | stop => rfl
  | pass _ _ ih => omega

theorem clock_le (h : StampSearch stem taken clock steps last) : clock ≤ last := by
  induction h with
  | stop => exact le_rfl
  | pass _ _ ih => omega

/-- The ids that the search passes are taken. -/
theorem passed (h : StampSearch stem taken clock steps last) {stamp : Int} (hclock : clock ≤ stamp)
    (hlast : stamp < last) : stampedId stem stamp ∈ taken := by
  induction h with
  | stop => omega
  | pass htaken _ ih =>
      rcases hclock.eq_or_lt with rfl | hlt
      · exact htaken
      · exact ih hlt hlast

/-- The search stops at the least stamp from the clock on whose id is free. -/
theorem isLeast (h : StampSearch stem taken clock steps last) :
    IsLeast {stamp | clock ≤ stamp ∧ stampedId stem stamp ∉ taken} last := by
  refine ⟨⟨h.clock_le, h.free⟩, ?_⟩
  rintro stamp ⟨hclock, hfree⟩
  by_contra hlt
  exact hfree (h.passed hclock (not_le.mp hlt))

/-- The ids that the search passes are different, so there are no more of them than taken ids. -/
theorem steps_le (h : StampSearch stem taken clock steps last) :
    steps ≤ taken.toFinset.card + 1 := by
  have hpassed : (Finset.Ico clock last).card ≤ taken.toFinset.card := by
    refine Finset.card_le_card_of_injOn (stampedId stem) ?_ fun m _ n _ => stampedId_injective
    intro stamp hstamp
    obtain ⟨hclock, hlast⟩ := Finset.mem_Ico.mp hstamp
    exact List.mem_toFinset.mpr (h.passed hclock hlast)
  have hsteps := h.clock_add_steps
  rw [Int.card_Ico] at hpassed
  omega

/-- A free id ahead makes the search stop. -/
theorem exists_of_free (k : Nat) (hfree : stampedId stem (clock + k) ∉ taken) :
    ∃ steps last, StampSearch stem taken clock steps last := by
  induction k generalizing clock with
  | zero =>
      rw [Nat.cast_zero, add_zero] at hfree
      exact ⟨1, clock, stop hfree⟩
  | succ k ih =>
      by_cases htaken : stampedId stem clock ∈ taken
      · have hahead : clock + 1 + (k : Int) = clock + (k + 1 : Nat) := by omega
        rw [← hahead] at hfree
        obtain ⟨steps, last, hrest⟩ := ih hfree
        exact ⟨steps + 1, last, pass htaken hrest⟩
      · exact ⟨1, clock, stop htaken⟩

/-- The stamp at which the search stops is the first one among the candidates for a fresh id. -/
theorem freshStamp_eq (h : StampSearch stem taken clock steps last) :
    freshStamp stem taken clock = last := by
  have hsteps := h.clock_add_steps
  have hclock := h.clock_le
  have hlength : steps ≤ taken.length + 1 :=
    h.steps_le.trans (Nat.add_le_add_right taken.toFinset_card_le 1)
  obtain ⟨k, rfl⟩ := Int.exists_add_of_le hclock
  have hfound : (List.range (taken.length + 1)).find? ((fun stamp =>
      !taken.contains (stampedId stem stamp)) ∘ fun (k : Nat) => clock + (k : Int)) =
        some k := by
    refine List.find?_range_eq_some.mpr ⟨?_, ?_, ?_⟩
    · simpa using h.free
    · exact List.mem_range.mpr (by omega)
    · intro j hj
      have hpassed : stampedId stem (clock + (j : Int)) ∈ taken := h.passed (by omega) (by omega)
      simpa using hpassed
  simp only [freshStamp, List.find?_map, hfound, Option.map_some, Option.getD_some]

end StampSearch

/-- The search for a stamp stops after at most one more step than there are different taken ids, at
the least stamp from the clock on whose id is free, and the fresh id is the stem with this stamp. -/
theorem stampSearch_stops (stem : String) (taken : List String) (clock : Int) :
    ∃ steps last, StampSearch stem taken clock steps last ∧
      (∀ steps' last', StampSearch stem taken clock steps' last' →
        steps' = steps ∧ last' = last) ∧
      steps ≤ taken.toFinset.card + 1 ∧
      IsLeast {stamp | clock ≤ stamp ∧ stem ++ Numeral.text stamp ∉ taken} last ∧
      freshId stem taken clock = stem ++ Numeral.text last := by
  obtain ⟨k, -, hfree⟩ := exists_free_candidate stem taken clock
  obtain ⟨steps, last, hsearch⟩ := StampSearch.exists_of_free k hfree
  refine ⟨steps, last, hsearch, ?_, hsearch.steps_le, hsearch.isLeast, ?_⟩
  · intro steps' last' hother
    have hlast : last' = last := hother.isLeast.unique hsearch.isLeast
    have hsteps := hsearch.clock_add_steps
    have hsteps' := hother.clock_add_steps
    exact ⟨by omega, hlast⟩
  · rw [freshId, hsearch.freshStamp_eq, stampedId]

example : freshId "id_" ["id_0", "id_-1", "id_-1", "news"] (-1) = "id_1" := by decide +kernel

end PageBuilder
