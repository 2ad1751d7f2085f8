import PageBuilder.Json.Parser
import PageBuilder.Proofs.FieldLists

/-!
# What is read is well formed

Of two fields with one key the reader keeps one, so the objects it makes have distinct keys.
-/

namespace PageBuilder

theorem Except.bind_eq_ok_iff {ε α β : Type} {x : Except ε α} {f : α → Except ε β} {b : β} :
    x >>= f = .ok b ↔ ∃ a, x = .ok a ∧ f a = .ok b := by
  cases x <;> simp [bind, Except.bind]

theorem Except.mapError_eq_ok_iff {ε δ α : Type} {x : Except ε α} {f : ε → δ} {a : α} :
    x.mapError f = .ok a ↔ x = .ok a := by
  cases x <;> simp [Except.mapError]

theorem Except.mapError_eq_error_iff {ε δ α : Type} {x : Except ε α} {f : ε → δ} {e : δ} :
    x.mapError f = .error e ↔ ∃ e', x = .error e' ∧ e = f e' := by
  cases x <;> simp [Except.mapError, eq_comm]

namespace Json

theorem map_ok {ε α β : Type} {r : Except ε α} {f : α → β} {b : β} (h : r.map f = .ok b) :
    ∃ a, r = .ok a ∧ f a = b := by
  cases r with
  | error e => cases h
  | ok a => exact ⟨a, rfl, Except.ok.inj h⟩

theorem wellFormed_of_flat {v : Json} (h : v.items? = none ∧ v.fields? = none) :
    v.WellFormed := by
  cases v with
  | arr xs => cases h.1
  | obj fs => cases h.2
  | _ => trivial

variable [Limits]

/-- A number holds no other value. -/
theorem flat_of_readMagnitude {negative : Bool} {cs rest : List Char} {v : Json}
    (h : readMagnitude negative cs = .ok (v, rest)) : v.items? = none ∧ v.fields? = none := by
  unfold readMagnitude at h
  split at h
  · cases h
  · dsimp only at h
    split at h
    · split at h
      · cases h
      · cases h; exact ⟨rfl, rfl⟩
    · cases h; exact ⟨rfl, rfl⟩

/-- A word or a number holds no other value. -/
theorem flat_of_readScalar {cs rest : List Char} {v : Json}
    (h : readScalar cs = .ok (v, rest)) : v.items? = none ∧ v.fields? = none := by
  unfold readScalar at h
  split at h
  · next r hword =>
    cases h
    obtain ⟨w, hw, hafter⟩ := List.exists_of_findSome?_eq_some hword
    obtain ⟨after, -, hv⟩ := Option.map_eq_some_iff.mp hafter
    cases hv
    simp only [words, List.mem_cons, List.not_mem_nil, or_false] at hw
    rcases hw with rfl | rfl | rfl | rfl | rfl | rfl <;> exact ⟨rfl, rfl⟩
  · split at h
    · exact flat_of_readMagnitude h
    · exact flat_of_readMagnitude h

/-- With this much fuel the readers make well-formed values of well-formed parts. -/
structure ReadsWellFormed (fuel : Nat) : Prop where
  value : ∀ depth cs v rest, readValue fuel depth cs = .ok (v, rest) → v.WellFormed
  items : ∀ depth cs vs rest, readItems fuel depth cs = .ok (vs, rest) → ∀ v ∈ vs, v.WellFormed
  fields : ∀ depth acc cs fs rest, (obj acc).WellFormed →
    readFields fuel depth acc cs = .ok (fs, rest) → (obj fs).WellFormed

namespace ReadsWellFormed

variable {fuel depth : Nat} {cs rest : List Char}

theorem value_succ (ih : ReadsWellFormed fuel) {v : Json}
    (h : readValue (fuel + 1) depth cs = .ok (v, rest)) : v.WellFormed := by
  unfold readValue at h
  split at h
  · obtain ⟨r, -, hr⟩ := map_ok h
    cases hr
    trivial
  · split at h
    · cases h
    · split at h
      · cases h
        exact wellFormed_arr.mpr (by simp)
      · obtain ⟨r, hread, hr⟩ := map_ok h
        cases hr
        exact wellFormed_arr.mpr (ih.items _ _ _ _ hread)
  · split at h
    · cases h
    · split at h
      · cases h
        exact wellFormed_obj_nil
      · obtain ⟨r, hread, hr⟩ := map_ok h
        cases hr
        exact ih.fields _ _ _ _ _ wellFormed_obj_nil hread
  · exact wellFormed_of_flat (flat_of_readScalar h)

theorem items_succ (ih : ReadsWellFormed fuel) {vs : List Json}
    (h : readItems (fuel + 1) depth cs = .ok (vs, rest)) : ∀ v ∈ vs, v.WellFormed := by
  unfold readItems at h
  split at h
  · cases h
  · next first after hfirst =>
    have hwf := ih.value _ _ _ _ hfirst
    split at h
    · cases h
      simpa using hwf
    · obtain ⟨r, hread, hr⟩ := map_ok h
      cases hr
      exact List.forall_mem_cons.mpr ⟨hwf, ih.items _ _ _ _ hread⟩
    · cases h

theorem fields_succ (ih : ReadsWellFormed fuel) {acc fs : Fields} (hacc : (obj acc).WellFormed)
    (h : readFields (fuel + 1) depth acc cs = .ok (fs, rest)) : (obj fs).WellFormed := by
  unfold readFields at h
  split at h
  · split at h
    · cases h
    · next key afterKey hkey =>
      split at h
      · split at h
        · cases h
        · next v afterValue hv =>
          have hset := hacc.set key (ih.value _ _ _ _ hv)
          dsimp only at h
          split at h
          · cases h
            exact hset
          · exact ih.fields _ _ _ _ _ hset h
          · cases h
      · cases h
  · cases h

end ReadsWellFormed

/-- The induction is on the fuel that the three readers share. -/
theorem readsWellFormed (fuel : Nat) : ReadsWellFormed fuel := by
  induction fuel with
  | zero =>
      constructor
      · intro depth cs v rest h
        simp [readValue] at h
      · intro depth cs vs rest h
        simp [readItems] at h
      · intro depth acc cs fs rest _ h
        simp [readFields] at h
  | succ fuel ih =>
      constructor
      · intro depth cs v rest h
        exact ih.value_succ h
      · intro depth cs vs rest h
        exact ih.items_succ h
      · intro depth acc cs fs rest hacc h
        exact ih.fields_succ hacc h

/-- A text reads as a well-formed value. -/
theorem parse_wellFormed {s : String} {v : Json} (h : parse s = .ok v) : v.WellFormed := by
  unfold parse parseChars at h
  split at h
  · cases h
  · split at h
    · cases h
    · next w rest hread =>
      split at h
      · cases h
        exact (readsWellFormed _).value _ _ _ _ hread
      · cases h

end Json

end PageBuilder
