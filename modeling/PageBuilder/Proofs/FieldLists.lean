import Mathlib.Data.List.Nodup
import PageBuilder.Json.Basic

/-!
# Objects as lists of fields

Keys stay distinct under `set`, and merging fields with new keys is appending them.
Well-formedness of a value is read off the values inside it.
-/

namespace PageBuilder

namespace Fields

/-- The keys in order. -/
def keys (fs : Fields) : List String :=
  fs.map Prod.fst

@[simp] theorem keys_nil : keys [] = [] := rfl

@[simp] theorem keys_cons (f : String × Json) (fs : Fields) : keys (f :: fs) = f.1 :: keys fs := rfl

@[simp] theorem keys_append (fs gs : Fields) : keys (fs ++ gs) = keys fs ++ keys gs :=
  List.map_append

theorem distinctKeys_iff {fs : Fields} : DistinctKeys fs ↔ (keys fs).Nodup := Iff.rfl

/-! ### Lookups -/

theorem get?_eq_none_iff {fs : Fields} {key : String} : get? fs key = none ↔ key ∉ keys fs := by
  induction fs with
  | nil => simp
  | cons f fs ih =>
      by_cases h : key = f.1
      · simp [get?_cons, h]
      · simp [get?_cons, h, ih]

theorem mem_of_get?_eq_some {fs : Fields} {key : String} {v : Json} (h : get? fs key = some v) :
    (key, v) ∈ fs := by
  induction fs with
  | nil => simp at h
  | cons f fs ih =>
      rw [get?_cons] at h
      split at h
      · next hkey =>
        cases h
        exact List.mem_cons.mpr (.inl (Prod.ext hkey rfl))
      · exact List.mem_cons_of_mem f (ih h)

/-- With distinct keys every field is the one that its key finds. -/
theorem get?_of_mem {fs : Fields} (h : DistinctKeys fs) {f : String × Json} (hf : f ∈ fs) :
    get? fs f.1 = some f.2 := by
  induction fs with
  | nil => cases hf
  | cons g fs ih =>
      obtain ⟨hfirst, hrest⟩ := List.nodup_cons.mp h
      rcases List.mem_cons.mp hf with rfl | hmem
      · simp [get?_cons]
      · have hne : f.1 ≠ g.1 := by
          intro heq
          exact hfirst (heq ▸ List.mem_map.mpr ⟨f, hmem, rfl⟩)
        rw [get?_cons, if_neg hne, ih hrest hmem]

theorem get?_append (fs gs : Fields) (key : String) :
    get? (fs ++ gs) key = (get? fs key).or (get? gs key) := by
  induction fs with
  | nil => simp
  | cons f fs ih =>
      rw [List.cons_append, get?_cons, get?_cons, ih]
      split
      · simp
      · rfl

theorem get?_append_of_not_mem {fs gs : Fields} {key : String} (h : key ∉ keys fs) :
    get? (fs ++ gs) key = get? gs key := by
  rw [get?_append, get?_eq_none_iff.mpr h, Option.none_or]

theorem get?_append_of_not_mem_right {fs gs : Fields} {key : String} (h : key ∉ keys gs) :
    get? (fs ++ gs) key = get? fs key := by
  rw [get?_append, get?_eq_none_iff.mpr h, Option.or_none]

theorem value_of_get?_none {fs : Fields} {key : String} (h : get? fs key = none) :
    value fs key = .null := by
  rw [value, h, Option.getD_none]

theorem mem_of_value_ne_null {fs : Fields} {key : String} (h : value fs key ≠ .null) :
    (key, value fs key) ∈ fs := by
  cases hget : get? fs key with
  | none => exact absurd (value_of_get?_none hget) h
  | some v =>
      have : value fs key = v := by rw [value, hget, Option.getD_some]
      rw [this]
      exact mem_of_get?_eq_some hget

/-! ### Setting and merging -/

theorem keys_set_of_mem {fs : Fields} {key : String} (h : key ∈ keys fs) (v : Json) :
    keys (set fs key v) = keys fs := by
  induction fs with
  | nil => cases h
  | cons f fs ih =>
      simp only [set]
      split
      · next hf => simp [hf]
      · next hf =>
        have hmem : key ∈ keys fs := by
          rcases List.mem_cons.mp h with rfl | h
          · exact absurd rfl hf
          · exact h
        simp [ih hmem]

theorem set_of_not_mem {fs : Fields} {key : String} (h : key ∉ keys fs) (v : Json) :
    set fs key v = fs ++ [(key, v)] := by
  induction fs with
  | nil => rfl
  | cons f fs ih =>
      simp only [keys_cons, List.mem_cons, not_or] at h
      simp only [set, if_neg (Ne.symm h.1), ih h.2, List.cons_append]

theorem DistinctKeys.set {fs : Fields} (h : DistinctKeys fs) (key : String) (v : Json) :
    DistinctKeys (set fs key v) := by
  rw [distinctKeys_iff] at h ⊢
  by_cases hkey : key ∈ keys fs
  · rw [keys_set_of_mem hkey]
    exact h
  · rw [set_of_not_mem hkey, keys_append]
    exact List.nodup_append.mpr ⟨h, List.nodup_singleton key, by
      intro a ha b hb hab
      rw [hab, List.mem_singleton.mp hb] at ha
      exact hkey ha⟩

theorem merge_nil (fs : Fields) : merge fs [] = fs := rfl

theorem merge_cons (fs : Fields) (f : String × Json) (new : Fields) :
    merge fs (f :: new) = merge (set fs f.1 f.2) new := rfl

/-- Fields with new keys are appended. -/
theorem merge_eq_append {fs new : Fields} (h : DistinctKeys (fs ++ new)) :
    merge fs new = fs ++ new := by
  induction new generalizing fs with
  | nil => simp [merge_nil]
  | cons f new ih =>
      have hkey : f.1 ∉ keys fs := by
        intro hmem
        rw [distinctKeys_iff, keys_append, keys_cons] at h
        exact (List.nodup_append.mp h).2.2 f.1 hmem f.1 List.mem_cons_self rfl
      rw [merge_cons, set_of_not_mem hkey, ih (by simpa using h)]
      simp

/-- The fields that are merged in win. -/
theorem get?_merge {fs new : Fields} (h : DistinctKeys new) (key : String) :
    get? (merge fs new) key = (get? new key).or (get? fs key) := by
  induction new generalizing fs with
  | nil => simp [merge_nil]
  | cons f new ih =>
      rw [distinctKeys_iff, keys_cons, List.nodup_cons] at h
      rw [merge_cons, ih h.2, get?_cons]
      by_cases hkey : key = f.1
      · rw [if_pos hkey, hkey, get?_eq_none_iff.mpr h.1, get?_set_self, Option.none_or,
          Option.some_or]
      · rw [if_neg hkey, get?_set_of_ne hkey]

theorem mem_keys_merge {fs new : Fields} (h : DistinctKeys new) {key : String} :
    key ∈ keys (merge fs new) ↔ key ∈ keys new ∨ key ∈ keys fs := by
  simp only [← not_iff_not, not_or, ← get?_eq_none_iff, get?_merge h, Option.or_eq_none_iff]

theorem DistinctKeys.merge {fs : Fields} (h : DistinctKeys fs) (new : Fields) :
    DistinctKeys (merge fs new) := by
  induction new generalizing fs with
  | nil => exact h
  | cons f new ih => exact ih (h.set f.1 f.2)

/-! ### Leaving out keys -/

theorem keys_without (fs : Fields) (ks : List String) :
    keys (without fs ks) = (keys fs).filter fun k => !ks.contains k := by
  induction fs with
  | nil => rfl
  | cons f fs ih =>
      simp only [without, List.filter_cons, keys_cons] at ih ⊢
      split
      · rw [keys_cons, ih]
      · exact ih

theorem not_mem_keys_without {fs : Fields} {ks : List String} {key : String} (h : key ∈ ks) :
    key ∉ keys (without fs ks) := by
  simp [keys_without, h]

theorem get?_without {fs : Fields} {ks : List String} {key : String} (h : key ∉ ks) :
    get? (without fs ks) key = get? fs key := by
  induction fs with
  | nil => rfl
  | cons f fs ih =>
      simp only [without, List.filter_cons] at ih ⊢
      split
      · rw [get?_cons, get?_cons, ih]
      · next hdropped =>
        have hne : key ≠ f.1 := by
          rintro rfl
          simp [h] at hdropped
        rw [ih, get?_cons, if_neg hne]

theorem value_without {fs : Fields} {ks : List String} {key : String} (h : key ∉ ks) :
    value (without fs ks) key = value fs key := by
  rw [value, value, get?_without h]

theorem DistinctKeys.without {fs : Fields} (h : DistinctKeys fs) (ks : List String) :
    DistinctKeys (without fs ks) := by
  rw [distinctKeys_iff, keys_without]
  exact List.Nodup.filter _ h

theorem without_append (fs gs : Fields) (ks : List String) :
    without (fs ++ gs) ks = without fs ks ++ without gs ks :=
  List.filter_append ..

theorem without_of_subset {fs : Fields} {ks : List String} (h : keys fs ⊆ ks) :
    without fs ks = [] := by
  apply List.filter_eq_nil_iff.mpr
  intro f hf
  have : f.1 ∈ ks := h (List.mem_map.mpr ⟨f, hf, rfl⟩)
  simp [this]

theorem without_of_disjoint {fs : Fields} {ks : List String} (h : ∀ k ∈ keys fs, k ∉ ks) :
    without fs ks = fs := by
  apply List.filter_eq_self.mpr
  intro f hf
  have : f.1 ∉ ks := h f.1 (List.mem_map.mpr ⟨f, hf, rfl⟩)
  simp [this]

end Fields

namespace Json

/-! ### Well-formed values -/

theorem itemsWellFormed_iff {xs : List Json} : ItemsWellFormed xs ↔ ∀ x ∈ xs, x.WellFormed := by
  induction xs with
  | nil => simp [ItemsWellFormed]
  | cons x xs ih => simp [ItemsWellFormed, ih]

theorem fieldsWellFormed_iff {fs : Fields} : FieldsWellFormed fs ↔ ∀ f ∈ fs, f.2.WellFormed := by
  induction fs with
  | nil => simp [FieldsWellFormed]
  | cons f fs ih => simp [FieldsWellFormed, ih]

theorem wellFormed_arr {xs : List Json} : (arr xs).WellFormed ↔ ∀ x ∈ xs, x.WellFormed := by
  rw [WellFormed, itemsWellFormed_iff]

theorem wellFormed_obj {fs : Fields} :
    (obj fs).WellFormed ↔ fs.DistinctKeys ∧ ∀ f ∈ fs, f.2.WellFormed := by
  rw [WellFormed, fieldsWellFormed_iff]

@[simp] theorem wellFormed_null : null.WellFormed := trivial

@[simp] theorem wellFormed_bool (b : Bool) : (bool b).WellFormed := trivial

@[simp] theorem wellFormed_int (n : Int) : (int n).WellFormed := trivial

@[simp] theorem wellFormed_float (x : Binary64) : (float x).WellFormed := trivial

@[simp] theorem wellFormed_str (s : String) : (str s).WellFormed := trivial

@[simp] theorem wellFormed_obj_nil : (obj []).WellFormed :=
  ⟨List.nodup_nil, trivial⟩

/-- Induction on the parts of a well-formed value. -/
theorem WellFormed.induction {p : Json → Prop}
    (plain : ∀ v : Json, v.items? = none → v.fields? = none → p v)
    (arr : ∀ xs, (∀ x ∈ xs, p x) → p (.arr xs))
    (obj : ∀ fs : Fields, fs.DistinctKeys → (∀ f ∈ fs, p f.2) → p (.obj fs)) :
    ∀ v : Json, v.WellFormed → p v
  | .null, _ => plain .null rfl rfl
  | .bool b, _ => plain (.bool b) rfl rfl
  | .int n, _ => plain (.int n) rfl rfl
  | .float x, _ => plain (.float x) rfl rfl
  | .str s, _ => plain (.str s) rfl rfl
  | .arr xs, h =>
      arr xs fun x hx => WellFormed.induction plain arr obj x (wellFormed_arr.mp h x hx)
  | .obj fs, h =>
      obj fs (wellFormed_obj.mp h).1 fun f hf =>
        WellFormed.induction plain arr obj f.2 ((wellFormed_obj.mp h).2 f hf)
termination_by v => sizeOf v
decreasing_by
  · simp only [Json.arr.sizeOf_spec]
    have := List.sizeOf_lt_of_mem hx
    omega
  · obtain ⟨key, value⟩ := f
    simp only [Json.obj.sizeOf_spec]
    have := List.sizeOf_lt_of_mem hf
    simp only [Prod.mk.sizeOf_spec] at this
    omega

theorem WellFormed.value {fs : Fields} (h : (obj fs).WellFormed) (key : String) :
    (Fields.value fs key).WellFormed := by
  by_cases hnull : Fields.value fs key = .null
  · rw [hnull]
    trivial
  · exact (wellFormed_obj.mp h).2 _ (Fields.mem_of_value_ne_null hnull)

theorem WellFormed.set {fs : Fields} (h : (obj fs).WellFormed) (key : String) {v : Json}
    (hv : v.WellFormed) : (obj (Fields.set fs key v)).WellFormed := by
  obtain ⟨hkeys, hvalues⟩ := wellFormed_obj.mp h
  refine wellFormed_obj.mpr ⟨hkeys.set key v, ?_⟩
  clear h hkeys
  induction fs with
  | nil => simpa [Fields.set] using hv
  | cons f fs ih =>
      simp only [List.forall_mem_cons] at hvalues
      simp only [Fields.set]
      split
      · exact List.forall_mem_cons.mpr ⟨hv, hvalues.2⟩
      · exact List.forall_mem_cons.mpr ⟨hvalues.1, ih hvalues.2⟩

theorem WellFormed.without {fs : Fields} (h : (obj fs).WellFormed) (ks : List String) :
    (obj (Fields.without fs ks)).WellFormed := by
  obtain ⟨hkeys, hvalues⟩ := wellFormed_obj.mp h
  exact wellFormed_obj.mpr ⟨hkeys.without ks, fun f hf => hvalues f (List.mem_of_mem_filter hf)⟩

theorem WellFormed.fields {v : Json} (h : v.WellFormed) {fs : Fields} (hfs : v.fields? = some fs) :
    (obj fs).WellFormed := by
  cases v <;> simp [fields?] at hfs
  exact hfs ▸ h

end Json

end PageBuilder
