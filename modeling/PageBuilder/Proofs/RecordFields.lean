import PageBuilder.Proofs.FieldLists

/-! # Fields of records

A record writes the fields of its format in order, some of them left out, and then the extra fields,
whose keys are not those of the format. Both parts can be read off what was written. -/

namespace PageBuilder.Fields

/-- The fields of a format that are present. -/
def present (slots : List (String × Option Json)) : Fields :=
  slots.filterMap fun slot => slot.2.map fun v => (slot.1, v)

@[simp] theorem present_nil : present [] = [] := rfl

@[simp] theorem present_some (key : String) (v : Json) (slots : List (String × Option Json)) :
    present ((key, some v) :: slots) = (key, v) :: present slots := rfl

@[simp] theorem present_none (key : String) (slots : List (String × Option Json)) :
    present ((key, none) :: slots) = present slots := rfl

theorem present_append (slots slots' : List (String × Option Json)) :
    present (slots ++ slots') = present slots ++ present slots' :=
  List.filterMap_append

theorem keys_present_sublist (slots : List (String × Option Json)) :
    (keys (present slots)).Sublist (slots.map Prod.fst) := by
  induction slots with
  | nil => exact .refl []
  | cons slot slots ih =>
      obtain ⟨key, v?⟩ := slot
      cases v? with
      | none => exact ih.cons key
      | some v => exact ih.cons_cons key

theorem distinctKeys_present {slots : List (String × Option Json)}
    (h : (slots.map Prod.fst).Nodup) : DistinctKeys (present slots) :=
  h.sublist (keys_present_sublist slots)

theorem mem_of_mem_present {slots : List (String × Option Json)} {f : String × Json}
    (h : f ∈ present slots) : (f.1, some f.2) ∈ slots := by
  obtain ⟨⟨key, v?⟩, hslot, hv⟩ := List.mem_filterMap.mp h
  obtain ⟨v, rfl, rfl⟩ := Option.map_eq_some_iff.mp hv
  exact hslot

/-- A slot is found by its key. -/
theorem get?_present {slots : List (String × Option Json)} (hkeys : (slots.map Prod.fst).Nodup)
    {key : String} {v? : Option Json} (h : (key, v?) ∈ slots) : get? (present slots) key = v? := by
  induction slots with
  | nil => cases h
  | cons slot slots ih =>
      obtain ⟨hfirst, hrest⟩ := List.nodup_cons.mp hkeys
      rcases List.mem_cons.mp h with rfl | hmem
      · have habsent : get? (present slots) key = none := by
          apply get?_eq_none_iff.mpr
          intro hmem
          exact hfirst ((keys_present_sublist slots).subset hmem)
        cases v? with
        | none => exact habsent
        | some v => simp [get?_cons]
      · have hne : key ≠ slot.1 := by
          rintro rfl
          exact hfirst (List.mem_map.mpr ⟨_, hmem, rfl⟩)
        obtain ⟨name, w?⟩ := slot
        cases w? with
        | none => exact ih hrest hmem
        | some w => simpa [get?_cons, hne] using ih hrest hmem

/-! ### Fields under known keys -/

/-- No key occurs twice, and only the listed ones occur. -/
structure Within (ks : List String) (fs : Fields) : Prop where
  distinct : DistinctKeys fs
  keys_subset : keys fs ⊆ ks

namespace Within

variable {ks ls : List String} {fs gs : Fields}

theorem present {slots : List (String × Option Json)} (h : (slots.map Prod.fst).Nodup) :
    Within (slots.map Prod.fst) (present slots) where
  distinct := distinctKeys_present h
  keys_subset := (keys_present_sublist slots).subset

theorem mono (h : Within ks fs) (hsubset : ks ⊆ ls) : Within ls fs where
  distinct := h.distinct
  keys_subset := List.Subset.trans h.keys_subset hsubset

theorem merge (hfs : Within ks fs) (hgs : Within ks gs) : Within ks (merge fs gs) where
  distinct := hfs.distinct.merge gs
  keys_subset := by
    intro key hkey
    rcases (mem_keys_merge hgs.distinct).mp hkey with hkey | hkey
    · exact hgs.keys_subset hkey
    · exact hfs.keys_subset hkey

theorem append (h : (ks ++ ls).Nodup) (hfs : Within ks fs) (hgs : Within ls gs) :
    Within (ks ++ ls) (fs ++ gs) := by
  obtain ⟨-, -, hdisjoint⟩ := List.nodup_append'.mp h
  constructor
  · rw [distinctKeys_iff, keys_append]
    exact List.nodup_append'.mpr ⟨hfs.distinct, hgs.distinct,
      fun _ hleft hright => hdisjoint (hfs.keys_subset hleft) (hgs.keys_subset hright)⟩
  · rw [keys_append]
    exact List.append_subset.mpr ⟨List.subset_append_of_subset_left ls hfs.keys_subset,
      List.subset_append_of_subset_right ks hgs.keys_subset⟩

theorem get?_append_left (h : (ks ++ ls).Nodup) (hgs : Within ls gs) {key : String}
    (hkey : key ∈ ks) : get? (fs ++ gs) key = get? fs key := by
  obtain ⟨-, -, hdisjoint⟩ := List.nodup_append'.mp h
  exact get?_append_of_not_mem_right fun hmem => hdisjoint hkey (hgs.keys_subset hmem)

theorem get?_append_right (h : (ks ++ ls).Nodup) (hfs : Within ks fs) {key : String}
    (hkey : key ∈ ls) : get? (fs ++ gs) key = get? gs key := by
  obtain ⟨-, -, hdisjoint⟩ := List.nodup_append'.mp h
  exact get?_append_of_not_mem fun hmem => hdisjoint (hfs.keys_subset hmem) hkey

/-- Objects with distinct keys that hold the same under every key have the same fields. -/
theorem perm (hfs : Within ks fs) (hgs : Within ls gs) (h : ∀ key, get? fs key = get? gs key) :
    fs.Perm gs := by
  have hnodup {fs : Fields} (hfs : DistinctKeys fs) : fs.Nodup := List.Nodup.of_map Prod.fst hfs
  rw [List.perm_ext_iff_of_nodup (hnodup hfs.distinct) (hnodup hgs.distinct)]
  intro f
  constructor
  · intro hf
    exact mem_of_get?_eq_some ((h f.1).symm.trans (get?_of_mem hfs.distinct hf))
  · intro hf
    exact mem_of_get?_eq_some ((h f.1).trans (get?_of_mem hgs.distinct hf))

end Within

/-! ### Records -/

/-- Extra fields beside a format with the given keys. -/
structure Extras (ks : List String) (extras : Fields) : Prop where
  wellFormed : (Json.obj extras).WellFormed
  apart : ∀ key ∈ keys extras, key ∉ ks

theorem Extras.without {fs : Fields} (h : (Json.obj fs).WellFormed) (ks : List String) :
    Extras ks (without fs ks) where
  wellFormed := h.without ks
  apart := by
    intro key hkey hmem
    exact not_mem_keys_without hmem hkey

/-- A record: the slots of its format in the order of the keys, and its extra fields. -/
structure Record (ks : List String) (slots : List (String × Option Json)) (extras : Fields) :
    Prop where
  keys : slots.map Prod.fst = ks
  nodup : ks.Nodup
  extras : Extras ks extras

namespace Record

variable {ks : List String} {slots : List (String × Option Json)} {extras : Fields}

theorem keys_subset (r : Record ks slots extras) : Fields.keys (present slots) ⊆ ks := by
  rw [← r.keys]
  exact (keys_present_sublist slots).subset

theorem slots_nodup (r : Record ks slots extras) : (slots.map Prod.fst).Nodup := by
  rw [r.keys]
  exact r.nodup

/-- No key of a record is written twice. -/
theorem distinctKeys (r : Record ks slots extras) : DistinctKeys (present slots ++ extras) := by
  rw [distinctKeys_iff, keys_append]
  have hown : (Fields.keys (present slots)).Nodup := distinctKeys_present r.slots_nodup
  refine List.nodup_append.mpr ⟨hown, (Json.wellFormed_obj.mp r.extras.wellFormed).1, ?_⟩
  rintro key hkey _ hextra rfl
  exact r.extras.apart key hextra (r.keys_subset hkey)

theorem merge_eq (r : Record ks slots extras) :
    merge (present slots) extras = present slots ++ extras :=
  merge_eq_append r.distinctKeys

/-- The field at a place in the order of the format. -/
theorem get? (r : Record ks slots extras) {i : Nat} {key : String} {v? : Option Json}
    (h : slots[i]? = some (key, v?)) :
    Fields.get? (merge (present slots) extras) key = v? := by
  have hslot : (key, v?) ∈ slots := List.mem_of_getElem? h
  have hmem : key ∈ ks := by
    rw [← r.keys]
    exact List.mem_map.mpr ⟨_, hslot, rfl⟩
  have habsent : key ∉ Fields.keys extras := fun hkey => r.extras.apart key hkey hmem
  rw [r.merge_eq, get?_append_of_not_mem_right habsent, get?_present r.slots_nodup hslot]

theorem value (r : Record ks slots extras) {i : Nat} {key : String} {v? : Option Json}
    (h : slots[i]? = some (key, v?)) :
    Fields.value (merge (present slots) extras) key = v?.getD .null := by
  rw [Fields.value, r.get? h]

theorem get?_extra (r : Record ks slots extras) {key : String} (h : key ∉ ks) :
    Fields.get? (merge (present slots) extras) key = Fields.get? extras key := by
  rw [r.merge_eq, get?_append_of_not_mem]
  exact fun hmem => h (r.keys_subset hmem)

theorem without_keys (r : Record ks slots extras) :
    without (merge (present slots) extras) ks = extras := by
  rw [r.merge_eq, without_append, without_of_subset r.keys_subset,
    without_of_disjoint r.extras.apart, List.nil_append]

theorem wellFormed (r : Record ks slots extras)
    (hvalues : ∀ slot ∈ slots, ∀ v ∈ slot.2, v.WellFormed) :
    (Json.obj (merge (present slots) extras)).WellFormed := by
  rw [r.merge_eq]
  apply Json.wellFormed_obj.mpr
  constructor
  · exact r.distinctKeys
  · intro f hf
    rcases List.mem_append.mp hf with hown | hextra
    · exact hvalues _ (mem_of_mem_present hown) f.2 rfl
    · exact (Json.wellFormed_obj.mp r.extras.wellFormed).2 f hextra

end Record

end PageBuilder.Fields
