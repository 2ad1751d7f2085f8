import PageBuilder.Document.Completion
import PageBuilder.Proofs.DocumentCodec

/-! # Normalizing loses nothing

A document that was read and written again stays the same from then on. If all its fields had the
types of the format, what is written completes what was stored: on every level each stored field is
there with its value, and beside them stand only the defaults of the fields that were missing.

## Implementation notes

A record is written slot by slot, so a completion is proved slot by slot. Outside the inner fields a
slot completes a field exactly if it is the stored value or else the default, and each such slot is
one equation. -/

namespace PageBuilder

namespace Completion

variable {c : Completion} {key : String}

/-- A field that holds no object of the format is written as stored, or else as its default. -/
theorem fills_of_eq_or (hinner : c.inner.lookup key = none) {v? w? : Option Json}
    (h : w? = v?.or (Fields.get? c.defaults key)) : c.Fills key v? w? := by
  subst h
  cases v? with
  | none => rfl
  | some v => simp [Fills, kept, hinner]

/-- A record completes the fields that it was made from if each of its slots does. -/
theorem completes_record {ks : List String} {slots : List (String × Option Json)} {fs : Fields}
    (r : Fields.Record ks slots (Fields.without fs ks))
    (hinner : ∀ key ∈ c.inner.map Prod.fst, key ∈ ks)
    (hdefaults : ∀ key ∈ c.defaults.keys, key ∈ ks)
    (hslots : ∀ slot ∈ slots, c.Fills slot.1 (Fields.get? fs slot.1) slot.2) :
    c.Completes fs (Fields.merge (Fields.present slots) (Fields.without fs ks)) := by
  intro key
  by_cases hkey : key ∈ ks
  · rw [← r.keys] at hkey
    obtain ⟨⟨name, v?⟩, hslot, rfl⟩ := List.mem_map.mp hkey
    obtain ⟨i, hi⟩ := List.getElem?_of_mem hslot
    rw [r.get? hi]
    exact hslots _ hslot
  · have hplain : c.inner.lookup key = none := by
      apply List.lookup_eq_none_iff.mpr
      rintro ⟨name, inner⟩ hmem
      have hname : name ∈ ks := hinner name (List.mem_map.mpr ⟨_, hmem, rfl⟩)
      apply bne_iff_ne.mpr
      rintro rfl
      exact hkey hname
    have hdefault : Fields.get? c.defaults key = none :=
      Fields.get?_eq_none_iff.mpr fun hmem => hkey (hdefaults key hmem)
    rw [r.get?_extra hkey, Fields.get?_without hkey]
    apply fills_of_eq_or hplain
    rw [hdefault, Option.or_none]

end Completion

open Completion

/-! ### Fields whose stored value has its type -/

namespace Fields.Typed

variable {fs : Fields} {key : String}

theorem of_absent {p : Json → Prop} (hget : get? fs key = none) : fs.Typed key p := by
  intro v hv
  rw [hget] at hv
  cases hv

theorem of_get? {p : Json → Prop} {v : Json} (hget : get? fs key = some v) (hv : p v) :
    fs.Typed key p := by
  intro w hw
  rw [hget] at hw
  cases hw
  exact hv

/-- A text is written as it is stored, with a default where none is stored. -/
theorem text_eq (h : fs.Typed key Json.IsText) (default : String) :
    some (Json.str ((value fs key).displayUnlessNull?.getD default)) =
      (get? fs key).or (some (.str default)) := by
  cases hget : get? fs key with
  | none => simp [value, hget]
  | some v =>
      obtain ⟨s, rfl⟩ := h v hget
      simp [value, hget]

theorem optionalText_eq (h : fs.Typed key Json.IsText) :
    (value fs key).displayUnlessNull?.map Json.str = get? fs key := by
  cases hget : get? fs key with
  | none => simp [value, hget]
  | some v =>
      obtain ⟨s, rfl⟩ := h v hget
      simp [value, hget]

theorem flag_eq (h : fs.Typed key Json.IsFlag) :
    some (Json.bool (value fs key).truthy) = (get? fs key).or (some (.bool false)) := by
  cases hget : get? fs key with
  | none => simp [value, hget, Json.truthy]
  | some v =>
      obtain ⟨b, rfl⟩ := h v hget
      simp [value, hget, Json.truthy]

theorem holds_value {p : Json → Prop} (h : fs.Typed key p) (hnull : p .null) :
    p (Fields.value fs key) := by
  cases hget : get? fs key with
  | none =>
      rw [value_of_get?_none hget]
      exact hnull
  | some v =>
      rw [Fields.value, hget]
      exact h v hget

theorem unlessNull_eq (h : fs.Typed key (· ≠ .null)) :
    (value fs key).unlessNull = get? fs key := by
  cases hget : get? fs key with
  | none => simp [value, hget, Json.unlessNull, Json.isNull]
  | some v =>
      have hnull : v.isNull = false := by
        cases v with
        | null => exact absurd rfl (h .null hget)
        | _ => rfl
      simp [value, hget, Json.unlessNull, hnull]

end Fields.Typed

/-- A field whose value is not null is present. -/
theorem Fields.get?_of_value {fs : Fields} {key : String} {v : Json} (hnull : v ≠ .null)
    (h : value fs key = v) : get? fs key = some v := by
  cases hget : get? fs key with
  | none => exact absurd ((value_of_get?_none hget).symm.trans h).symm hnull
  | some w =>
      rw [value, hget, Option.getD_some] at h
      rw [h]

theorem Action.isCoerced_eq_false {v : Json} (h : v = .null ∨ v.IsText ∨ v.IsObject) :
    isCoerced v = false := by
  rcases h with rfl | ⟨s, rfl⟩ | ⟨fs, rfl⟩ <;> rfl

/-! ### Rules for input, navigation and metadata -/

theorem keepFields_completes {ks : List String} {slots : List (String × Option Json)} {fs : Fields}
    (r : Fields.Record ks slots (Fields.without fs ks))
    (hslots : ∀ slot ∈ slots, slot.2 = Fields.get? fs slot.1) :
    keepFields.Completes fs (Fields.merge (Fields.present slots) (Fields.without fs ks)) := by
  apply completes_record r
  · intro key hkey
    cases hkey
  · intro key hkey
    cases hkey
  · intro slot hslot
    apply fills_of_eq_or rfl
    rw [hslots slot hslot]
    exact (Option.or_none).symm

theorem Validation.WellTyped.completes {fs : Fields} (h : WellTyped fs)
    (hfs : (Json.obj fs).WellFormed) :
    keepFields.Completes fs (Validation.ofFields fs).toFields := by
  have hrequired : (Validation.ofFields fs).required.map Json.bool = Fields.get? fs "required" := by
    cases hget : Fields.get? fs "required" with
    | none => simp [Validation.ofFields, Fields.value, hget, Json.isNull]
    | some v =>
        obtain ⟨b, rfl⟩ := h.required v hget
        simp [Validation.ofFields, Fields.value, hget, Json.isNull, Json.truthy]
  have hrule (key : String) (hkey : key ∈ ["minLength", "maxLength", "min", "max"]) :
      (Fields.value fs key).unlessNull = Fields.get? fs key :=
    (h.rules key hkey).unlessNull_eq
  rw [Validation.toFields_eq]
  apply keepFields_completes (Validation.record (.without hfs Validation.keys))
  simp only [Validation.slots, List.forall_mem_cons]
  exact ⟨hrequired, hrule "minLength" (by simp), hrule "maxLength" (by simp),
    hrule "min" (by simp), hrule "max" (by simp), List.forall_mem_nil _⟩

theorem Navigation.WellTyped.completes {fs : Fields} (h : WellTyped fs)
    (hfs : (Json.obj fs).WellFormed) :
    keepFields.Completes fs (Navigation.ofJson (.obj fs)).toFields := by
  have hpage (key : String) (hkey : key ∈ Navigation.keys) :
      (Fields.value fs key).displayUnlessNull?.map Json.str = Fields.get? fs key :=
    (h.pages key hkey).optionalText_eq
  rw [Navigation.toFields_eq]
  apply keepFields_completes (Navigation.record (.without hfs Navigation.keys))
  simp only [Navigation.slots, List.forall_mem_cons]
  exact ⟨hpage "guestPageId" (by simp [Navigation.keys]),
    hpage "initialPageId" (by simp [Navigation.keys]), List.forall_mem_nil _⟩

theorem Metadata.WellTyped.completes {fs : Fields} (h : WellTyped fs)
    (hfs : (Json.obj fs).WellFormed) :
    keepFields.Completes fs (Metadata.ofJson (.obj fs)).toFields := by
  rw [Metadata.toFields_eq]
  apply keepFields_completes (Metadata.record (.without hfs Metadata.keys))
  simp only [Metadata.slots, List.forall_mem_cons]
  exact ⟨h.revision.unlessNull_eq, h.createdBy.optionalText_eq, List.forall_mem_nil _⟩

/-- An object of the format whose fields are all kept, with the empty one as its default. -/
theorem fills_object {c : Completion} {key : String} {fs : Fields} {p : Fields → Prop}
    (written : Json → Fields) (hinner : c.inner.lookup key = some keepFields.Relates)
    (hdefault : Fields.get? c.defaults key = some (.obj [])) (hfs : (Json.obj fs).WellFormed)
    (h : fs.Typed key (Json.ObjectWith p)) (hempty : written .null = [])
    (hcompletes : ∀ gs, p gs → (Json.obj gs).WellFormed →
      keepFields.Completes gs (written (.obj gs))) :
    c.Fills key (Fields.get? fs key) (some (.obj (written (Fields.value fs key)))) := by
  cases hget : Fields.get? fs key with
  | none =>
      rw [Fields.value_of_get?_none hget, hempty]
      exact hdefault.symm
  | some v =>
      obtain ⟨gs, rfl, hgs⟩ := h v hget
      have hvalue : Fields.value fs key = .obj gs := by rw [Fields.value, hget]; rfl
      have hwf : (Json.obj gs).WellFormed := hvalue ▸ hfs.value key
      rw [hvalue]
      simp only [Fills, kept, hinner, Option.getD_some]
      exact hcompletes gs hgs hwf

/-! ### Components -/

namespace Component

/-- A key is remembered exactly if it was stored as null. -/
theorem mem_nulls_iff {id : String} {action : Option Action} {fs : Fields}
    {key : OptionalKey} :
    key ∈ (ofFields id action fs).nulls ↔ Fields.get? fs key.name = some .null := by
  rw [← List.contains_iff_mem, contains_nulls]
  cases Fields.get? fs key.name with
  | none => simp
  | some v => cases v <;> simp [Json.isNull]

/-- An optional key whose value is the stored one is written exactly if it was stored. -/
theorem optional_ofFields {id : String} {action : Option Action} {fs : Fields} {key : OptionalKey}
    {v : Json} (hv : v = Fields.value fs key.name) :
    (ofFields id action fs).optional key v = Fields.get? fs key.name := by
  subst hv
  cases hget : Fields.get? fs key.name with
  | none => simp [optional, Fields.value, hget, mem_nulls_iff, Json.isNull]
  | some v => cases v <;> simp [optional, Fields.value, hget, mem_nulls_iff, Json.isNull]

theorem propsValue_ofFields {id : String} {action : Option Action} {fs : Fields}
    (h : fs.Typed "props" fun v => v = .null ∨ v.IsObject) :
    some (ofFields id action fs).propsValue = (Fields.get? fs "props").or (some (.obj [])) := by
  have hnulls : OptionalKey.props ∈ (ofFields id action fs).nulls ↔
      Fields.get? fs "props" = some .null := mem_nulls_iff
  have hprops : (ofFields id action fs).props = (Fields.value fs "props").fields?.getD [] := rfl
  cases hget : Fields.get? fs "props" with
  | none => simp [propsValue, hprops, hnulls, Fields.value, hget, Json.fields?]
  | some v =>
      rcases h v hget with rfl | ⟨gs, rfl⟩
      · simp [propsValue, hprops, hnulls, Fields.value, hget, Json.fields?]
      · simp [propsValue, hprops, hnulls, Fields.value, hget, Json.fields?]

theorem fills_validation {id : String} {action : Option Action} {fs : Fields}
    (hfs : (Json.obj fs).WellFormed)
    (h : fs.Typed "validation" fun v => v = .null ∨ v.ObjectWith Validation.WellTyped) :
    completion.Fills "validation" (Fields.get? fs "validation")
      ((ofFields id action fs).optional .validation (ofFields id action fs).validationValue) := by
  have hvalidation : (ofFields id action fs).validation =
      (Fields.value fs "validation").fields?.map .ofFields := rfl
  by_cases hobject : ∃ gs, Fields.get? fs "validation" = some (.obj gs)
  · obtain ⟨gs, hget⟩ := hobject
    have hvalue : Fields.value fs "validation" = .obj gs := by rw [Fields.value, hget]; rfl
    have htyped : Validation.WellTyped gs := by
      rcases h _ hget with hnull | ⟨gs', heq, hgs'⟩
      · cases hnull
      · cases heq
        exact hgs'
    have hgs : (Json.obj gs).WellFormed := hvalue ▸ hfs.value "validation"
    have hwritten :
        (ofFields id action fs).optional .validation (ofFields id action fs).validationValue =
          some (.obj (Validation.ofFields gs).toFields) := by
      simp [optional, validationValue, hvalidation, hvalue, Json.fields?, Json.isNull]
    rw [hget, hwritten]
    exact htyped.completes hgs
  · have hnull : Fields.value fs "validation" = .null := by
      cases hget : Fields.get? fs "validation" with
      | none => exact Fields.value_of_get?_none hget
      | some v =>
          rcases h v hget with rfl | ⟨gs, rfl, -⟩
          · rw [Fields.value, hget, Option.getD_some]
          · exact absurd ⟨gs, hget⟩ hobject
    have hwritten :
        (ofFields id action fs).optional .validation (ofFields id action fs).validationValue =
          Fields.get? fs "validation" := by
      apply optional_ofFields
      simp [validationValue, hvalidation, hnull, Json.fields?, OptionalKey.name]
    rw [hwritten]
    cases hget : Fields.get? fs "validation" with
    | none => rfl
    | some v =>
        rw [Fields.value, hget, Option.getD_some] at hnull
        rw [hnull]
        rfl

variable [Json.Limits]

theorem WellTyped.completes {id : String} {action : Option Action} {fs : Fields} (h : WellTyped fs)
    (hid : Fields.value fs "id" = .str id) (hblank : Text.blank id = false)
    (haction : Action.ofJson? (Fields.value fs "action") = .ok action)
    (hfs : (Json.obj fs).WellFormed) :
    completion.Completes fs (ofFields id action fs).toFields := by
  have hrecord := (ofFields_canonical hblank hfs haction).record
  have hgetId : Fields.get? fs "id" = some (.str id) := Fields.get?_of_value (by simp) hid
  have hstored : Action.toJson? (ofFields id action fs).action = Fields.value fs "action" :=
    Action.toJson?_ofJson? haction (Action.isCoerced_eq_false (h.action.holds_value (.inl rfl)))
  have hoptional (key : OptionalKey) {v : Json} (hv : v = Fields.value fs key.name)
      (hinner : completion.inner.lookup key.name = none)
      (hdefault : Fields.get? completion.defaults key.name = none) :
      completion.Fills key.name (Fields.get? fs key.name)
        ((ofFields id action fs).optional key v) := by
    apply fills_of_eq_or hinner
    rw [optional_ofFields hv, hdefault, Option.or_none]
  rw [toFields_eq]
  apply completes_record hrecord
  · decide
  · decide
  · simp only [slots, List.forall_mem_cons]
    refine ⟨?_, ?_, ?_, hoptional .action hstored rfl rfl, fills_validation hfs h.validation,
      hoptional .gridRow rfl rfl rfl, hoptional .rowSpan rfl rfl rfl,
      hoptional .gridCol rfl rfl rfl, hoptional .colSpan rfl rfl rfl, List.forall_mem_nil _⟩
    · apply fills_of_eq_or rfl
      rw [hgetId]
      rfl
    · apply fills_of_eq_or rfl
      exact h.type.text_eq ""
    · apply fills_of_eq_or rfl
      exact propsValue_ofFields h.props

end Component

/-! ### Pages -/

namespace Page

theorem storedOrder_eq {index : Nat} {fs : Fields}
    (h : fs.Typed "order" fun v => ∃ n, v = .int n) :
    some (Json.int (storedOrder index fs)) =
      (Fields.get? fs "order").or (some (.int index)) := by
  cases hget : Fields.get? fs "order" with
  | none => simp [storedOrder, Fields.value, hget]
  | some v =>
      obtain ⟨n, rfl⟩ := h v hget
      simp [storedOrder, Fields.value, hget]

variable [Json.Limits]

/-- The components that are written complete those that were stored, one by one. -/
theorem eachItem_readComponents {place : String} {index : Nat} {stored : List Json}
    {cs : List Component} (hread : readComponents place index stored = .ok cs)
    (hstored : ∀ raw ∈ stored, raw.ObjectWith Component.WellTyped)
    (hwf : ∀ raw ∈ stored, raw.WellFormed) :
    EachItem (fun _ => Component.completion) index stored (cs.map Component.toJson) := by
  induction stored generalizing index cs with
  | nil =>
      cases hread
      trivial
  | cons raw rest ih =>
      simp only [List.forall_mem_cons] at hstored hwf
      obtain ⟨c, others, hc, hothers, rfl⟩ := readComponents_cons_eq_ok_iff.mp hread
      obtain ⟨fs, rfl, htyped⟩ := hstored.1
      obtain ⟨gs, id, action, hgs, hid, hblank, haction, rfl⟩ := Component.ofJson_eq_ok_iff.mp hc
      cases hgs
      exact ⟨htyped.completes hid hblank haction hwf.1, ih hothers hstored.2 hwf.2⟩

theorem fills_components {index : Nat} {place : String} {fs : Fields} {stored : List Json}
    {cs : List Component} (hfs : (Json.obj fs).WellFormed)
    (h : fs.Typed "components" (Json.ListOf (Json.ObjectWith Component.WellTyped)))
    (hstored : storedComponents? fs = some stored)
    (hread : readComponents place 0 stored = .ok cs) :
    (completion index).Fills "components" (Fields.get? fs "components")
      (some (.arr (cs.map Component.toJson))) := by
  cases hget : Fields.get? fs "components" with
  | none =>
      have hempty : storedComponents? fs = some [] := by
        simp [storedComponents?, Fields.value, hget]
      cases hempty.symm.trans hstored
      cases hread
      rfl
  | some v =>
      obtain ⟨xs, rfl, hxs⟩ := h v hget
      have hvalue : Fields.value fs "components" = .arr xs := by rw [Fields.value, hget]; rfl
      have hlist : storedComponents? fs = some xs := by
        simp [storedComponents?, hvalue, Json.items?]
      cases hlist.symm.trans hstored
      have hwf := Json.wellFormed_arr.mp (hvalue ▸ hfs.value "components")
      exact eachItem_readComponents hread hxs hwf

theorem WellTyped.completes {index : Nat} {fs : Fields} {p : Page} (h : WellTyped fs)
    (hfs : (Json.obj fs).WellFormed) (hread : ofJson index (.obj fs) = .ok p) :
    (completion index).Completes fs p.toFields := by
  have hrecord := (Canonical.of_read hfs hread).record
  obtain ⟨gs, id, stored, components, hgs, hid, -, hstored, hcomponents, rfl⟩ :=
    ofJson_eq_ok_iff.mp hread
  cases hgs
  have hgetId : Fields.get? fs "id" = some (.str id) := Fields.get?_of_value (by simp) hid
  rw [toFields_eq]
  apply completes_record hrecord
  · simp [completion, keys]
  · simp [completion, keys]
  · simp only [slots, List.forall_mem_cons]
    refine ⟨?_, ?_, ?_, fills_components hfs h.components hstored hcomponents,
      List.forall_mem_nil _⟩
    · apply fills_of_eq_or rfl
      rw [hgetId]
      rfl
    · apply fills_of_eq_or rfl
      exact storedOrder_eq h.order
    · apply fills_of_eq_or rfl
      exact h.title.text_eq ""

end Page

/-! ### Documents -/

namespace Document

theorem labels_of_readLabels {fs : Fields} {key : String} {ls : Option (List String)}
    (h : fs.Typed key (Json.ListOf Json.IsText))
    (hread : readLabels (Fields.value fs key) = .ok ls) :
    labels ls = Fields.get? fs key := by
  cases hget : Fields.get? fs key with
  | none =>
      rw [Fields.value_of_get?_none hget] at hread
      cases hread
      rfl
  | some v =>
      obtain ⟨xs, rfl, hxs⟩ := h v hget
      have htexts : ∀ x ∈ xs, Json.str x.display = x := by
        intro x hx
        obtain ⟨s, rfl⟩ := hxs x hx
        rfl
      rw [Fields.value, hget] at hread
      cases hread
      have hback : (xs.map Json.display).map Json.str = xs := by
        rw [List.map_map]
        exact (List.map_congr_left htexts).trans (List.map_id' xs)
      simp only [labels, Option.map_some, hback]

theorem publishedAt_eq {fs : Fields} (h : fs.Typed "published_at" fun v => v = .null ∨ v.IsText) :
    some ((Fields.value fs "published_at").displayUnlessNull?.elim Json.null Json.str) =
      (Fields.get? fs "published_at").or (some .null) := by
  cases hget : Fields.get? fs "published_at" with
  | none => simp [Fields.value, hget]
  | some v =>
      rcases h v hget with rfl | ⟨s, rfl⟩
      · simp [Fields.value, hget]
      · simp [Fields.value, hget]

theorem storedId_eq {fs : Fields} (hid : fs.Typed "id" fun v => v.IsText ∧ v ≠ .str "")
    (hslug : fs.Typed "slug" Json.IsText) :
    some (Json.str (storedId fs)) =
      (Fields.get? fs "id").or (some (.str (idOfSlug (Fields.value fs "slug")))) := by
  cases hget : Fields.get? fs "id" with
  | some v =>
      obtain ⟨⟨s, rfl⟩, hne⟩ := hid v hget
      have hvalue : Fields.value fs "id" = .str s := by rw [Fields.value, hget]; rfl
      have htruthy : (Json.str s).truthy = true := bne_iff_ne.mpr fun heq => hne (heq ▸ rfl)
      rw [storedId, hvalue, List.find?_cons_of_pos htruthy]
      rfl
  | none =>
      have hvalue : Fields.value fs "id" = .null := Fields.value_of_get?_none hget
      cases hslugGet : Fields.get? fs "slug" with
      | none =>
          rw [storedId, hvalue, Fields.value_of_get?_none hslugGet]
          rfl
      | some v =>
          obtain ⟨t, rfl⟩ := hslug v hslugGet
          have hslugValue : Fields.value fs "slug" = .str t := by rw [Fields.value, hslugGet]; rfl
          rw [storedId, hvalue, hslugValue]
          by_cases hempty : t = ""
          · subst hempty
            rfl
          · have hne : (t != "") = true := bne_iff_ne.mpr hempty
            simp [idOfSlug, Json.truthy, Json.text?, hne, Option.filter_some_pos]

section

variable [Json.Limits]

/-- The pages that are written complete those that were stored, one by one. -/
theorem eachItem_readPages {index : Nat} {stored : List Json} {ps : List Page}
    (hread : readPages index stored = .ok ps)
    (hstored : ∀ raw ∈ stored, raw.ObjectWith Page.WellTyped)
    (hwf : ∀ raw ∈ stored, raw.WellFormed) :
    EachItem Page.completion index stored (ps.map Page.toJson) := by
  induction stored generalizing index ps with
  | nil =>
      cases hread
      trivial
  | cons raw rest ih =>
      simp only [List.forall_mem_cons] at hstored hwf
      obtain ⟨p, others, hp, hothers, rfl⟩ := readPages_cons_eq_ok_iff.mp hread
      obtain ⟨fs, rfl, htyped⟩ := hstored.1
      exact ⟨htyped.completes hwf.1 hp, ih hothers hstored.2 hwf.2⟩

theorem fills_pages {slug : Json} {fs : Fields} {stored : List Json} {ps : List Page}
    (hfs : (Json.obj fs).WellFormed)
    (h : fs.Typed "pages" fun v => v.ListOf (Json.ObjectWith Page.WellTyped) ∧ v ≠ .arr [])
    (hstored : Fields.value fs "pages" = .arr stored) (hread : readPages 0 stored = .ok ps) :
    (completion slug).Fills "pages" (Fields.get? fs "pages")
      (some (.arr ((withWelcome ps).map Page.toJson))) := by
  have hget : Fields.get? fs "pages" = some (.arr stored) := Fields.get?_of_value (by simp) hstored
  obtain ⟨⟨xs, heq, hxs⟩, hne⟩ := h _ hget
  cases heq
  have hwf := Json.wellFormed_arr.mp (hstored ▸ hfs.value "pages")
  have heach := eachItem_readPages hread hxs hwf
  have hkept : withWelcome ps = ps := by
    cases ps with
    | cons p ps => rfl
    | nil =>
        cases stored with
        | nil => exact absurd rfl hne
        | cons raw rest => cases heach
  rw [hget, hkept]
  exact heach

theorem WellTyped.completes {fs : Fields} {d : Document} (h : WellTyped fs)
    (hfs : (Json.obj fs).WellFormed) (hread : ofJson (.obj fs) = .ok d) :
    (completion (Fields.value fs "slug")).Completes fs d.toFields := by
  have hrecord := (Canonical.of_read hfs hread).record
  obtain ⟨gs, stored, pages, permissions, statuses, hgs, hstored, hpages, hpermissions, hstatuses,
    hcheck⟩ := ofJson_eq_ok_iff.mp hread
  cases hgs
  obtain ⟨rfl, -, -⟩ := check_eq_ok_iff.mp hcheck
  have htext (key : String) (default : String)
      (hkey : key ∈ ["version", "name", "description", "slug", "created_at", "updated_at"]) :=
    (h.texts key hkey).text_eq default
  have hoptional (key : String) {w? : Option Json} (hw : w? = Fields.get? fs key)
      (hinner : (completion (Fields.value fs "slug")).inner.lookup key = none)
      (hdefault : Fields.get? (completion (Fields.value fs "slug")).defaults key = none) :
      (completion (Fields.value fs "slug")).Fills key (Fields.get? fs key) w? := by
    apply fills_of_eq_or hinner
    rw [hw, hdefault, Option.or_none]
  rw [toFields_eq]
  apply completes_record hrecord
  · simp [completion, keys]
  · simp [completion, keys]
  · simp only [slots, List.forall_mem_cons]
    refine ⟨fills_of_eq_or rfl ?_, fills_of_eq_or rfl ?_, fills_of_eq_or rfl ?_,
      fills_of_eq_or rfl ?_, fills_of_eq_or rfl ?_, fills_of_eq_or rfl ?_, fills_of_eq_or rfl ?_,
      fills_of_eq_or rfl ?_, ?_, fills_pages hfs h.pages hstored hpages, ?_, hoptional _ ?_ rfl rfl,
      hoptional _ ?_ rfl rfl, hoptional _ ?_ rfl rfl, hoptional _ ?_ rfl rfl,
      hoptional _ ?_ rfl rfl,
      List.forall_mem_nil _⟩
    · exact storedId_eq h.id (h.texts "slug" (by simp))
    · exact htext "version" "1.0" (by simp)
    · exact htext "name" "" (by simp)
    · exact htext "description" "" (by simp)
    · exact htext "slug" "" (by simp)
    · exact (h.flags "is_public" (by simp)).flag_eq
    · exact (h.flags "is_published" (by simp)).flag_eq
    · exact publishedAt_eq h.publishedAt
    · exact fills_object (fun v => (Navigation.ofJson v).toFields) rfl rfl hfs h.navigation rfl
        fun gs hgs hwf => hgs.completes hwf
    · exact fills_object (fun v => (Metadata.ofJson v).toFields) rfl rfl hfs h.metadata rfl
        fun gs hgs hwf => hgs.completes hwf
    · exact (h.texts "created_at" (by simp)).optionalText_eq
    · exact (h.texts "updated_at" (by simp)).optionalText_eq
    · exact h.payment.unlessNull_eq
    · exact labels_of_readLabels (h.labels "permissions" (by simp)) hpermissions
    · exact labels_of_readLabels (h.labels "statuses" (by simp)) hstatuses

theorem normalize_eq_ok_iff {raw v : Json} :
    normalize raw = .ok v ↔ ∃ d, ofJson raw = .ok d ∧ d.toJson = v := by
  unfold normalize
  cases ofJson raw with
  | error e => simp [Except.map]
  | ok d => simp [Except.map]

/-- What normalizing gives, the order of its fields included, is normal already. Of a document whose
fields have their types it is a completion: each stored field is there with its value, on every
level, and the fields beside them are the missing ones with their defaults. -/
theorem normalize_idempotent_and_lossless {fs : Fields} {v : Json} (hfs : (Json.obj fs).WellFormed)
    (h : normalize (.obj fs) = .ok v) :
    normalize v = .ok v ∧
      (WellTyped fs → ∃ gs, v = .obj gs ∧
        (completion (Fields.value fs "slug")).Completes fs gs) := by
  obtain ⟨d, hread, rfl⟩ := normalize_eq_ok_iff.mp h
  constructor
  · exact normalize_eq_ok_iff.mpr ⟨d, (Canonical.of_read hfs hread).ofJson_toJson, rfl⟩
  · intro htyped
    exact ⟨d.toFields, rfl, htyped.completes hfs hread⟩

end

/-- A component with keys that are null, an action without a type, rules in an order of their own
and a key that is unknown. -/
def storedPay : Fields :=
  [("gridRow", .null), ("props", .null), ("id", .str "pay"), ("caption", .arr []),
    ("action", .obj [("params", .null)]),
    ("validation", .obj [("max", .str "9"), ("hint", .null), ("required", .bool false)])]

/-- A document without an id whose only page has the component. -/
def storedShop : Fields :=
  [("vendor", .obj [("note", .null)]), ("slug", .str "shop"), ("published_at", .null),
    ("navigation", .obj [("transition", .str "slide"), ("initialPageId", .str "home")]),
    ("metadata", .obj [("createdBy", .str "builder"), ("revision", .float .nan)]),
    ("permissions", .arr [.str "camera", .str "camera"]),
    ("pages", .arr [.obj [("background", .int 0), ("id", .str "home"),
      ("components", .arr [.obj storedPay])]])]

theorem storedShop_wellFormed : (Json.obj storedShop).WellFormed := by
  simp [storedShop, storedPay, Json.wellFormed_obj, Json.wellFormed_arr, Fields.DistinctKeys]

theorem storedPay_wellTyped : Component.WellTyped storedPay where
  type := .of_absent rfl
  props := .of_get? rfl (.inl rfl)
  action := .of_get? rfl (.inr (.inr ⟨_, rfl⟩))
  validation := .of_get? rfl (.inr ⟨_, rfl,
    { required := .of_get? rfl ⟨false, rfl⟩
      rules := by simp [Fields.Typed, Fields.get?_cons] }⟩)

theorem storedShop_wellTyped : WellTyped storedShop where
  id := .of_absent rfl
  texts := by simp [storedShop, Fields.Typed, Fields.get?_cons, Json.IsText]
  flags := by simp [storedShop, Fields.Typed, Fields.get?_cons]
  publishedAt := .of_get? rfl (.inl rfl)
  navigation := .of_get? rfl ⟨_, rfl,
    { pages := by simp [Fields.Typed, Fields.get?_cons, Navigation.keys, Json.IsText] }⟩
  metadata := .of_get? rfl ⟨_, rfl,
    { revision := .of_get? rfl nofun
      createdBy := .of_get? rfl ⟨"builder", rfl⟩ }⟩
  payment := .of_absent rfl
  labels := by simp [storedShop, Fields.Typed, Fields.get?_cons, Json.ListOf, Json.IsText]
  pages := by
    have hpage : Page.WellTyped [("background", .int 0), ("id", .str "home"),
        ("components", .arr [.obj storedPay])] :=
      { order := .of_absent rfl
        title := .of_absent rfl
        components := .of_get? rfl ⟨_, rfl, by simp [Json.ObjectWith, storedPay_wellTyped]⟩ }
    exact .of_get? rfl ⟨⟨_, rfl, by simp [Json.ObjectWith, hpage]⟩, nofun⟩

theorem shop_completed :
    ∃ v, normalize (.obj storedShop) = .ok v ∧ normalize v = .ok v ∧
      ∃ gs, v = .obj gs ∧ Fields.get? gs "id" = some (.str "shop") ∧
        (completion (.str "shop")).Completes storedShop gs := by
  have hread : ∃ v, normalize (.obj storedShop) = .ok v := ⟨_, rfl⟩
  obtain ⟨v, hv⟩ := hread
  obtain ⟨hnormal, hcompletes⟩ := normalize_idempotent_and_lossless storedShop_wellFormed hv
  obtain ⟨gs, rfl, hgs⟩ := hcompletes storedShop_wellTyped
  exact ⟨_, hv, hnormal, gs, rfl, hgs "id", hgs⟩

end Document

end PageBuilder
