import PageBuilder.Proofs.ReadRecords
import PageBuilder.Proofs.ReaderLimits
import PageBuilder.Proofs.RecordFields
import PageBuilder.Proofs.ValueDisplay

/-! # What was read is written back

Each record that was read from a well-formed value is written as a well-formed value that reads as
the same record.

## Implementation notes

`slots` lists the fields of a record in the order of its keys, absent ones included. With it a field
of what was written is found in one step, whichever of the fields before it are left out. -/

namespace PageBuilder

@[simp] theorem elim_null_map_str (s : Option String) :
    ((s.map Json.str).getD .null).displayUnlessNull? = s := by
  cases s <;> rfl

theorem textField_eq (key : String) (s : Option String) :
    textField key s = Fields.present [(key, s.map .str)] := by
  cases s <;> rfl

/-- The fields of an object inside a well-formed value; another value has none. -/
theorem Json.WellFormed.fieldsOrNone {raw : Json} (h : raw.WellFormed) :
    (Json.obj (raw.fields?.getD [])).WellFormed := by
  cases hfs : raw.fields? with
  | none => exact Json.wellFormed_obj_nil
  | some fs => exact h.fields hfs

/-- A value that is left out where it is null. -/
def Json.unlessNull (v : Json) : Option Json :=
  if v.isNull then none else some v

@[simp] theorem Json.getD_unlessNull (v : Json) : v.unlessNull.getD .null = v := by
  cases v <;> rfl

theorem Json.unlessNull_ne_null (v : Json) : v.unlessNull ≠ some .null := by
  cases v <;> simp [unlessNull, isNull]

theorem Json.unlessNull_getD {v? : Option Json} (h : v? ≠ some .null) :
    (v?.getD .null).unlessNull = v? := by
  cases v? with
  | none => rfl
  | some v => cases v <;> first | rfl | exact absurd rfl h

@[simp] theorem Json.forall_mem_unlessNull {v : Json} :
    (∀ w, v.unlessNull = some w → w.WellFormed) ↔ v.WellFormed := by
  cases v <;> simp [unlessNull, isNull]

theorem unlessNull_field (key : String) (v : Json) :
    (if v.isNull then [] else [(key, v)]) = Fields.present [(key, v.unlessNull)] := by
  unfold Json.unlessNull
  split <;> rfl

theorem filter_not_isNull (fs : Fields) :
    fs.filter (fun f => !f.2.isNull) = Fields.present (fs.map fun f => (f.1, f.2.unlessNull)) := by
  induction fs with
  | nil => rfl
  | cons f fs ih =>
      rw [List.filter_cons, List.map_cons, ih]
      cases hnull : f.2.isNull with
      | true => simp [Json.unlessNull, hnull]
      | false => simp [Json.unlessNull, hnull]

/-! ### Navigation and metadata -/

namespace Navigation

def slots (n : Navigation) : List (String × Option Json) :=
  [("guestPageId", n.guestPageId.map .str), ("initialPageId", n.initialPageId.map .str)]

theorem toFields_eq (n : Navigation) :
    n.toFields = Fields.merge (Fields.present n.slots) n.extras := by
  simp only [toFields, textField_eq, slots, ← Fields.present_append]
  rfl

theorem ofJson_extras {raw : Json} (h : raw.WellFormed) :
    Fields.Extras keys (ofJson raw).extras :=
  .without h.fieldsOrNone keys

theorem record {n : Navigation} (h : Fields.Extras keys n.extras) :
    Fields.Record keys n.slots n.extras :=
  ⟨rfl, by decide, h⟩

theorem ofJson_toFields {n : Navigation} (h : Fields.Extras keys n.extras) :
    ofJson (.obj n.toFields) = n := by
  have hrecord := record h
  simp only [toFields_eq, ofJson, Json.fields?, Option.getD_some, hrecord.value (i := 0) rfl,
    hrecord.value (i := 1) rfl, elim_null_map_str, hrecord.without_keys]

theorem toFields_wellFormed {n : Navigation} (h : Fields.Extras keys n.extras) :
    (Json.obj n.toFields).WellFormed := by
  rw [toFields_eq]
  exact (record h).wellFormed (by simp [slots])

end Navigation

namespace Metadata

def slots (m : Metadata) : List (String × Option Json) :=
  [("revision", m.revision.unlessNull), ("createdBy", m.createdBy.map .str)]

theorem toFields_eq (m : Metadata) :
    m.toFields = Fields.merge (Fields.present m.slots) m.extras := by
  simp only [toFields, unlessNull_field, textField_eq, slots, ← Fields.present_append]
  rfl

theorem ofJson_extras {raw : Json} (h : raw.WellFormed) :
    Fields.Extras keys (ofJson raw).extras :=
  .without h.fieldsOrNone keys

theorem record {m : Metadata} (h : Fields.Extras keys m.extras) :
    Fields.Record keys m.slots m.extras :=
  ⟨rfl, by decide, h⟩

theorem ofJson_toFields {m : Metadata} (h : Fields.Extras keys m.extras) :
    ofJson (.obj m.toFields) = m := by
  have hrecord := record h
  simp only [toFields_eq, ofJson, Json.fields?, Option.getD_some, hrecord.value (i := 0) rfl,
    hrecord.value (i := 1) rfl, Json.getD_unlessNull, elim_null_map_str, hrecord.without_keys]

theorem toFields_wellFormed {m : Metadata} (hrevision : m.revision.WellFormed)
    (h : Fields.Extras keys m.extras) : (Json.obj m.toFields).WellFormed := by
  rw [toFields_eq]
  exact (record h).wellFormed (by simp [slots, hrevision])

end Metadata

/-! ### Rules for input -/

namespace Validation

def slots (v : Validation) : List (String × Option Json) :=
  [("required", v.required.map .bool), ("minLength", v.minLength.unlessNull),
    ("maxLength", v.maxLength.unlessNull), ("min", v.min.unlessNull), ("max", v.max.unlessNull)]

theorem toFields_eq (v : Validation) :
    v.toFields = Fields.merge (Fields.present v.slots) v.extras := by
  have hrequired : (v.required.elim Json.null Json.bool).unlessNull = v.required.map .bool := by
    cases v.required <;> rfl
  simp only [toFields, filter_not_isNull, List.map_cons, List.map_nil, hrequired, slots]

theorem record {v : Validation} (h : Fields.Extras keys v.extras) :
    Fields.Record keys v.slots v.extras :=
  ⟨rfl, by decide, h⟩

theorem ofFields_toFields {v : Validation} (h : Fields.Extras keys v.extras) :
    ofFields v.toFields = v := by
  have hrecord := record h
  have hrequired : (if ((v.required.map Json.bool).getD .null).isNull then none
      else some ((v.required.map Json.bool).getD .null).truthy) = v.required := by
    cases v.required <;> rfl
  simp only [toFields_eq, ofFields, hrecord.value (i := 0) rfl, hrecord.value (i := 1) rfl,
    hrecord.value (i := 2) rfl, hrecord.value (i := 3) rfl, hrecord.value (i := 4) rfl,
    Json.getD_unlessNull, hrecord.without_keys, hrequired]

theorem toFields_wellFormed {fs : Fields} (h : (Json.obj fs).WellFormed) :
    (Json.obj (ofFields fs).toFields).WellFormed := by
  rw [toFields_eq]
  refine (record (.without h keys)).wellFormed ?_
  have hrequired : ∀ w ∈ (ofFields fs).required.map Json.bool, w.WellFormed := by
    cases (ofFields fs).required <;> simp
  rw [slots, List.forall_mem_cons]
  exact ⟨hrequired, by simp [ofFields, h.value]⟩

end Validation

/-! ### Actions -/

namespace Action

variable [Json.Limits]

/-- Only a text beyond a limit is not read as an action. -/
theorem ofJson?_isOk_iff {v : Json} :
    (∃ action, ofJson? v = .ok action) ↔
      ∀ s, v = .str s → ∀ limit, decodeText? s ≠ .error limit := by
  cases v with
  | str s => cases hdecode : decodeText? s <;> simp [ofJson?, hdecode, Except.map]
  | _ => simp [ofJson?]

theorem decodeText?_ne (h : Json.Unlimited) (s : String) (limit : Json.Overrun) :
    decodeText? s ≠ .error limit := by
  unfold decodeText?
  dsimp only
  split
  · split
    · simp
    · next hparse => exact absurd hparse (h.parseChars_ne _ _)
    · simp
  · simp

/-- The name that a coerced value displays as holds no action object. -/
theorem decodeText?_display {v : Json} (h : isCoerced v) : decodeText? v.display = .ok none := by
  have htext : v.text? = none := by cases v <;> first | rfl | cases h
  have hfields : v.fields? = none := by cases v <;> first | rfl | cases h
  obtain ⟨c, cs, hcs, hc⟩ := Json.exists_start_of_literal htext hfields
  have hhead := Text.head?_stripChars hc.not_blank cs
  rw [← hcs, ← Json.toList_display htext] at hhead
  have hbrace : c ≠ '{' := hc.ne rfl (by decide)
  simp [decodeText?, hhead, hbrace]

/-- A coerced value is read as the name that it displays as, and so is that name. -/
theorem ofJson?_of_isCoerced {v : Json} (h : isCoerced v) :
    ofJson? v = .ok (some (.named v.display)) ∧
      ofJson? (.str v.display) = .ok (some (.named v.display)) := by
  constructor
  · cases v <;> first | rfl | cases h
  · rw [ofJson?, decodeText?_display h]
    rfl

theorem ofJson?_toJson? {v : Json} {a : Option Action} (h : ofJson? v = .ok a) :
    ofJson? (toJson? a) = .ok a := by
  by_cases hcoerced : isCoerced v
  · obtain ⟨hread, hname⟩ := ofJson?_of_isCoerced hcoerced
    rw [hread] at h
    cases h
    exact hname
  · cases v with
    | null | obj => cases h; rfl
    | str s =>
        obtain ⟨decoded, hdecode, rfl⟩ := Json.map_ok h
        rw [toJson?, toJson_ofText]
        exact h
    | _ => exact absurd rfl hcoerced

/-- Null, texts and objects are stored as they were. -/
theorem toJson?_ofJson? {v : Json} {a : Option Action} (h : ofJson? v = .ok a)
    (hkept : isCoerced v = false) : toJson? a = v := by
  cases v with
  | null | obj => cases h; rfl
  | str s =>
      obtain ⟨decoded, -, rfl⟩ := Json.map_ok h
      rw [toJson?, toJson_ofText]
  | _ => cases hkept

theorem toJson?_wellFormed {v : Json} {a : Option Action} (h : ofJson? v = .ok a)
    (hv : v.WellFormed) : (toJson? a).WellFormed := by
  by_cases hcoerced : isCoerced v
  · rw [(ofJson?_of_isCoerced hcoerced).1] at h
    cases h
    trivial
  · rw [toJson?_ofJson? h (by simpa using hcoerced)]
    exact hv

end Action

end PageBuilder
