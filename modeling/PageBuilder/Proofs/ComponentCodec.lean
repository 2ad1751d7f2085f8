import PageBuilder.Proofs.RecordCodec

/-! # Components are written back

A component that was read is written as a value that reads as the same component. What such a
component keeps is `Component.Canonical`, and the way back needs nothing else. -/

namespace PageBuilder

namespace Component

/-- The value of an optional key, if it is written. -/
def optional (c : Component) (key : OptionalKey) (v : Json) : Option Json :=
  if v.isNull && !c.nulls.contains key then none else some v

theorem optionalField_eq (c : Component) (key : OptionalKey) (v : Json) :
    c.optionalField key v = Fields.present [(key.name, c.optional key v)] := by
  unfold optionalField optional
  split <;> rfl

theorem getD_optional (c : Component) (key : OptionalKey) (v : Json) :
    (c.optional key v).getD .null = v := by
  unfold optional
  cases c.nulls.contains key <;> cases v <;> rfl

@[simp] theorem forall_mem_optional {c : Component} {key : OptionalKey} {v : Json} :
    (∀ w, c.optional key v = some w → w.WellFormed) ↔ v.WellFormed := by
  unfold optional
  cases c.nulls.contains key <;> cases v <;> simp [Json.isNull]

/-- A key that was stored as null is written as null. -/
theorem any_optional {c : Component} {key : OptionalKey} {v : Json}
    (h : c.nulls.contains key → v = .null) :
    (c.optional key v).any Json.isNull = c.nulls.contains key := by
  unfold optional
  cases hnull : c.nulls.contains key with
  | true =>
      rw [h hnull]
      rfl
  | false => cases v <;> rfl

/-- The value under `props`. -/
def propsValue (c : Component) : Json :=
  if c.props.isEmpty && c.nulls.contains .props then .null else .obj c.props

/-- The value under `validation`. -/
def validationValue (c : Component) : Json :=
  c.validation.elim .null fun v => .obj v.toFields

def slots (c : Component) : List (String × Option Json) :=
  [("id", some (.str c.id)), ("type", some (.str c.type)), ("props", some c.propsValue),
    ("action", c.optional .action (Action.toJson? c.action)),
    ("validation", c.optional .validation c.validationValue),
    ("gridRow", c.optional .gridRow c.grid.row), ("rowSpan", c.optional .rowSpan c.grid.rowSpan),
    ("gridCol", c.optional .gridCol c.grid.col), ("colSpan", c.optional .colSpan c.grid.colSpan)]

theorem toFields_eq (c : Component) :
    c.toFields = Fields.merge (Fields.present c.slots) c.extras := by
  have hslots : c.slots =
      [("id", some (.str c.id)), ("type", some (.str c.type)), ("props", some c.propsValue)] ++
      [(OptionalKey.action.name, c.optional .action (Action.toJson? c.action))] ++
      [(OptionalKey.validation.name, c.optional .validation c.validationValue)] ++
      [(OptionalKey.gridRow.name, c.optional .gridRow c.grid.row)] ++
      [(OptionalKey.rowSpan.name, c.optional .rowSpan c.grid.rowSpan)] ++
      [(OptionalKey.gridCol.name, c.optional .gridCol c.grid.col)] ++
      [(OptionalKey.colSpan.name, c.optional .colSpan c.grid.colSpan)] := rfl
  rw [hslots]
  simp only [Fields.present_append, ← optionalField_eq]
  rfl

theorem record {c : Component} (h : Fields.Extras keys c.extras) :
    Fields.Record keys c.slots c.extras :=
  ⟨rfl, by decide, h⟩

theorem value_id {c : Component} (h : Fields.Extras keys c.extras) :
    Fields.value c.toFields "id" = .str c.id := by
  rw [toFields_eq]
  exact (record h).value (i := 0) rfl

/-- What a component that was read keeps. -/
structure Canonical [Json.Limits] (c : Component) : Prop where
  id_not_blank : Text.blank c.id = false
  props_wellFormed : (Json.obj c.props).WellFormed
  action : Action.ofJson? (Action.toJson? c.action) = .ok c.action
  action_wellFormed : (Action.toJson? c.action).WellFormed
  validation : ∀ v ∈ c.validation, Fields.Extras Validation.keys v.extras
  validation_wellFormed : c.validationValue.WellFormed
  row_wellFormed : c.grid.row.WellFormed
  rowSpan_wellFormed : c.grid.rowSpan.WellFormed
  col_wellFormed : c.grid.col.WellFormed
  colSpan_wellFormed : c.grid.colSpan.WellFormed
  extras : Fields.Extras keys c.extras
  nulls : c.nulls = OptionalKey.all.filter c.nulls.contains
  null_props : c.nulls.contains .props → c.props = []
  null_action : c.nulls.contains .action → Action.toJson? c.action = .null
  null_validation : c.nulls.contains .validation → c.validationValue = .null
  null_row : c.nulls.contains .gridRow → c.grid.row = .null
  null_rowSpan : c.nulls.contains .rowSpan → c.grid.rowSpan = .null
  null_col : c.nulls.contains .gridCol → c.grid.col = .null
  null_colSpan : c.nulls.contains .colSpan → c.grid.colSpan = .null

theorem value_of_any_isNull {fs : Fields} {key : String}
    (h : (Fields.get? fs key).any Json.isNull) : Fields.value fs key = .null := by
  cases hget : Fields.get? fs key with
  | none => exact Fields.value_of_get?_none hget
  | some v =>
      rw [hget] at h
      have hv : v = .null := by cases v <;> first | rfl | cases h
      rw [Fields.value, hget, hv, Option.getD_some]

theorem contains_nulls (id : String) (action : Option Action) (fs : Fields) (key : OptionalKey) :
    (ofFields id action fs).nulls.contains key = (Fields.get? fs key.name).any Json.isNull := by
  have hmem : key ∈ OptionalKey.all := by cases key <;> decide
  rw [Bool.eq_iff_iff]
  simp [ofFields, hmem]

theorem value_of_contains_nulls {id : String} {action : Option Action} {fs : Fields}
    {key : OptionalKey} (h : (ofFields id action fs).nulls.contains key) :
    Fields.value fs key.name = .null := by
  rw [contains_nulls] at h
  exact value_of_any_isNull h

theorem ofFields_validationValue_wellFormed (id : String) (action : Option Action) {fs : Fields}
    (h : (Json.obj fs).WellFormed) : (ofFields id action fs).validationValue.WellFormed := by
  simp only [validationValue, ofFields]
  cases hfs : (Fields.value fs "validation").fields? with
  | none => trivial
  | some gs => exact Validation.toFields_wellFormed ((h.value "validation").fields hfs)

variable [Json.Limits]

theorem ofFields_canonical {id : String} {action : Option Action} {fs : Fields}
    (hid : Text.blank id = false) (h : (Json.obj fs).WellFormed)
    (haction : Action.ofJson? (Fields.value fs "action") = .ok action) :
    (ofFields id action fs).Canonical where
  id_not_blank := hid
  props_wellFormed := (h.value "props").fieldsOrNone
  action := Action.ofJson?_toJson? haction
  action_wellFormed := Action.toJson?_wellFormed haction (h.value "action")
  validation := by
    intro v hv
    obtain ⟨gs, hgs, rfl⟩ := Option.map_eq_some_iff.mp hv
    exact .without ((h.value "validation").fields hgs) Validation.keys
  validation_wellFormed := ofFields_validationValue_wellFormed id action h
  row_wellFormed := h.value "gridRow"
  rowSpan_wellFormed := h.value "rowSpan"
  col_wellFormed := h.value "gridCol"
  colSpan_wellFormed := h.value "colSpan"
  extras := .without h keys
  nulls := by
    apply List.filter_congr
    intro key _
    exact (contains_nulls id action fs key).symm
  null_props := fun hnull => by
    have hvalue : Fields.value fs "props" = .null := value_of_contains_nulls hnull
    simp [ofFields, hvalue, Json.fields?]
  null_action := fun hnull => by
    have hvalue : Fields.value fs "action" = .null := value_of_contains_nulls hnull
    rw [hvalue] at haction
    cases haction
    rfl
  null_validation := fun hnull => by
    have hvalue : Fields.value fs "validation" = .null := value_of_contains_nulls hnull
    simp [validationValue, ofFields, hvalue, Json.fields?]
  null_row := value_of_contains_nulls
  null_rowSpan := value_of_contains_nulls
  null_col := value_of_contains_nulls
  null_colSpan := value_of_contains_nulls

theorem Canonical.record {c : Component} (h : c.Canonical) :
    Fields.Record keys c.slots c.extras :=
  Component.record h.extras

theorem Canonical.propsValue_eq {c : Component} (h : c.Canonical) :
    c.propsValue = if c.nulls.contains .props then .null else .obj c.props := by
  unfold propsValue
  cases hnull : c.nulls.contains .props with
  | true =>
      rw [h.null_props hnull]
      rfl
  | false => rw [Bool.and_false]

theorem Canonical.fields?_propsValue {c : Component} (h : c.Canonical) :
    c.propsValue.fields?.getD [] = c.props := by
  rw [h.propsValue_eq]
  split
  · next hnull =>
    rw [h.null_props hnull]
    rfl
  · rfl

theorem Canonical.fields?_validationValue {c : Component} (h : c.Canonical) :
    c.validationValue.fields?.map Validation.ofFields = c.validation := by
  cases hv : c.validation with
  | none => simp [validationValue, hv, Json.fields?]
  | some v =>
      have hback := Validation.ofFields_toFields (h.validation v hv)
      simp [validationValue, hv, Json.fields?, hback]

/-- Every optional key is written as null where it was stored so. -/
theorem Canonical.any_isNull {c : Component} (h : c.Canonical) (key : OptionalKey) :
    (Fields.get? c.toFields key.name).any Json.isNull = c.nulls.contains key := by
  have hrecord := h.record
  rw [toFields_eq]
  cases key with
  | props =>
      rw [OptionalKey.name, hrecord.get? (i := 2) rfl, h.propsValue_eq]
      cases c.nulls.contains .props <;> rfl
  | action =>
      rw [OptionalKey.name, hrecord.get? (i := 3) rfl]
      exact any_optional h.null_action
  | validation =>
      rw [OptionalKey.name, hrecord.get? (i := 4) rfl]
      exact any_optional h.null_validation
  | gridRow =>
      rw [OptionalKey.name, hrecord.get? (i := 5) rfl]
      exact any_optional h.null_row
  | rowSpan =>
      rw [OptionalKey.name, hrecord.get? (i := 6) rfl]
      exact any_optional h.null_rowSpan
  | gridCol =>
      rw [OptionalKey.name, hrecord.get? (i := 7) rfl]
      exact any_optional h.null_col
  | colSpan =>
      rw [OptionalKey.name, hrecord.get? (i := 8) rfl]
      exact any_optional h.null_colSpan

/-- What a component does is written in its record. -/
theorem Canonical.value_action {c : Component} (h : c.Canonical) :
    Fields.value c.toFields "action" = Action.toJson? c.action := by
  rw [toFields_eq]
  exact (h.record.value (i := 3) rfl).trans (getD_optional c .action _)

theorem Canonical.ofFields_toFields {c : Component} (h : c.Canonical) :
    ofFields c.id c.action c.toFields = c := by
  have hrecord := h.record
  have hnulls : (OptionalKey.all.filter fun key =>
      (Fields.get? c.toFields key.name).any Json.isNull) = c.nulls := by
    rw [h.nulls]
    exact List.filter_congr fun key _ => h.any_isNull key
  rw [toFields_eq] at hnulls ⊢
  simp only [ofFields, hrecord.value (i := 1) rfl, hrecord.value (i := 2) rfl,
    hrecord.value (i := 4) rfl, hrecord.value (i := 5) rfl,
    hrecord.value (i := 6) rfl, hrecord.value (i := 7) rfl, hrecord.value (i := 8) rfl,
    Option.getD_some, getD_optional, h.fields?_propsValue, h.fields?_validationValue,
    hrecord.without_keys, hnulls]
  rfl

theorem Canonical.ofJson_toJson {c : Component} (h : c.Canonical) (place : String) :
    ofJson place c.toJson = .ok c := by
  have hid : Fields.value c.toFields "id" = .str c.id := value_id h.extras
  have haction : Action.ofJson? (Fields.value c.toFields "action") = .ok c.action := by
    rw [h.value_action]
    exact h.action
  exact ofJson_eq_ok_iff.mpr
    ⟨c.toFields, c.id, c.action, rfl, hid, h.id_not_blank, haction, h.ofFields_toFields.symm⟩

theorem Canonical.propsValue_wellFormed {c : Component} (h : c.Canonical) :
    c.propsValue.WellFormed := by
  rw [h.propsValue_eq]
  split
  · trivial
  · exact h.props_wellFormed

theorem Canonical.toJson_wellFormed {c : Component} (h : c.Canonical) : c.toJson.WellFormed := by
  rw [toJson, toFields_eq]
  refine h.record.wellFormed ?_
  simp [slots, h.propsValue_wellFormed, h.action_wellFormed, h.validation_wellFormed,
    h.row_wellFormed, h.rowSpan_wellFormed, h.col_wellFormed, h.colSpan_wellFormed]

end Component

end PageBuilder
