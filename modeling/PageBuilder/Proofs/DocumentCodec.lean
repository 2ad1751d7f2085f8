import PageBuilder.Proofs.ComponentCodec
import PageBuilder.Proofs.EditValidity

/-! # Documents are written back

Pages and documents that were read are written as values that read as the same page and the same
document. `Page.Canonical` and `Document.Canonical` say what they keep. -/

namespace PageBuilder

namespace Page

def slots (p : Page) : List (String × Option Json) :=
  [("id", some (.str p.id)), ("order", some (.int p.order)), ("title", some (.str p.title)),
    ("components", some (.arr (p.components.map Component.toJson)))]

theorem toFields_eq (p : Page) :
    p.toFields = Fields.merge (Fields.present p.slots) p.extras := rfl

theorem record {p : Page} (h : Fields.Extras keys p.extras) :
    Fields.Record keys p.slots p.extras :=
  ⟨rfl, by decide, h⟩

theorem value_id {p : Page} (h : Fields.Extras keys p.extras) :
    Fields.value p.toFields "id" = .str p.id :=
  (record h).value (i := 0) rfl

theorem value_components {p : Page} (h : Fields.Extras keys p.extras) :
    Fields.value p.toFields "components" = .arr (p.components.map Component.toJson) :=
  (record h).value (i := 3) rfl

variable [Json.Limits]

theorem readComponents_map {place : String} {index : Nat} {cs : List Component}
    (h : ∀ c ∈ cs, c.Canonical) :
    readComponents place index (cs.map Component.toJson) = .ok cs := by
  induction cs generalizing index with
  | nil => rfl
  | cons c cs ih =>
      have hfirst := (h c List.mem_cons_self).ofJson_toJson (componentPlace place index)
      have hrest : readComponents place (index + 1) (cs.map Component.toJson) = .ok cs :=
        ih fun c' hc' => h c' (List.mem_cons_of_mem c hc')
      simp only [List.map_cons, readComponents, hfirst, hrest]

/-- What a page that was read keeps. -/
structure Canonical (p : Page) : Prop where
  id_not_blank : Text.blank p.id = false
  components : ∀ c ∈ p.components, c.Canonical
  extras : Fields.Extras keys p.extras

theorem welcome_canonical : welcome.Canonical where
  id_not_blank := by decide
  components := by simp [welcome]
  extras := ⟨Json.wellFormed_obj_nil, by simp [welcome]⟩

theorem Canonical.of_read {index : Int} {raw : Json} {p : Page} (hraw : raw.WellFormed)
    (h : ofJson index raw = .ok p) : p.Canonical := by
  obtain ⟨fs, id, stored, components, rfl, -, hid, hstored, hread, rfl⟩ := ofJson_eq_ok_iff.mp h
  have hstoredwf : ∀ v ∈ stored, v.WellFormed := by
    unfold storedComponents? at hstored
    split at hstored
    · cases hstored
      simp
    · have hvalue := hraw.value "components"
      rw [Json.items?_eq_some_iff.mp hstored] at hvalue
      exact Json.wellFormed_arr.mp hvalue
  constructor
  · exact hid
  · intro c hc
    obtain ⟨place, raw, hmem, hc⟩ := mem_readComponents hread hc
    obtain ⟨gs, id', action, rfl, -, hid', haction, rfl⟩ := Component.ofJson_eq_ok_iff.mp hc
    exact Component.ofFields_canonical hid' (hstoredwf _ hmem) haction
  · exact .without hraw keys

theorem Canonical.record {p : Page} (h : p.Canonical) : Fields.Record keys p.slots p.extras :=
  Page.record h.extras

theorem Canonical.ofJson_toJson {p : Page} (h : p.Canonical) (index : Int) :
    ofJson index p.toJson = .ok p := by
  have hrecord := h.record
  have hid : Fields.value p.toFields "id" = .str p.id := value_id h.extras
  have horder : Fields.value p.toFields "order" = .int p.order := hrecord.value (i := 1) rfl
  have htitle : Fields.value p.toFields "title" = .str p.title := hrecord.value (i := 2) rfl
  have hcomponents : Fields.value p.toFields "components" =
      .arr (p.components.map Component.toJson) := value_components h.extras
  have hextras : Fields.without p.toFields keys = p.extras := hrecord.without_keys
  have hstored : storedComponents? p.toFields = some (p.components.map Component.toJson) := by
    rw [storedComponents?, hcomponents]
    rfl
  refine ofJson_eq_ok_iff.mpr ⟨p.toFields, p.id, _, p.components, rfl, hid, h.id_not_blank, hstored,
    readComponents_map h.components, ?_⟩
  simp only [ofFields, storedOrder, horder, htitle, hextras]
  rfl

theorem Canonical.toJson_wellFormed {p : Page} (h : p.Canonical) : p.toJson.WellFormed := by
  rw [toJson, toFields_eq]
  refine h.record.wellFormed ?_
  simpa [slots, Json.wellFormed_arr] using fun c hc => (h.components c hc).toJson_wellFormed

end Page

namespace Document

/-- The value under `permissions` or `statuses`, if it is written. -/
def labels (ls : Option (List String)) : Option Json :=
  ls.map fun ls => .arr (ls.map Json.str)

theorem labelField_eq (key : String) (ls : Option (List String)) :
    labelField key ls = Fields.present [(key, labels ls)] := by
  cases ls <;> rfl

theorem readLabels_labels (ls : Option (List String)) :
    readLabels ((labels ls).getD .null) = .ok ls := by
  cases ls with
  | none => rfl
  | some ls => simp [labels, readLabels, Function.comp_def]

def slots (d : Document) : List (String × Option Json) :=
  [("id", some (.str d.id)), ("version", some (.str d.version)), ("name", some (.str d.name)),
    ("description", some (.str d.description)), ("slug", some (.str d.slug)),
    ("is_public", some (.bool d.isPublic)), ("is_published", some (.bool d.isPublished)),
    ("published_at", some (d.publishedAt.elim .null .str)),
    ("navigation", some (.obj d.navigation.toFields)),
    ("pages", some (.arr (d.pages.map Page.toJson))),
    ("metadata", some (.obj d.metadata.toFields)), ("created_at", d.createdAt.map .str),
    ("updated_at", d.updatedAt.map .str), ("payment", d.payment.unlessNull),
    ("permissions", labels d.permissions), ("statuses", labels d.statuses)]

theorem toFields_eq (d : Document) :
    d.toFields = Fields.merge (Fields.present d.slots) d.extras := by
  have hslots : d.slots = d.slots.take 11 ++ [("created_at", d.createdAt.map .str)] ++
      [("updated_at", d.updatedAt.map .str)] ++ [("payment", d.payment.unlessNull)] ++
      [("permissions", labels d.permissions)] ++ [("statuses", labels d.statuses)] := rfl
  rw [hslots]
  simp only [Fields.present_append, ← textField_eq, ← unlessNull_field, ← labelField_eq]
  rfl

theorem record {d : Document} (h : Fields.Extras keys d.extras) :
    Fields.Record keys d.slots d.extras :=
  ⟨rfl, by decide, h⟩

theorem value_id {d : Document} (h : Fields.Extras keys d.extras) :
    Fields.value d.toFields "id" = .str d.id := by
  rw [toFields_eq]
  exact (record h).value (i := 0) rfl

theorem get?_pages {d : Document} (h : Fields.Extras keys d.extras) :
    Fields.get? d.toFields "pages" = some (.arr (d.pages.map Page.toJson)) := by
  rw [toFields_eq]
  exact (record h).get? (i := 9) rfl

theorem value_pages {d : Document} (h : Fields.Extras keys d.extras) :
    Fields.value d.toFields "pages" = .arr (d.pages.map Page.toJson) := by
  rw [Fields.value, get?_pages h, Option.getD_some]

theorem readLabels_permissions {d : Document} (h : Fields.Extras keys d.extras) :
    readLabels (Fields.value d.toFields "permissions") = .ok d.permissions := by
  rw [toFields_eq, (record h).value (i := 14) rfl]
  exact readLabels_labels d.permissions

theorem readLabels_statuses {d : Document} (h : Fields.Extras keys d.extras) :
    readLabels (Fields.value d.toFields "statuses") = .ok d.statuses := by
  rw [toFields_eq, (record h).value (i := 15) rfl]
  exact readLabels_labels d.statuses

theorem displayUnlessNull?_elim (s : Option String) :
    (s.elim Json.null Json.str).displayUnlessNull? = s := by
  cases s <;> rfl

variable [Json.Limits]

theorem readPages_map {index : Nat} {ps : List Page} (h : ∀ p ∈ ps, p.Canonical) :
    readPages index (ps.map Page.toJson) = .ok ps := by
  induction ps generalizing index with
  | nil => rfl
  | cons p ps ih =>
      have hfirst := (h p List.mem_cons_self).ofJson_toJson index
      have hrest : readPages (index + 1) (ps.map Page.toJson) = .ok ps :=
        ih fun p' hp' => h p' (List.mem_cons_of_mem p hp')
      simp only [List.map_cons, readPages, hfirst, hrest]

/-- What a document that was read keeps. -/
structure Canonical (d : Document) : Prop where
  id_not_blank : Text.blank d.id = false
  pages_ne_nil : d.pages ≠ []
  pages : ∀ p ∈ d.pages, p.Canonical
  navigation : Fields.Extras Navigation.keys d.navigation.extras
  revision_wellFormed : d.metadata.revision.WellFormed
  metadata : Fields.Extras Metadata.keys d.metadata.extras
  payment_wellFormed : d.payment.WellFormed
  extras : Fields.Extras keys d.extras
  checked : d.check = .ok d

theorem withWelcome_canonical {ps : List Page} (h : ∀ p ∈ ps, p.Canonical) :
    ∀ p ∈ withWelcome ps, p.Canonical := by
  unfold withWelcome
  split
  · intro p hp
    rw [List.mem_singleton.mp hp]
    exact Page.welcome_canonical
  · exact h

theorem Canonical.of_read {raw : Json} {d : Document} (hraw : raw.WellFormed)
    (h : ofJson raw = .ok d) : d.Canonical := by
  obtain ⟨fs, stored, pages, permissions, statuses, rfl, hstored, hpages, -, -, hcheck⟩ :=
    ofJson_eq_ok_iff.mp h
  obtain ⟨rfl, hid, -⟩ := check_eq_ok_iff.mp hcheck
  have hstoredwf : ∀ v ∈ stored, v.WellFormed := by
    have hvalue := hraw.value "pages"
    rw [hstored] at hvalue
    exact Json.wellFormed_arr.mp hvalue
  have hcanonical : ∀ p ∈ pages, p.Canonical := by
    intro p hp
    obtain ⟨index, raw, hmem, hread⟩ := mem_readPages hpages hp
    exact .of_read (hstoredwf raw hmem) hread
  exact {
    id_not_blank := hid
    pages_ne_nil := withWelcome_ne_nil pages
    pages := withWelcome_canonical hcanonical
    navigation := Navigation.ofJson_extras (hraw.value "navigation")
    revision_wellFormed := (hraw.value "metadata").fieldsOrNone.value "revision"
    metadata := Metadata.ofJson_extras (hraw.value "metadata")
    payment_wellFormed := hraw.value "payment"
    extras := .without hraw keys
    checked := hcheck }

theorem Canonical.record {d : Document} (h : d.Canonical) :
    Fields.Record keys d.slots d.extras :=
  Document.record h.extras

theorem Canonical.storedId_toFields {d : Document} (h : d.Canonical) :
    storedId d.toFields = d.id := by
  have htruthy : (Json.str d.id).truthy := Json.truthy_str_of_not_blank h.id_not_blank
  rw [storedId, value_id h.extras, List.find?_cons_of_pos htruthy]
  rfl

theorem Canonical.ofFields_toFields {d : Document} (h : d.Canonical) :
    ofFields d.toFields d.pages d.permissions d.statuses = d := by
  have hrecord := h.record
  have hid := h.storedId_toFields
  have hnavigation : Navigation.ofJson (.obj d.navigation.toFields) = d.navigation :=
    Navigation.ofJson_toFields h.navigation
  have hmetadata : Metadata.ofJson (.obj d.metadata.toFields) = d.metadata :=
    Metadata.ofJson_toFields h.metadata
  rw [toFields_eq] at hid ⊢
  simp only [ofFields, hid, hrecord.value (i := 1) rfl, hrecord.value (i := 2) rfl,
    hrecord.value (i := 3) rfl, hrecord.value (i := 4) rfl, hrecord.value (i := 5) rfl,
    hrecord.value (i := 6) rfl, hrecord.value (i := 7) rfl, hrecord.value (i := 8) rfl,
    hrecord.value (i := 10) rfl, hrecord.value (i := 11) rfl, hrecord.value (i := 12) rfl,
    hrecord.value (i := 13) rfl, Option.getD_some, elim_null_map_str, displayUnlessNull?_elim,
    Json.getD_unlessNull, hnavigation, hmetadata, hrecord.without_keys]
  rfl

/-- What a document that was read is written as reads as that document. -/
theorem Canonical.ofJson_toJson {d : Document} (h : d.Canonical) : ofJson d.toJson = .ok d := by
  have hwelcome : withWelcome d.pages = d.pages := by
    rw [withWelcome, List.isEmpty_eq_false_iff.mpr h.pages_ne_nil]
    rfl
  refine ofJson_eq_ok_iff.mpr ⟨d.toFields, _, d.pages, d.permissions, d.statuses, rfl,
    value_pages h.extras, readPages_map h.pages, readLabels_permissions h.extras,
    readLabels_statuses h.extras, ?_⟩
  rw [hwelcome, h.ofFields_toFields]
  exact h.checked

theorem Canonical.toJson_wellFormed {d : Document} (h : d.Canonical) : d.toJson.WellFormed := by
  have hpublished : (d.publishedAt.elim Json.null Json.str).WellFormed := by
    cases d.publishedAt <;> trivial
  have hpages : ∀ p ∈ d.pages, p.toJson.WellFormed := fun p hp => (h.pages p hp).toJson_wellFormed
  rw [toJson, toFields_eq]
  refine h.record.wellFormed ?_
  simpa [slots, labels, Json.wellFormed_arr, hpublished, h.payment_wellFormed,
    Navigation.toFields_wellFormed h.navigation,
    Metadata.toFields_wellFormed h.revision_wellFormed h.metadata] using hpages

end Document

end PageBuilder
