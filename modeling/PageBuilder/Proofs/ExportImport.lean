import PageBuilder.Proofs.DocumentCodec
import PageBuilder.Proofs.JsonReading
import PageBuilder.Proofs.JsonText

/-! # Export and import again

An imported document that is exported is imported again as the same document, with the same text,
unless its extra fields look like the wrapper of the legacy format. Then what they hold as data is
taken for the document. -/

namespace PageBuilder

/-- A value that comes in as it is has no object with a repeated key; texts and bytes are read. -/
def Incoming.WellFormed : Incoming → Prop
  | .value v => v.WellFormed
  | .text _ | .bytes _ => True

/-- The wrapped document, if the fields report success and hold one as data. -/
def SourceFormat.wrapped? (fs : Fields) : Option Fields :=
  (if (Fields.value fs "success").truthy then Fields.value fs "data" else .null).fields?.filter
    fun payload => Fields.has payload "pages"

theorem SourceFormat.detect_eq (fs : Fields) :
    detect fs =
      match wrapped? fs with
      | some payload => .ok (.legacy, payload)
      | none => if Fields.has fs "pages" then .ok (.flattened, fs) else .error .unknownFormat := rfl

/-- Only what is wrapped is legacy; otherwise the fields are the document. -/
theorem SourceFormat.detect_eq_ok {fs payload : Fields} {format : SourceFormat}
    (h : detect fs = .ok (format, payload)) :
    (format = .legacy ∧ wrapped? fs = some payload) ∨
      (format = .flattened ∧ wrapped? fs = none ∧ payload = fs) := by
  rw [detect_eq] at h
  split at h
  · next inner hwrapped =>
    cases h
    exact .inl ⟨rfl, hwrapped⟩
  · next hnone =>
    split at h
    · cases h
      exact .inr ⟨rfl, hnone, rfl⟩
    · cases h

theorem SourceFormat.wrapped?_wellFormed {fs payload : Fields} (hfs : (Json.obj fs).WellFormed)
    (h : wrapped? fs = some payload) : (Json.obj payload).WellFormed := by
  obtain ⟨hfields, -⟩ := Option.filter_eq_some_iff.mp h
  split at hfields
  · exact (hfs.value "data").fields hfields
  · cases hfields

/-- The document that the extra fields wrap, if they do. -/
def Document.wrapped? (d : Document) : Option Fields :=
  SourceFormat.wrapped? d.extras

section

variable [Json.Limits]

namespace Document

theorem importJson_canonical {raw : Json} (hraw : raw.WellFormed) {i : Imported}
    (h : importJson raw = .ok i) :
    i.document.Canonical ∧ i.initialPageId = i.document.firstPageId := by
  obtain ⟨fs, payload, rfl, hdetect, hread, hinitial⟩ := importJson_eq_ok h
  refine ⟨.of_read ?_ hread, hinitial⟩
  rcases SourceFormat.detect_eq_ok hdetect with ⟨-, hwrapped⟩ | ⟨-, -, rfl⟩
  · exact SourceFormat.wrapped?_wellFormed hraw hwrapped
  · exact hraw

/-- The fields of the format do not touch the wrapper. -/
theorem Canonical.wrapped?_toFields {d : Document} (h : d.Canonical) :
    SourceFormat.wrapped? d.toFields = d.wrapped? := by
  have hvalue (key : String) (hkey : key ∉ keys) :
      Fields.value d.toFields key = Fields.value d.extras key := by
    rw [toFields_eq, Fields.value, h.record.get?_extra hkey]
    rfl
  have hsuccess := hvalue "success" (by decide)
  have hdata := hvalue "data" (by decide)
  rw [wrapped?, SourceFormat.wrapped?, SourceFormat.wrapped?, hsuccess, hdata]

/-- What is exported reads as the value that is written for the document. -/
theorem Canonical.importText_exportText {d : Document} (h : d.Canonical)
    (hfits : d.toJson.fits 0 = true) : importText d.exportText = importJson d.toJson := by
  rw [importText, exportText, Json.parse_prettyText h.toJson_wellFormed hfits]

/-- Without a wrapper the exported text is imported as the document that it was written for. -/
theorem Canonical.importText_of_not_wrapped {d : Document} (h : d.Canonical)
    (hfits : d.toJson.fits 0 = true) (hwrapped : d.wrapped? = none) :
    importText d.exportText = .ok ⟨d, d.firstPageId, .flattened⟩ := by
  have hpages := get?_pages h.extras
  have hdetect : SourceFormat.detect d.toFields = .ok (.flattened, d.toFields) := by
    rw [SourceFormat.detect_eq, h.wrapped?_toFields, hwrapped]
    simp [Fields.has, hpages]
  have hlist : (Fields.value d.toFields "pages").items?.isNone = false := by
    rw [value_pages h.extras]
    rfl
  have hread := h.ofJson_toJson
  rw [toJson] at hread
  rw [h.importText_exportText hfits, toJson, importJson, hdetect]
  simp only [hlist, Bool.false_eq_true, if_false, hread]

/-- With a wrapper what is imported is not the flattened document. -/
theorem Canonical.format_of_wrapped {d : Document} (h : d.Canonical)
    (hfits : d.toJson.fits 0 = true) {payload : Fields} (hwrapped : d.wrapped? = some payload)
    {again : Imported} (hagain : importText d.exportText = .ok again) : again.format = .legacy := by
  rw [h.importText_exportText hfits] at hagain
  obtain ⟨fs, inner, hfs, hdetect, -, -⟩ := importJson_eq_ok hagain
  cases hfs
  rcases SourceFormat.detect_eq_ok hdetect with ⟨hformat, -⟩ | ⟨-, hnone, -⟩
  · exact hformat
  · rw [h.wrapped?_toFields, hwrapped] at hnone
    cases hnone

end Document

theorem Incoming.read_canonical {incoming : Incoming} (hwf : incoming.WellFormed) {i : Imported}
    (h : incoming.read = .ok i) :
    i.document.Canonical ∧ i.initialPageId = i.document.firstPageId := by
  obtain ⟨raw, himport, hraw⟩ := Incoming.read_eq_ok h
  refine Document.importJson_canonical ?_ himport
  rcases hraw with rfl | ⟨s, hparse⟩
  · exact hwf
  · exact Json.parse_wellFormed hparse

/-- The text of an imported document is imported again in the flattened format, as a document that
is written the same way, opens on the same page and has the same text. -/
def Imported.Stable (i : Imported) : Prop :=
  ∃ again, Document.importText i.document.exportText = .ok again ∧ again.format = .flattened ∧
    again.document.toJson = i.document.toJson ∧ again.initialPageId = i.initialPageId ∧
    again.document.exportText = i.document.exportText

/-- Export and import are stable exactly for the documents whose extra fields wrap no other
document, as long as what is exported is within the limits. -/
theorem Incoming.stable_iff_not_wrapped {incoming : Incoming} (hwf : incoming.WellFormed)
    {i : Imported} (h : incoming.read = .ok i) (hfits : i.document.toJson.fits 0 = true) :
    i.Stable ↔ i.document.wrapped? = none := by
  obtain ⟨hcanonical, hinitial⟩ := Incoming.read_canonical hwf h
  constructor
  · rintro ⟨again, hagain, hformat, -⟩
    cases hwrapped : i.document.wrapped? with
    | none => rfl
    | some payload =>
        rw [hcanonical.format_of_wrapped hfits hwrapped hagain] at hformat
        cases hformat
  · intro hwrapped
    exact ⟨_, hcanonical.importText_of_not_wrapped hfits hwrapped, rfl, rfl, hinitial.symm, rfl⟩

end

/-- A legacy document whose payload has the fields of a wrapper itself. -/
def nestedWrapper : Json :=
  .obj [("success", .bool true), ("data", .obj [("success", .bool true),
    ("data", .obj [("pages", .arr [])]), ("pages", .arr [.obj [("id", .str "a")]])])]

theorem nestedWrapper_wellFormed : (Incoming.value nestedWrapper).WellFormed := by
  simp [Incoming.WellFormed, nestedWrapper, Json.wellFormed_obj, Json.wellFormed_arr,
    Fields.DistinctKeys]

/-- A document without extra fields is stable, and the nested wrapper is not. -/
theorem plain_stable_and_nested_not :
    (∃ i, (Incoming.value (.obj [("pages", .arr [])])).read = .ok i ∧ i.Stable) ∧
      ∃ i, (Incoming.value nestedWrapper).read = .ok i ∧ ¬ i.Stable := by
  have hplain : (Incoming.value (.obj [("pages", .arr [])])).WellFormed := by
    simp [Incoming.WellFormed, Json.wellFormed_obj, Json.wellFormed_arr, Fields.DistinctKeys]
  constructor
  · exact ⟨_, rfl, (Incoming.stable_iff_not_wrapped hplain rfl (by decide +kernel)).mpr rfl⟩
  · refine ⟨_, rfl, ?_⟩
    intro hstable
    have hnone := (Incoming.stable_iff_not_wrapped nestedWrapper_wellFormed rfl
      (by decide +kernel)).mp hstable
    exact Option.some_ne_none _ hnone

/-- Not every document that the importer accepts is stable, even where its text is within the
limits. -/
theorem not_all_imported_stable :
    ¬ ∀ (incoming : Incoming) (i : Imported), incoming.WellFormed → incoming.read = .ok i →
      i.document.toJson.fits 0 = true → i.Stable := by
  intro hall
  obtain ⟨i, hread, hfits, payload, hwrapped⟩ : ∃ i, (Incoming.value nestedWrapper).read = .ok i ∧
      i.document.toJson.fits 0 = true ∧ ∃ payload, i.document.wrapped? = some payload :=
    ⟨_, rfl, by decide +kernel, _, rfl⟩
  have hcanonical := (Incoming.read_canonical nestedWrapper_wellFormed hread).1
  obtain ⟨again, hagain, hformat, -⟩ := hall _ i nestedWrapper_wellFormed hread hfits
  rw [hcanonical.format_of_wrapped hfits hwrapped hagain] at hformat
  cases hformat

end PageBuilder
