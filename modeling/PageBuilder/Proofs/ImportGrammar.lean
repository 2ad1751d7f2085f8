import PageBuilder.Document.Grammar
import PageBuilder.Proofs.ExportImport
import PageBuilder.Proofs.Utf8Text

/-! # What is imported

An import succeeds exactly on the values of the grammar, and every other value is reported. The
proof goes through the readers from the components up: each reader succeeds exactly if the fields it
reads are readable, whatever else stands beside them. -/

namespace PageBuilder

/-- A value that counts as null if it is absent. -/
theorem Fields.typed_iff_value {fs : Fields} {key : String} {p : Json → Prop} (hnull : p .null) :
    fs.Typed key p ↔ p (value fs key) := by
  unfold Fields.Typed value
  cases h : get? fs key with
  | none => simpa using hnull
  | some v => simp

/-- The fields of the objects in a list of objects. -/
theorem Json.forall_objectWith_iff {p : Fields → Prop} {raws : List Json} :
    (∀ raw ∈ raws, raw.ObjectWith p) ↔
      ∃ stored : List Fields, raws = stored.map .obj ∧ ∀ fs ∈ stored, p fs := by
  constructor
  · intro h
    induction raws with
    | nil => exact ⟨[], rfl, by simp⟩
    | cons raw rest ih =>
        obtain ⟨⟨fs, rfl, hfs⟩, hrest⟩ := List.forall_mem_cons.mp h
        obtain ⟨stored, rfl, hstored⟩ := ih hrest
        exact ⟨fs :: stored, rfl, List.forall_mem_cons.mpr ⟨hfs, hstored⟩⟩
  · rintro ⟨stored, rfl, hstored⟩ raw hraw
    obtain ⟨fs, hfs, rfl⟩ := List.mem_map.mp hraw
    exact ⟨fs, rfl, hstored fs hfs⟩

/-- Absent components are none. -/
theorem Page.storedComponents?_eq_some_iff {fs : Fields} {stored : List Json} :
    storedComponents? fs = some stored ↔
      (Fields.value fs "components" = .null ∧ stored = []) ∨
        Fields.value fs "components" = .arr stored := by
  unfold storedComponents?
  cases Fields.value fs "components" <;> simp [Json.items?, eq_comm]

theorem Page.itemsAt_components {fs : Fields} {stored : List Json}
    (h : storedComponents? fs = some stored) : (Json.obj fs).itemsAt "components" = stored := by
  rcases storedComponents?_eq_some_iff.mp h with ⟨hnull, rfl⟩ | harr
  · simp [Json.itemsAt, Json.field, Json.fields?, hnull, Json.items?]
  · simp [Json.itemsAt, Json.field, Json.fields?, harr, Json.items?]

namespace Document

theorem readLabels_isOk_iff {v : Json} :
    (∃ labels, readLabels v = .ok labels) ↔ LabelsReadable v := by
  cases v <;> simp [readLabels, LabelsReadable, Json.IsText]

/-- The id of a document is blank only if the first of its sources that counts as yes is. -/
theorem storedId_not_blank_iff {fs : Fields} :
    Text.blank (storedId fs) = false ↔
      ∃ v, [Fields.value fs "id", Fields.value fs "slug", .str defaultId].find? Json.truthy =
        some v ∧ Text.blank v.display = false := by
  have hfind : [Fields.value fs "id", Fields.value fs "slug", .str defaultId].find? Json.truthy =
      some (([Fields.value fs "id", Fields.value fs "slug"].find? Json.truthy).getD
        (.str defaultId)) := by
    have hdefault : (Json.str defaultId).truthy = true := rfl
    cases hid : (Fields.value fs "id").truthy <;> cases hslug : (Fields.value fs "slug").truthy <;>
      simp [hid, hslug, hdefault]
  simp [hfind, storedId]

theorem pageIds_withWelcome_nodup {ps : List Page} :
    ((withWelcome ps).map Page.id).Nodup ↔ (ps.map Page.id).Nodup := by
  cases ps <;> simp [withWelcome]

theorem labels_iff {fs : Fields} :
    (∀ key ∈ ["permissions", "statuses"], fs.Typed key LabelsReadable) ↔
      (∃ labels, readLabels (Fields.value fs "permissions") = .ok labels) ∧
        ∃ labels, readLabels (Fields.value fs "statuses") = .ok labels := by
  have hnull : LabelsReadable .null := .inl rfl
  simp only [List.forall_mem_cons, Fields.typed_iff_value hnull, readLabels_isOk_iff]
  simp

theorem forall_mem_storedComponents {fs : Fields} {raws : List Json}
    (h : Fields.value fs "pages" = .arr raws) {p : Json → Prop} :
    (∀ c ∈ storedComponents (.obj fs), p c) ↔
      ∀ raw ∈ raws, ∀ c ∈ raw.itemsAt "components", p c := by
  have hpages : storedPages (.obj fs) = raws := by
    simp [storedPages, Json.itemsAt, Json.field, Json.fields?, h, Json.items?]
  simp only [storedComponents, hpages, List.mem_flatMap]
  grind

theorem error_of_readLabels {v : Json} {fault : DocumentError} (h : readLabels v = .error fault) :
    fault ≠ .notADocument := by
  cases v <;> cases h <;> simp

theorem error_of_check {d : Document} {fault : DocumentError} (h : d.check = .error fault) :
    fault ≠ .notADocument := by
  unfold check at h
  split at h
  · cases h
    simp
  · split at h
    · cases h
      simp
    · cases h

end Document

/-! ### Where documents stand -/

theorem SourceFormat.wrapped?_eq_some_iff {fs payload : Fields} :
    wrapped? fs = some payload ↔ fs.Wraps payload := by
  unfold wrapped?
  cases hsuccess : (Fields.value fs "success").truthy with
  | false =>
      constructor
      · intro h
        simp [Json.fields?] at h
      · intro h
        simp [h.success] at hsuccess
  | true =>
      rw [Option.filter_eq_some_iff, if_pos rfl, Json.fields?_eq_some_iff]
      constructor
      · rintro ⟨hdata, hpages⟩
        exact ⟨hsuccess, hdata, hpages⟩
      · rintro ⟨-, hdata, hpages⟩
        exact ⟨hdata, hpages⟩

theorem SourceFormat.detect_eq_ok_iff {fs payload : Fields} {format : SourceFormat} :
    detect fs = .ok (format, payload) ↔ Places fs format payload := by
  rw [detect_eq]
  cases hwrapped : wrapped? fs with
  | some inner =>
      have hinner := wrapped?_eq_some_iff.mp hwrapped
      constructor
      · intro h
        cases h
        exact .wrapped hinner
      · intro h
        cases h with
        | wrapped h =>
            rw [wrapped?_eq_some_iff.mpr h] at hwrapped
            cases hwrapped
            rfl
        | plain h => exact absurd hinner (h inner)
  | none =>
      have hplain (payload : Fields) (h : fs.Wraps payload) : False := by
        rw [wrapped?_eq_some_iff.mpr h] at hwrapped
        cases hwrapped
      constructor
      · intro h
        dsimp only at h
        split at h
        · next hpages =>
          cases h
          exact .plain hplain hpages
        · cases h
      · intro h
        cases h with
        | wrapped h => exact (hplain payload h).elim
        | plain _ hpages => simp [hpages]

/-! ### Readers succeed -/

section

variable [Json.Limits]

/-- A component is read from an object with an id whose action is within the limits. -/
theorem Component.ofJson_isOk_iff (place : String) {raw : Json} :
    (∃ c, ofJson place raw = .ok c) ↔ raw.ObjectWith Fields.HasId ∧ ActionFits raw := by
  constructor
  · rintro ⟨c, h⟩
    obtain ⟨fs, id, action, rfl, hid, hblank, haction, -⟩ := ofJson_eq_ok_iff.mp h
    exact ⟨⟨fs, rfl, id, hid, hblank⟩, Action.ofJson?_isOk_iff.mp ⟨action, haction⟩⟩
  · rintro ⟨⟨fs, rfl, id, hid, hblank⟩, hfits⟩
    obtain ⟨action, haction⟩ := Action.ofJson?_isOk_iff.mpr hfits
    exact ⟨_, ofJson_eq_ok_iff.mpr ⟨fs, id, action, rfl, hid, hblank, haction, rfl⟩⟩

namespace Page

theorem readComponents_isOk_iff (place : String) (index : Nat) {raws : List Json} :
    (∃ cs, readComponents place index raws = .ok cs) ↔
      ∀ raw ∈ raws, raw.ObjectWith Fields.HasId ∧ Component.ActionFits raw := by
  induction raws generalizing index with
  | nil => simp [readComponents]
  | cons raw rest ih =>
      rw [List.forall_mem_cons, ← ih (index + 1),
        ← Component.ofJson_isOk_iff (componentPlace place index)]
      simp only [readComponents_cons_eq_ok_iff]
      constructor
      · rintro ⟨_, c, others, hc, hothers, -⟩
        exact ⟨⟨c, hc⟩, others, hothers⟩
      · rintro ⟨⟨c, hc⟩, others, hothers⟩
        exact ⟨_, c, others, hc, hothers, rfl⟩

theorem ofJson_isOk_iff (index : Int) {raw : Json} :
    (∃ p, ofJson index raw = .ok p) ↔
      raw.ObjectWith Page.Readable ∧ ∀ c ∈ raw.itemsAt "components", Component.ActionFits c := by
  constructor
  · rintro ⟨p, h⟩
    obtain ⟨fs, id, stored, cs, rfl, hid, hblank, hstored, hread, -⟩ := ofJson_eq_ok_iff.mp h
    have hcomponents := (readComponents_isOk_iff _ _).mp ⟨cs, hread⟩
    rw [itemsAt_components hstored]
    refine ⟨⟨fs, rfl, ⟨id, hid, hblank⟩, (Fields.typed_iff_value (.inl rfl)).mpr ?_⟩,
      fun c hc => (hcomponents c hc).2⟩
    rcases storedComponents?_eq_some_iff.mp hstored with ⟨hnull, -⟩ | harr
    · exact .inl hnull
    · exact .inr ⟨stored, harr, fun raw hraw => (hcomponents raw hraw).1⟩
  · rintro ⟨⟨fs, rfl, ⟨id, hid, hblank⟩, hcomponents⟩, hfits⟩
    have hstored : ∃ stored, storedComponents? fs = some stored ∧
        ∀ raw ∈ stored, raw.ObjectWith Fields.HasId := by
      rcases (Fields.typed_iff_value (.inl rfl)).mp hcomponents with hnull | ⟨stored, harr, hall⟩
      · exact ⟨[], storedComponents?_eq_some_iff.mpr (.inl ⟨hnull, rfl⟩), by simp⟩
      · exact ⟨stored, storedComponents?_eq_some_iff.mpr (.inr harr), hall⟩
    obtain ⟨stored, hstored, hall⟩ := hstored
    rw [itemsAt_components hstored] at hfits
    obtain ⟨cs, hread⟩ := (readComponents_isOk_iff (place index) 0).mpr
      fun raw hraw => ⟨hall raw hraw, hfits raw hraw⟩
    exact ⟨_, ofJson_eq_ok_iff.mpr ⟨fs, id, stored, cs, rfl, hid, hblank, hstored, hread, rfl⟩⟩

end Page

namespace Document

theorem readPages_isOk_iff (index : Nat) {raws : List Json} :
    (∃ ps, readPages index raws = .ok ps) ↔
      (∀ raw ∈ raws, raw.ObjectWith Page.Readable) ∧
        ∀ raw ∈ raws, ∀ c ∈ raw.itemsAt "components", Component.ActionFits c := by
  rw [← forall₂_and]
  induction raws generalizing index with
  | nil => simp [readPages]
  | cons raw rest ih =>
      rw [List.forall_mem_cons, ← ih (index + 1), ← Page.ofJson_isOk_iff index]
      simp only [readPages_cons_eq_ok_iff]
      constructor
      · rintro ⟨_, p, others, hp, hothers, -⟩
        exact ⟨⟨p, hp⟩, others, hothers⟩
      · rintro ⟨⟨p, hp⟩, others, hothers⟩
        exact ⟨_, p, others, hp, hothers, rfl⟩

/-- The pages that were read have the ids that were stored. -/
theorem readPages_ids {index : Nat} {stored : List Fields} {ps : List Page}
    (h : readPages index (stored.map .obj) = .ok ps) :
    stored.map (Fields.value · "id") = (ps.map Page.id).map .str := by
  induction stored generalizing index ps with
  | nil =>
      cases h
      rfl
  | cons fs rest ih =>
      obtain ⟨p, others, hp, hothers, rfl⟩ := readPages_cons_eq_ok_iff.mp h
      obtain ⟨_, id, _, _, hfs, hid, -, -, -, rfl⟩ := Page.ofJson_eq_ok_iff.mp hp
      cases hfs
      simp only [List.map_cons, ih hothers, hid]
      rfl

/-- A document is read from an object exactly if its fields are readable and no action in it is
beyond the limits. -/
theorem ofJson_isOk_iff {fs : Fields} :
    (∃ d, ofJson (.obj fs) = .ok d) ↔
      Readable fs ∧ ∀ c ∈ storedComponents (.obj fs), Component.ActionFits c := by
  constructor
  · rintro ⟨d, h⟩
    obtain ⟨_, raws, ps, permissions, statuses, hfs, hraws, hpages, hpermissions, hstatuses,
      hcheck⟩ := ofJson_eq_ok_iff.mp h
    cases hfs
    obtain ⟨-, hid, hnodup⟩ := check_eq_ok_iff.mp hcheck
    obtain ⟨hreadable, hfits⟩ := (readPages_isOk_iff 0).mp ⟨ps, hpages⟩
    obtain ⟨stored, rfl, hstored⟩ := Json.forall_objectWith_iff.mp hreadable
    refine ⟨⟨⟨stored, hraws, hstored, ?_⟩, storedId_not_blank_iff.mp hid, ?_⟩, ?_⟩
    · rw [readPages_ids hpages]
      exact (pageIds_withWelcome_nodup.mp hnodup).map fun _ _ => Json.str.inj
    · exact labels_iff.mpr ⟨⟨permissions, hpermissions⟩, ⟨statuses, hstatuses⟩⟩
    · exact (forall_mem_storedComponents hraws).mpr hfits
  · rintro ⟨⟨⟨stored, hraws, hstored, hnodup⟩, hid, hlabels⟩, hfits⟩
    obtain ⟨ps, hpages⟩ := (readPages_isOk_iff 0).mpr
      ⟨Json.forall_objectWith_iff.mpr ⟨stored, rfl, hstored⟩,
        (forall_mem_storedComponents hraws).mp hfits⟩
    obtain ⟨⟨permissions, hpermissions⟩, ⟨statuses, hstatuses⟩⟩ := labels_iff.mp hlabels
    have hcheck := check_eq_ok_iff (d := ofFields fs (withWelcome ps) permissions statuses).mpr
      ⟨rfl, storedId_not_blank_iff.mpr hid, pageIds_withWelcome_nodup.mpr ?_⟩
    · exact ⟨_, ofJson_eq_ok_iff.mpr ⟨fs, _, ps, permissions, statuses, rfl, hraws, hpages,
        hpermissions, hstatuses, hcheck⟩⟩
    · rw [readPages_ids hpages] at hnodup
      exact hnodup.of_map

/-- Without limits a value is imported exactly if it is in the grammar. -/
theorem importJson_isOk_iff (hjson : Json.Unlimited) {raw : Json} :
    (∃ i, importJson raw = .ok i) ↔ Importable raw := by
  constructor
  · rintro ⟨i, h⟩
    obtain ⟨fs, payload, rfl, hdetect, hread, -⟩ := importJson_eq_ok h
    exact ⟨fs, rfl, i.format, payload, SourceFormat.detect_eq_ok_iff.mp hdetect,
      (ofJson_isOk_iff.mp ⟨i.document, hread⟩).1⟩
  · rintro ⟨fs, rfl, format, payload, hplaces, hreadable⟩
    obtain ⟨d, hread⟩ := ofJson_isOk_iff.mpr
      ⟨hreadable, fun c _ s _ => Action.decodeText?_ne hjson s⟩
    obtain ⟨stored, hstored, -⟩ := hreadable.pages
    refine ⟨⟨d, d.firstPageId, format⟩, ?_⟩
    simp [importJson, SourceFormat.detect_eq_ok_iff.mpr hplaces, hstored, hread, Json.items?]

end Document

/-! ### What is reported

Without limits every reading that ends without a value ends for a fault, and no reader that works on
the fields of a document finds that the document is no object. -/

theorem Component.halt_of_ofJson (hjson : Json.Unlimited) {place : String} {raw : Json}
    {halt : Json.Halt DocumentError} (h : ofJson place raw = .error halt) :
    ∃ fault, halt = .fault fault ∧ fault ≠ .notADocument := by
  unfold ofJson at h
  split at h
  · split at h
    · cases h
      simp
    · split at h
      · next limit haction =>
        obtain ⟨action, hread⟩ :=
          Action.ofJson?_isOk_iff.mpr fun s _ => Action.decodeText?_ne hjson s
        rw [hread] at haction
        cases haction
      · cases h
  · cases h
    simp

theorem Page.halt_of_readComponents (hjson : Json.Unlimited) {place : String} {index : Nat}
    {raws : List Json} {halt : Json.Halt DocumentError}
    (h : readComponents place index raws = .error halt) :
    ∃ fault, halt = .fault fault ∧ fault ≠ .notADocument := by
  induction raws generalizing index with
  | nil => cases h
  | cons raw rest ih =>
      simp only [readComponents] at h
      split at h
      · next hraw =>
        cases h
        exact Component.halt_of_ofJson hjson hraw
      · split at h
        · next hrest =>
          cases h
          exact ih hrest
        · cases h

theorem Page.halt_of_ofJson (hjson : Json.Unlimited) {index : Int} {raw : Json}
    {halt : Json.Halt DocumentError} (h : ofJson index raw = .error halt) :
    ∃ fault, halt = .fault fault ∧ fault ≠ .notADocument := by
  unfold ofJson at h
  split at h
  · split at h
    · cases h
      simp
    · split at h
      · cases h
        simp
      · split at h
        · next hread =>
          cases h
          exact halt_of_readComponents hjson hread
        · cases h
  · cases h
    simp

namespace Document

theorem halt_of_readPages (hjson : Json.Unlimited) {index : Nat} {raws : List Json}
    {halt : Json.Halt DocumentError} (h : readPages index raws = .error halt) :
    ∃ fault, halt = .fault fault ∧ fault ≠ .notADocument := by
  induction raws generalizing index with
  | nil => cases h
  | cons raw rest ih =>
      simp only [readPages] at h
      split at h
      · next hraw =>
        cases h
        exact Page.halt_of_ofJson hjson hraw
      · split at h
        · next hrest =>
          cases h
          exact ih hrest
        · cases h

theorem halt_of_ofJson (hjson : Json.Unlimited) {fs : Fields} {halt : Json.Halt DocumentError}
    (h : ofJson (.obj fs) = .error halt) :
    ∃ fault, halt = .fault fault ∧ fault ≠ .notADocument := by
  simp only [ofJson] at h
  split at h
  · cases h
    simp
  · split at h
    · next hpages =>
      cases h
      exact halt_of_readPages hjson hpages
    · split at h
      · next fault hlabels =>
        cases h
        exact ⟨fault, rfl, error_of_readLabels hlabels⟩
      · split at h
        · next fault hlabels =>
          cases h
          exact ⟨fault, rfl, error_of_readLabels hlabels⟩
        · obtain ⟨fault, hcheck, rfl⟩ := Except.mapError_eq_error_iff.mp h
          exact ⟨fault, rfl, error_of_check hcheck⟩

theorem halt_of_importJson (hjson : Json.Unlimited) {raw : Json} {halt : Json.Halt ImportError}
    (h : importJson raw = .error halt) : ∃ error, halt = .fault error ∧ error.Reported := by
  unfold importJson at h
  split at h
  · next fs =>
    split at h
    · next error hdetect =>
      cases h
      rw [SourceFormat.detect_eq] at hdetect
      split at hdetect
      · cases hdetect
      · split at hdetect <;> cases hdetect
        exact ⟨_, rfl, trivial⟩
    · split at h
      · cases h
        exact ⟨_, rfl, trivial⟩
      · split at h
        · next hread =>
          cases h
          obtain ⟨fault, rfl, hfault⟩ := halt_of_ofJson hjson hread
          exact ⟨_, rfl, hfault⟩
        · cases h
  · cases h
    exact ⟨_, rfl, trivial⟩

end Document

namespace Incoming

theorem read_text_of_parse {s : String} {raw : Json} (h : Json.parse s = .ok raw) :
    (text s).read = (value raw).read := by
  simp only [read, Document.importText, h]

theorem read_text_of_fault {s : String} {fault : Json.Fault}
    (h : Json.parse s = .error (.fault fault)) :
    (text s).read = .error (.fault (.notJson fault)) := by
  simp only [read, Document.importText, h]
  rfl

/-- Bytes are read as the text that they encode. -/
theorem read_bytes_encode (s : String) : (bytes (Text.Utf8.encode s)).read = (text s).read := by
  have hdecode := Text.Utf8.decode_eq_ok_iff.mpr (rfl : Text.Utf8.encode s = Text.Utf8.encode s)
  simp only [read, Document.importBytes, hdecode]

/-- Bytes that encode no text are reported. -/
theorem read_bytes_of_no_text {bs : List UInt8} (h : ∀ s, bs ≠ Text.Utf8.encode s) :
    ∃ fault, (bytes bs).read = .error (.fault (.notUtf8 fault)) := by
  cases hdecode : Text.Utf8.decode bs with
  | error fault => exact ⟨fault, by simp only [read, Document.importBytes, hdecode]⟩
  | ok s => exact absurd (Text.Utf8.decode_eq_ok_iff.mp hdecode) (h s)

theorem halt_of_read (hjson : Json.Unlimited) {incoming : Incoming}
    {halt : Json.Halt ImportError} (h : incoming.read = .error halt) :
    ∃ error, halt = .fault error ∧ error.Reported := by
  have htext (s : String) (h : (text s).read = .error halt) :
      ∃ error, halt = .fault error ∧ error.Reported := by
    cases hparse : Json.parse s with
    | error stop =>
        cases stop with
        | fault fault =>
            rw [read_text_of_fault hparse] at h
            cases h
            exact ⟨_, rfl, trivial⟩
        | overrun limit => exact absurd hparse (hjson.parseChars_ne _ limit)
    | ok raw =>
        rw [read_text_of_parse hparse] at h
        exact Document.halt_of_importJson hjson h
  cases incoming with
  | value raw => exact Document.halt_of_importJson hjson h
  | text s => exact htext s h
  | bytes bs =>
      by_cases hencoded : ∃ s, bs = Text.Utf8.encode s
      · obtain ⟨s, rfl⟩ := hencoded
        rw [read_bytes_encode] at h
        exact htext s h
      · obtain ⟨fault, hfault⟩ := read_bytes_of_no_text fun s hs => hencoded ⟨s, hs⟩
        rw [hfault] at h
        cases h
        exact ⟨_, rfl, trivial⟩

/-- A reader without limits imports a value exactly if it is in the grammar, a text as the value
that it spells and bytes as the text that they encode; whatever is not imported is reported. -/
theorem read_exact (hjson : Json.Unlimited) :
    (∀ raw, (∃ i, (value raw).read = .ok i) ↔ Document.Importable raw) ∧
      (∀ s raw, Json.parse s = .ok raw → (text s).read = (value raw).read) ∧
      (∀ s fault, Json.parse s = .error (.fault fault) →
        (text s).read = .error (.fault (.notJson fault))) ∧
      (∀ s, (bytes (Text.Utf8.encode s)).read = (text s).read) ∧
      (∀ bs, (∀ s, bs ≠ Text.Utf8.encode s) →
        ∃ fault, (bytes bs).read = .error (.fault (.notUtf8 fault))) ∧
      ∀ incoming halt, read incoming = .error halt →
        ∃ error, halt = .fault error ∧ error.Reported := by
  refine ⟨?_, ?_, ?_, ?_, ?_, ?_⟩
  · intro raw
    exact Document.importJson_isOk_iff hjson
  · intro s raw h
    exact read_text_of_parse h
  · intro s fault h
    exact read_text_of_fault h
  · exact read_bytes_encode
  · intro bs h
    exact read_bytes_of_no_text h
  · intro incoming halt h
    exact halt_of_read hjson h

end Incoming

end

namespace Incoming

/-- A wrapped document whose id is its slug, a list, and whose page has an id that is not ASCII. -/
def wrappedShop : Json :=
  .obj [("success", .int 1), ("data", .obj [("id", .str ""), ("slug", .arr [.int 0]),
    ("pages", .arr [.obj [("id", .str "\u00E9"), ("components", .null)]])])]

/-- The bytes of the text of a wrapped document are imported, a short form that UTF-8 forbids is
reported, and so are a text that is no value and a page without an id. -/
theorem wrapped_shop_imported :
    letI := Json.Limits.unlimited
    Json.Unlimited ∧ (∃ i, (bytes (Text.Utf8.encode wrappedShop.prettyText)).read = .ok i) ∧
      (∃ fault, (bytes [0xC0, 0x80]).read = .error (.fault (.notUtf8 fault))) ∧
      (text "").read = .error (.fault (.notJson .expectingValue)) ∧
      ¬ ∃ i, (value (.obj [("pages", .arr [.obj []])])).read = .ok i := by
  let : Json.Limits := .unlimited
  have hjson : Json.Unlimited := ⟨rfl, rfl⟩
  obtain ⟨hvalue, htext, hfault, hbytes, hnone, -⟩ := read_exact hjson
  refine ⟨hjson, ?_, ?_, ?_, ?_⟩
  · have hparse : Json.parse wrappedShop.prettyText = .ok wrappedShop := by
      refine Json.parse_prettyText ?_ (hjson.fits 0 wrappedShop)
      simp [wrappedShop, Json.wellFormed_obj, Json.wellFormed_arr, Fields.DistinctKeys]
    rw [hbytes, htext _ _ hparse, hvalue]
    have hpage : Page.Readable [("id", .str "\u00E9"), ("components", .null)] :=
      ⟨⟨"\u00E9", rfl, by decide⟩, (Fields.typed_iff_value (.inl rfl)).mpr (.inl rfl)⟩
    refine ⟨_, rfl, .legacy, _, .wrapped ⟨rfl, rfl, rfl⟩, ?_⟩
    exact {
      pages := ⟨[_], rfl, by simpa using hpage, by simp⟩
      id := ⟨.arr [.int 0], rfl, by decide +kernel⟩
      labels := by simp [Fields.Typed, Fields.get?_cons] }
  · apply hnone
    intro s hs
    have hdecode := Text.Utf8.decode_eq_ok_iff.mpr hs
    cases hdecode
  · exact hfault _ _ rfl
  · rw [hvalue]
    rintro ⟨fs, hfs, format, payload, hplaces, hreadable⟩
    cases hfs
    cases hplaces with
    | wrapped h => cases h.success
    | plain =>
        obtain ⟨stored, hstored, hpages, -⟩ := hreadable.pages
        cases stored with
        | nil => cases hstored
        | cons p rest =>
            obtain ⟨hp, -⟩ : p = [] ∧ rest = [] := by
              simpa [Fields.value, Fields.get?_cons] using hstored.symm
            obtain ⟨id, hid, -⟩ := (hpages p List.mem_cons_self).id
            rw [hp] at hid
            cases hid

end Incoming

end PageBuilder
