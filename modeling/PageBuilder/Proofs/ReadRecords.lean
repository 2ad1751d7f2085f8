import PageBuilder.Document.Import
import PageBuilder.Proofs.JsonReading

/-!
# What a reading that succeeds says

For each record of a document: which value was read, and how the record was made from its fields.
-/

namespace PageBuilder

theorem identifier?_eq_some_iff {v : Json} {s : String} :
    identifier? v = some s ↔ v = .str s ∧ Text.blank s = false := by
  cases v <;> simp [identifier?]
  constructor
  · rintro ⟨h, rfl⟩
    exact ⟨rfl, h⟩
  · rintro ⟨rfl, h⟩
    exact ⟨h, rfl⟩

namespace Json

@[simp] theorem fields?_eq_some_iff {v : Json} {fs : Fields} :
    v.fields? = some fs ↔ v = .obj fs := by
  cases v <;> simp [fields?]

@[simp] theorem items?_eq_some_iff {v : Json} {xs : List Json} :
    v.items? = some xs ↔ v = .arr xs := by
  cases v <;> simp [items?]

theorem truthy_str_of_not_blank {s : String} (h : Text.blank s = false) : (str s).truthy :=
  bne_iff_ne.mpr (Text.ne_empty_of_not_blank h)

end Json

variable [Json.Limits]

theorem Component.ofJson_eq_ok_iff {place : String} {raw : Json} {c : Component} :
    Component.ofJson place raw = .ok c ↔
      ∃ fs id action, raw = .obj fs ∧ Fields.value fs "id" = .str id ∧ Text.blank id = false ∧
        Action.ofJson? (Fields.value fs "action") = .ok action ∧ c = .ofFields id action fs := by
  constructor
  · intro h
    unfold ofJson at h
    split at h
    · next fs =>
      split at h
      · cases h
      · next id hid =>
        split at h
        · cases h
        · next action haction =>
          cases h
          obtain ⟨hstr, hblank⟩ := identifier?_eq_some_iff.mp hid
          exact ⟨fs, id, action, rfl, hstr, hblank, haction, rfl⟩
    · cases h
  · rintro ⟨fs, id, action, rfl, hstr, hblank, haction, rfl⟩
    have hid := identifier?_eq_some_iff.mpr ⟨hstr, hblank⟩
    simp only [ofJson, hid, haction]

namespace Page

theorem readComponents_cons_eq_ok_iff {place : String} {index : Nat} {raw : Json}
    {rest : List Json} {cs : List Component} :
    readComponents place index (raw :: rest) = .ok cs ↔
      ∃ c others, Component.ofJson (componentPlace place index) raw = .ok c ∧
        readComponents place (index + 1) rest = .ok others ∧ cs = c :: others := by
  simp only [readComponents]
  cases Component.ofJson (componentPlace place index) raw with
  | error e => simp
  | ok c => cases readComponents place (index + 1) rest <;> simp [eq_comm]

theorem mem_readComponents {place : String} {index : Nat} {raws : List Json}
    {cs : List Component} (h : readComponents place index raws = .ok cs) {c : Component}
    (hc : c ∈ cs) : ∃ place', ∃ raw ∈ raws, Component.ofJson place' raw = .ok c := by
  induction raws generalizing index cs with
  | nil => cases h; cases hc
  | cons raw rest ih =>
      obtain ⟨first, others, hfirst, hothers, rfl⟩ := readComponents_cons_eq_ok_iff.mp h
      rcases List.mem_cons.mp hc with rfl | hc
      · exact ⟨_, raw, List.mem_cons_self, hfirst⟩
      · obtain ⟨place', raw', hraw, hread⟩ := ih hothers hc
        exact ⟨place', raw', List.mem_cons_of_mem raw hraw, hread⟩

/-- The page number `index` that the fields describe, beside its id and its components. -/
def ofFields (index : Int) (id : String) (components : List Component) (fs : Fields) : Page where
  id := id
  order := storedOrder index fs
  title := (Fields.value fs "title").displayOrEmpty
  components := components
  extras := Fields.without fs keys

theorem ofJson_eq_ok_iff {index : Int} {raw : Json} {p : Page} :
    Page.ofJson index raw = .ok p ↔
      ∃ fs id stored components, raw = .obj fs ∧ Fields.value fs "id" = .str id ∧
        Text.blank id = false ∧ storedComponents? fs = some stored ∧
        readComponents (place index) 0 stored = .ok components ∧
        p = ofFields index id components fs := by
  constructor
  · intro h
    unfold ofJson at h
    split at h
    · next fs =>
      split at h
      · cases h
      · next id hid =>
        split at h
        · cases h
        · next stored hstored =>
          split at h
          · cases h
          · next components hread =>
            cases h
            obtain ⟨hstr, hblank⟩ := identifier?_eq_some_iff.mp hid
            exact ⟨fs, id, stored, components, rfl, hstr, hblank, hstored, hread, rfl⟩
    · cases h
  · rintro ⟨fs, id, stored, components, rfl, hstr, hblank, hstored, hread, rfl⟩
    have hid := identifier?_eq_some_iff.mpr ⟨hstr, hblank⟩
    simp [ofJson, hid, hstored, hread, ofFields]

end Page

namespace Document

theorem readPages_cons_eq_ok_iff {index : Nat} {raw : Json} {rest : List Json} {ps : List Page} :
    readPages index (raw :: rest) = .ok ps ↔
      ∃ p others, Page.ofJson index raw = .ok p ∧ readPages (index + 1) rest = .ok others ∧
        ps = p :: others := by
  simp only [readPages]
  cases Page.ofJson index raw with
  | error e => simp
  | ok p => cases readPages (index + 1) rest <;> simp [eq_comm]

theorem mem_readPages {index : Nat} {raws : List Json} {ps : List Page}
    (h : readPages index raws = .ok ps) {p : Page} (hp : p ∈ ps) :
    ∃ index' : Nat, ∃ raw ∈ raws, Page.ofJson index' raw = .ok p := by
  induction raws generalizing index ps with
  | nil => cases h; cases hp
  | cons raw rest ih =>
      obtain ⟨first, others, hfirst, hothers, rfl⟩ := readPages_cons_eq_ok_iff.mp h
      rcases List.mem_cons.mp hp with rfl | hp
      · exact ⟨index, raw, List.mem_cons_self, hfirst⟩
      · obtain ⟨index', raw', hraw, hread⟩ := ih hothers hp
        exact ⟨index', raw', List.mem_cons_of_mem raw hraw, hread⟩

theorem ofJson_eq_ok_iff {raw : Json} {d : Document} :
    ofJson raw = .ok d ↔
      ∃ fs stored pages permissions statuses, raw = .obj fs ∧
        Fields.value fs "pages" = .arr stored ∧ readPages 0 stored = .ok pages ∧
        readLabels (Fields.value fs "permissions") = .ok permissions ∧
        readLabels (Fields.value fs "statuses") = .ok statuses ∧
        check (ofFields fs (withWelcome pages) permissions statuses) = .ok d := by
  constructor
  · intro h
    unfold ofJson at h
    split at h
    · next fs =>
      split at h
      · cases h
      · next stored hstored =>
        split at h
        · cases h
        · next pages hpages =>
          split at h
          · cases h
          · next permissions hpermissions =>
            split at h
            · cases h
            · next statuses hstatuses =>
              exact ⟨fs, stored, pages, permissions, statuses, rfl,
                Json.items?_eq_some_iff.mp hstored, hpages, hpermissions, hstatuses,
                Except.mapError_eq_ok_iff.mp h⟩
    · cases h
  · rintro ⟨fs, stored, pages, permissions, statuses, rfl, hstored, hpages, hpermissions,
      hstatuses, hcheck⟩
    simp [ofJson, hstored, Json.items?, hpages, hpermissions, hstatuses, hcheck, Except.mapError]

/-- What is imported is a document that was read, opened on its first page. -/
theorem importJson_eq_ok {raw : Json} {i : Imported} (h : importJson raw = .ok i) :
    ∃ fs payload, raw = .obj fs ∧ SourceFormat.detect fs = .ok (i.format, payload) ∧
      ofJson (.obj payload) = .ok i.document ∧ i.initialPageId = i.document.firstPageId := by
  unfold importJson at h
  split at h
  · next fs =>
    split at h
    · cases h
    · next format payload hdetect =>
      split at h
      · cases h
      · split at h
        · cases h
        · next d hd =>
          cases h
          exact ⟨fs, payload, rfl, hdetect, hd, rfl⟩
  · cases h

end Document

/-- What came in was read as a value that is then imported. -/
theorem Incoming.read_eq_ok {incoming : Incoming} {i : Imported} (h : incoming.read = .ok i) :
    ∃ raw, Document.importJson raw = .ok i ∧
      (incoming = .value raw ∨ ∃ s, Json.parse s = .ok raw) := by
  cases incoming with
  | value v => exact ⟨v, h, .inl rfl⟩
  | text s =>
      simp only [Incoming.read, Document.importText] at h
      split at h
      · cases h
      · next v hv => exact ⟨v, h, .inr ⟨s, hv⟩⟩
  | bytes bs =>
      simp only [Incoming.read, Document.importBytes, Document.importText] at h
      split at h
      · cases h
      · next s hs =>
        split at h
        · cases h
        · next v hv => exact ⟨v, h, .inr ⟨s, hv⟩⟩

end PageBuilder
