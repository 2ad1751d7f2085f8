import PageBuilder.Edit.Reached
import PageBuilder.Proofs.DocumentCodec
import PageBuilder.Proofs.JsonText

/-! # Edited documents are saved whole

What reading gives, `Document.Canonical`, is kept by every edit, and a canonical document is written
as a value that reads as that document. So no sequence of edits leads to a document that changes
when it is saved and opened again. -/

namespace PageBuilder

theorem Navigation.WasRead.extras {n : Navigation} (h : n.WasRead) :
    Fields.Extras keys n.extras := by
  obtain ⟨raw, hraw, rfl⟩ := h
  exact ofJson_extras hraw

theorem defaultProps_wellFormed (kind : String) : (Json.obj (defaultProps kind)).WellFormed := by
  unfold defaultProps
  cases ComponentKind.ofName? kind with
  | none => exact Json.wellFormed_obj_nil
  | some k =>
      cases k <;> simp [ComponentKind.defaultProps, Json.wellFormed_obj, Fields.DistinctKeys]

namespace Document

/-- No extra field is beside the fields of a record. -/
theorem extras_nil (ks : List String) : Fields.Extras ks [] :=
  ⟨Json.wellFormed_obj_nil, by simp⟩

/-- The labels of a change of settings, blank and repeated ones among them. -/
def cameraLabels : SettingsChange :=
  [("permissions", .plain (.arr [.str " camera ", .str "camera", .str ""]))]

theorem updateSettings_cameraLabels {d : Document} (h : d.check = .ok d) :
    d.updateSettings cameraLabels = .ok { d with permissions := some ["camera"] } := by
  have hknown : cameraLabels.unknownNames = [] := by
    have hpermissions : (Setting.ofKey? "permissions").isNone = false := rfl
    simp [SettingsChange.unknownNames, cameraLabels, hpermissions]
  have hall : cameraLabels.applyAll d = .ok { d with permissions := some ["camera"] } := rfl
  have hchecked : ({ d with permissions := some ["camera"] } : Document).check =
      .ok { d with permissions := some ["camera"] } :=
    check_eq_ok_iff.mpr ⟨rfl, (check_eq_ok_iff.mp h).2⟩
  have hnames : cameraLabels.map Prod.fst = ["permissions"] := rfl
  simp [updateSettings, hnames, hknown, hall, hchecked]

end Document

section

variable [Json.Limits]

theorem Component.WasRead.canonical {c : Component} (h : c.WasRead) : c.Canonical := by
  obtain ⟨place, raw, hraw, hread⟩ := h
  obtain ⟨fs, id, action, rfl, -, hid, haction, rfl⟩ := ofJson_eq_ok_iff.mp hread
  exact ofFields_canonical hid hraw haction

theorem Page.WasRead.canonical {p : Page} (h : p.WasRead) : p.Canonical := by
  obtain ⟨index, raw, hraw, hread⟩ := h
  exact .of_read hraw hread

theorem Page.Canonical.valid {p : Page} (h : p.Canonical) : p.Valid :=
  ⟨h.id_not_blank, fun c hc => (h.components c hc).id_not_blank⟩

theorem Page.Canonical.withComponents {p : Page} (h : p.Canonical) {cs : List Component}
    (hcs : ∀ c ∈ cs, c.Canonical) : (p.withComponents cs).Canonical :=
  ⟨h.id_not_blank, hcs, h.extras⟩

namespace Document

theorem newComponent_canonical {id : String} (hid : Text.blank id = false) (kind : String)
    (row : Nat) : (newComponent id kind row).Canonical where
  id_not_blank := hid
  props_wellFormed := defaultProps_wellFormed kind
  action := rfl
  action_wellFormed := trivial
  validation := by simp [newComponent]
  validation_wellFormed := trivial
  row_wellFormed := trivial
  rowSpan_wellFormed := trivial
  col_wellFormed := trivial
  colSpan_wellFormed := trivial
  extras := extras_nil _
  nulls := by simp [newComponent]
  null_props := by simp [newComponent]
  null_action := by simp [newComponent]
  null_validation := by simp [newComponent]
  null_row := by simp [newComponent]
  null_rowSpan := by simp [newComponent]
  null_col := by simp [newComponent]
  null_colSpan := by simp [newComponent]

/-! ### Canonical documents with other pages -/

theorem Canonical.component {d : Document} (h : d.Canonical) {c : Component}
    (hc : c ∈ d.components) : c.Canonical := by
  obtain ⟨p, hp, hc⟩ := mem_components.mp hc
  exact (h.pages p hp).components c hc

theorem Canonical.valid {d : Document} (h : d.Canonical) : d.Valid where
  id_not_blank := h.id_not_blank
  page_id_not_blank := fun p hp => (h.pages p hp).id_not_blank
  component_id_not_blank := fun _ hc => (h.component hc).id_not_blank
  pageIds_nodup := (check_eq_ok_iff.mp h.checked).2.2

/-- Edits of pages and components leave the rest of the document alone. -/
theorem Canonical.withPages {d e : Document} (h : d.Canonical)
    (he : e = { d with pages := e.pages }) (hvalid : e.Valid) (hne : e.pages ≠ [])
    (hpages : ∀ p ∈ e.pages, p.Canonical) :
    e.Canonical where
  id_not_blank := hvalid.id_not_blank
  pages_ne_nil := hne
  pages := hpages
  navigation := he ▸ h.navigation
  revision_wellFormed := he ▸ h.revision_wellFormed
  metadata := he ▸ h.metadata
  payment_wellFormed := he ▸ h.payment_wellFormed
  extras := he ▸ h.extras
  checked := check_eq_ok_iff.mpr ⟨rfl, hvalid.id_not_blank, hvalid.pageIds_nodup⟩

/-- Pages that are replaced under their own ids by canonical ones leave a canonical document. -/
theorem Canonical.mapPages {d : Document} (h : d.Canonical) {f : Page → Page}
    (hid : ∀ p ∈ d.pages, (f p).id = p.id) (hf : ∀ p ∈ d.pages, (f p).Canonical) :
    ({ d with pages := d.pages.map f } : Document).Canonical := by
  apply h.withPages rfl
  · exact h.valid.mapPages hid fun p hp => (hf p hp).valid
  · simpa using h.pages_ne_nil
  · simpa using hf

theorem Canonical.mapPage {d : Document} (h : d.Canonical) {id : String} {f : Page → Page}
    (hid : ∀ p ∈ d.pages, p.id = id → (f p).id = p.id)
    (hf : ∀ p ∈ d.pages, p.id = id → (f p).Canonical) : (d.mapPage id f).Canonical := by
  apply h.mapPages
  · intro p hp
    split
    · next hpid => exact hid p hp hpid
    · rfl
  · intro p hp
    split
    · next hpid => exact hf p hp hpid
    · exact h.pages p hp

theorem Canonical.mapComponents {d : Document} (h : d.Canonical)
    {f : List Component → List Component}
    (hf : ∀ cs, (∀ c ∈ cs, c.Canonical) → ∀ c ∈ f cs, c.Canonical) :
    (d.mapComponents f).Canonical := by
  apply h.mapPages
  · intro p _
    rfl
  · intro p hp
    exact (h.pages p hp).withComponents (hf p.components (h.pages p hp).components)

/-- A page of a canonical document takes other canonical components. -/
theorem Canonical.replaceComponents {d : Document} (h : d.Canonical) {p : Page} (hp : p ∈ d.pages)
    {cs : List Component} (hcs : ∀ c ∈ cs, c.Canonical) :
    (d.mapPage p.id fun _ => p.withComponents cs).Canonical := by
  apply h.mapPage
  · intro q _ hq
    exact hq.symm
  · intro q _ _
    exact (h.pages p hp).withComponents hcs

/-! ### Edits of components -/

theorem Canonical.updateComponent {d : Document} (h : d.Canonical) {c : Component}
    (hc : c.Canonical) : (d.updateComponent c).Canonical := by
  apply h.mapComponents
  intro cs hcs c' hc'
  obtain ⟨old, hold, rfl⟩ := List.mem_map.mp hc'
  split
  · exact hc
  · exact hcs old hold

theorem Canonical.deleteComponent {d : Document} (h : d.Canonical) (id : String) :
    (d.deleteComponent id).Canonical := by
  apply h.mapComponents
  intro cs hcs c hc
  exact hcs c (List.mem_of_mem_filter hc)

theorem Canonical.addComponent {d : Document} (h : d.Canonical) (page kind stem : String)
    (clock : Int) : (d.addComponent page kind stem clock).Canonical := by
  unfold Document.addComponent
  split
  · exact h
  · next p hp =>
    obtain ⟨hmem, rfl⟩ := mem_pages_of_page? hp
    apply h.replaceComponents hmem
    intro c hc
    rcases List.mem_append.mp hc with hc | hc
    · exact (h.pages p hmem).components c hc
    · rw [List.mem_singleton.mp hc]
      exact newComponent_canonical (freshId_not_blank stem d.componentIds clock) _ _

theorem Canonical.reorderComponents {d : Document} (h : d.Canonical) {cs : List Component}
    (hcs : ∀ c ∈ cs, c.Canonical) (page : Option String) :
    (d.reorderComponents cs page).Canonical := by
  unfold Document.reorderComponents
  split
  · exact h
  · next p hp => exact h.replaceComponents (mem_pages_of_reorderTarget? hp) hcs

theorem Canonical.moveComponent {d : Document} (h : d.Canonical) (page : String)
    (source target : Int) : (d.moveComponent page source target).Canonical := by
  unfold Document.moveComponent
  split
  · split
    · exact h
    · next p hp =>
      obtain ⟨hmem, -⟩ := mem_pages_of_page? hp
      apply h.reorderComponents
      intro c hc
      exact (h.pages p hmem).components c ((Page.moved_perm _ _ _).subset hc)
  · exact h

/-! ### Edits of pages -/

theorem Canonical.updatePage {d : Document} (h : d.Canonical) {p : Page} (hp : p.Canonical) :
    (d.updatePage p).Canonical := by
  apply h.mapPage
  · intro q _ hq
    exact hq.symm
  · intro q _ _
    exact hp

theorem Canonical.addPage {d : Document} (h : d.Canonical) (stem : String) (clock : Int) :
    (d.addPage stem clock).Canonical := by
  apply h.withPages rfl
  · exact h.valid.addPage stem clock
  · simp [Document.addPage]
  · intro p hp
    rcases List.mem_append.mp hp with hp | hp
    · exact h.pages p hp
    · rw [List.mem_singleton.mp hp]
      exact ⟨freshId_not_blank stem d.pageIds clock, by simp, extras_nil _⟩

theorem Canonical.deletePage {d : Document} (h : d.Canonical) (id : String) :
    (d.deletePage id).Canonical := by
  apply h.withPages
  · unfold Document.deletePage
    split <;> rfl
  · exact h.valid.deletePage id
  · exact deletePage_ne_nil h.pages_ne_nil id
  · unfold Document.deletePage
    split
    · intro p hp
      dsimp only at hp
      split at hp
      · rw [List.mem_singleton.mp hp]
        exact Page.welcome_canonical
      · exact h.pages p (List.mem_of_mem_filter hp)
    · exact h.pages

/-! ### Edits of settings -/

theorem Canonical.updateSettings {d e : Document} (h : d.Canonical) {change : SettingsChange}
    (hrecords : ∀ key n, (key, .record n) ∈ change → Fields.Extras Navigation.keys n.extras)
    (happly : d.updateSettings change = .ok e) : e.Canonical := by
  obtain ⟨hall, hchecked⟩ := updateSettings_eq_ok happly
  obtain ⟨hsame, hnavigation⟩ := SettingsChange.applyAll_eq_ok hall
  have hextras : Fields.Extras Navigation.keys e.navigation.extras := by
    rcases hnavigation with hkept | ⟨key, hmem⟩
    · rw [hkept]
      exact h.navigation
    · exact hrecords key e.navigation hmem
  exact {
    id_not_blank := (check_eq_ok_iff.mp hchecked).2.1
    pages_ne_nil := hsame.pages ▸ h.pages_ne_nil
    pages := hsame.pages ▸ h.pages
    navigation := hextras
    revision_wellFormed := hsame.metadata ▸ h.revision_wellFormed
    metadata := hsame.metadata ▸ h.metadata
    payment_wellFormed := hsame.payment ▸ h.payment_wellFormed
    extras := hsame.extras ▸ h.extras
    checked := hchecked }

/-! ### Any number of edits -/

theorem initial_canonical (timestamp : Option String) : (initial timestamp).Canonical where
  id_not_blank := (initial_valid timestamp).id_not_blank
  pages_ne_nil := by simp [initial]
  pages := by simp [initial, Page.welcome_canonical]
  navigation := extras_nil _
  revision_wellFormed := trivial
  metadata := extras_nil _
  payment_wellFormed := trivial
  extras := extras_nil _
  checked := check_eq_ok_iff.mpr
    ⟨rfl, (initial_valid timestamp).id_not_blank, (initial_valid timestamp).pageIds_nodup⟩

/-- One edit, with records that were read or stand in the document, keeps it canonical. -/
theorem Canonical.apply {d next : Document} (h : d.Canonical) {e : Edit} (he : e.Supplied d)
    {clock : Int} (happly : e.apply d clock = .ok next) : next.Canonical := by
  have hcomponent (c : Component) (hc : c.WasRead ∨ c ∈ d.components) : c.Canonical := by
    rcases hc with hread | hmem
    · exact hread.canonical
    · exact h.component hmem
  cases e with
  | addComponent page kind stem =>
      cases happly
      exact h.addComponent page kind stem clock
  | updateComponent c =>
      cases happly
      exact h.updateComponent (hcomponent c he)
  | deleteComponent id =>
      cases happly
      exact h.deleteComponent id
  | reorderComponents cs page =>
      cases happly
      exact h.reorderComponents (fun c hc => hcomponent c (he c hc)) page
  | moveComponent page source target =>
      cases happly
      exact h.moveComponent page source target
  | addPage stem =>
      cases happly
      exact h.addPage stem clock
  | deletePage id =>
      cases happly
      exact h.deletePage id
  | updatePage p =>
      cases happly
      rcases he with hread | hmem
      · exact h.updatePage hread.canonical
      · exact h.updatePage (h.pages p hmem)
  | updateSettings change =>
      refine h.updateSettings ?_ happly
      intro key n hmem
      rcases he key n hmem with hread | rfl
      · exact hread.extras
      · exact h.navigation

theorem Reached.canonical {d : Document} (h : d.Reached) : d.Canonical := by
  induction h with
  | read hraw h => exact .of_read hraw h
  | first timestamp => exact initial_canonical timestamp
  | edit clock _ he h ih => exact ih.apply he h

/-- Whatever edits have led to a document, what is written for it reads as that document, part by
part, and the saved text reads as what was written where that is within the limits. -/
theorem Reached.reloads {d : Document} (h : d.Reached) :
    ofJson d.toJson = .ok d ∧
      (d.toJson.fits 0 = true → Json.parse d.exportText = .ok d.toJson) :=
  ⟨h.canonical.ofJson_toJson, Json.parse_prettyText h.canonical.toJson_wellFormed⟩

end Document

end

namespace Document

/-- A stored component whose properties and row are null, with an action object without a type. -/
def storedAnchor : Fields :=
  [("id", .str "anchor"), ("gridRow", .null), ("props", .null), ("action", .obj [])]

/-- The component that is read from `storedAnchor`. -/
def anchor : Component :=
  .ofFields "anchor" (some (.structured (.ofFields []))) storedAnchor

theorem anchor_wasRead : anchor.WasRead := by
  refine ⟨"component", .obj storedAnchor, ?_, rfl⟩
  simp [storedAnchor, Json.wellFormed_obj, Fields.DistinctKeys]

/-- A component is added, one that was read is put in front of it, labels are set and another page
is added. -/
theorem edited_welcome_reloads :
    ∃ d : Document, d.Reached ∧ d.pageIds = ["welcome", "page_3"] ∧
      d.componentIds = ["anchor", "comp_1"] ∧ d.permissions = some ["camera"] ∧
      ofJson d.toJson = .ok d ∧ Json.parse d.exportText = .ok d.toJson := by
  let added := (initial none).addComponent "welcome" "textarea" "comp_" 1
  have hadded : added.Reached := .edit (e := .addComponent "welcome" "textarea" "comp_") 1
    (.first none) trivial rfl
  have hsupplied :
      (Edit.reorderComponents (anchor :: added.components) none).Supplied added := by
    intro c hc
    rcases List.mem_cons.mp hc with rfl | hmem
    · exact .inl anchor_wasRead
    · exact .inr hmem
  have hordered := hadded.edit 2 hsupplied rfl
  have hlabelled := hordered.edit (e := .updateSettings cameraLabels) 2
    (by simp [Edit.Supplied, cameraLabels])
    (updateSettings_cameraLabels hordered.canonical.checked)
  have hpaged := hlabelled.edit (e := .addPage "page_") 3 trivial rfl
  obtain ⟨hread, htext⟩ := hpaged.reloads
  exact ⟨_, hpaged, by decide +kernel, by decide +kernel, rfl, hread, htext (by decide +kernel)⟩

end Document

end PageBuilder
