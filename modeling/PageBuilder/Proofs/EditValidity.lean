import Mathlib.Data.List.Perm.Basic
import PageBuilder.Document.Default
import PageBuilder.Edit.Pages
import PageBuilder.Edit.Settings
import PageBuilder.Proofs.PageIds
import PageBuilder.Proofs.ReadRecords

/-!
# Documents stay valid under edits

A document that was read is valid, every edit keeps it valid, and it always has a page. Since the
records of a valid document can all be made again, an edit of a valid document is never refused.
-/

namespace PageBuilder

/-- Neither the page nor one of its components has a blank id. -/
structure Page.Valid (p : Page) : Prop where
  id_not_blank : Text.blank p.id = false
  component_id_not_blank : ∀ c ∈ p.components, Text.blank c.id = false

/-- Moving a component only changes the order. -/
theorem Page.moved_perm (cs : List Component) (source target : Int) :
    (Page.moved cs source target).Perm cs := by
  unfold Page.moved
  split
  · exact .refl cs
  · next c hc =>
    obtain ⟨hlt, rfl⟩ := List.getElem?_eq_some_iff.mp hc
    have hle : (max 0 (min target (cs.eraseIdx source.toNat).length)).toNat ≤
        (cs.eraseIdx source.toNat).length := by omega
    exact (List.perm_insertIdx _ _ hle).trans (List.getElem_cons_eraseIdx_perm hlt)

namespace Document

theorem mem_components {d : Document} {c : Component} :
    c ∈ d.components ↔ ∃ p ∈ d.pages, c ∈ p.components :=
  List.mem_flatMap

theorem valid_iff {d : Document} :
    d.Valid ↔ Text.blank d.id = false ∧ (∀ p ∈ d.pages, p.Valid) ∧ d.pageIds.Nodup := by
  constructor
  · intro h
    have hpages : ∀ p ∈ d.pages, p.Valid := by
      intro p hp
      refine ⟨h.page_id_not_blank p hp, ?_⟩
      intro c hc
      exact h.component_id_not_blank c (mem_components.mpr ⟨p, hp, hc⟩)
    exact ⟨h.id_not_blank, hpages, h.pageIds_nodup⟩
  · rintro ⟨hid, hpages, hnodup⟩
    have hcomponents : ∀ c ∈ d.components, Text.blank c.id = false := by
      intro c hc
      obtain ⟨p, hp, hc⟩ := mem_components.mp hc
      exact (hpages p hp).component_id_not_blank c hc
    exact ⟨hid, fun p hp => (hpages p hp).id_not_blank, hcomponents, hnodup⟩

theorem Valid.page {d : Document} (h : d.Valid) {p : Page} (hp : p ∈ d.pages) : p.Valid :=
  (valid_iff.mp h).2.1 p hp

theorem Valid.empty_not_mem_pageIds {d : Document} (h : d.Valid) : "" ∉ d.pageIds := by
  intro hmem
  obtain ⟨p, hp, hid⟩ := List.mem_map.mp hmem
  exact Text.ne_empty_of_not_blank (h.page_id_not_blank p hp) hid

/-! ### The checks of the constructors -/

theorem firstRepeated?_eq_none_iff {seen xs : List String} :
    firstRepeated? seen xs = none ↔ xs.Nodup ∧ ∀ x ∈ xs, x ∉ seen := by
  induction xs generalizing seen with
  | nil => simp [firstRepeated?]
  | cons x xs ih =>
      simp only [firstRepeated?, List.contains_iff_mem, List.nodup_cons, List.forall_mem_cons]
      split
      · next h => simp [h]
      · next h =>
        rw [ih]
        constructor
        · rintro ⟨hnodup, hseen⟩
          exact ⟨⟨fun hx => hseen x hx List.mem_cons_self, hnodup⟩, h,
            fun y hy hys => hseen y hy (List.mem_cons_of_mem x hys)⟩
        · rintro ⟨⟨hx, hnodup⟩, -, hseen⟩
          constructor
          · exact hnodup
          · intro y hy hys
            rcases List.mem_cons.mp hys with rfl | hys
            · exact hx hy
            · exact hseen y hy hys

theorem check_eq_ok_iff {d e : Document} :
    d.check = .ok e ↔ e = d ∧ Text.blank d.id = false ∧ d.pageIds.Nodup := by
  unfold check
  split
  · next h => simp [h]
  · next h =>
    split
    · next id hid =>
      have hdup : ¬ d.pageIds.Nodup := fun hnodup => by
        rw [firstRepeated?_eq_none_iff.mpr ⟨hnodup, by simp⟩] at hid
        cases hid
      simp [hdup]
    · next hnone =>
      have hnodup := (firstRepeated?_eq_none_iff.mp hnone).1
      simp [h, hnodup, eq_comm]

/-- All records of a document can be made exactly if the document is valid. -/
theorem checkRecords_eq_ok_iff {d e : Document} : d.checkRecords = .ok e ↔ e = d ∧ d.Valid := by
  unfold checkRecords
  split
  · next h =>
    obtain ⟨c, hc, hblank⟩ := List.any_eq_true.mp h
    have hinvalid : ¬ d.Valid := fun hv => by simp [hv.component_id_not_blank c hc] at hblank
    simp [hinvalid]
  · next hcomponents =>
    split
    · next h =>
      obtain ⟨p, hp, hblank⟩ := List.any_eq_true.mp h
      have hinvalid : ¬ d.Valid := fun hv => by simp [hv.page_id_not_blank p hp] at hblank
      simp [hinvalid]
    · next hpages =>
      rw [check_eq_ok_iff]
      constructor
      · rintro ⟨rfl, hid, hnodup⟩
        exact ⟨rfl, hid, by simpa using hpages, by simpa using hcomponents, hnodup⟩
      · rintro ⟨rfl, hv⟩
        exact ⟨rfl, hv.id_not_blank, hv.pageIds_nodup⟩

/-! ### Edits of components -/

/-- Pages that are replaced one by one under their own ids leave a valid document. -/
theorem Valid.mapPages {d : Document} (h : d.Valid) {f : Page → Page}
    (hid : ∀ p ∈ d.pages, (f p).id = p.id) (hvalid : ∀ p ∈ d.pages, (f p).Valid) :
    ({ d with pages := d.pages.map f } : Document).Valid := by
  refine valid_iff.mpr ⟨h.id_not_blank, ?_, ?_⟩
  · intro p hp
    obtain ⟨q, hq, rfl⟩ := List.mem_map.mp hp
    exact hvalid q hq
  · have hids : (d.pages.map f).map Page.id = d.pages.map Page.id := by
      rw [List.map_map]
      exact List.map_congr_left hid
    change ((d.pages.map f).map Page.id).Nodup
    rw [hids]
    exact h.pageIds_nodup

theorem Valid.mapPage {d : Document} (h : d.Valid) {id : String} {f : Page → Page}
    (hid : ∀ p ∈ d.pages, p.id = id → (f p).id = p.id)
    (hvalid : ∀ p ∈ d.pages, p.id = id → (f p).Valid) : (d.mapPage id f).Valid := by
  apply h.mapPages
  · intro p hp
    split
    · next hpid => exact hid p hp hpid
    · rfl
  · intro p hp
    split
    · next hpid => exact hvalid p hp hpid
    · exact h.page hp

theorem Valid.mapComponents {d : Document} (h : d.Valid) {f : List Component → List Component}
    (hf : ∀ cs, (∀ c ∈ cs, Text.blank c.id = false) → ∀ c ∈ f cs, Text.blank c.id = false) :
    (d.mapComponents f).Valid :=
  h.mapPages (fun _ _ => rfl) fun p hp =>
    ⟨(h.page hp).id_not_blank, hf p.components (h.page hp).component_id_not_blank⟩

theorem Valid.updateComponent {d : Document} (h : d.Valid) {c : Component}
    (hc : Text.blank c.id = false) : (d.updateComponent c).Valid := by
  apply h.mapComponents
  intro cs hcs c' hc'
  obtain ⟨old, hold, rfl⟩ := List.mem_map.mp hc'
  split
  · exact hc
  · exact hcs old hold

theorem Valid.deleteComponent {d : Document} (h : d.Valid) (id : String) :
    (d.deleteComponent id).Valid :=
  h.mapComponents fun _ hcs c hc => hcs c (List.mem_of_mem_filter hc)

/-- A page of a valid document takes other components whose ids are not blank. -/
theorem Valid.replaceComponents {d : Document} (h : d.Valid) {p : Page} (hp : p ∈ d.pages)
    {cs : List Component} (hcs : ∀ c ∈ cs, Text.blank c.id = false) :
    (d.mapPage p.id fun _ => p.withComponents cs).Valid :=
  h.mapPage (fun _ _ hq => hq.symm) fun _ _ _ => ⟨(h.page hp).id_not_blank, hcs⟩

theorem Valid.addComponent {d : Document} (h : d.Valid) (page kind stem : String) (clock : Int) :
    (d.addComponent page kind stem clock).Valid := by
  unfold Document.addComponent
  split
  · exact h
  · next p hp =>
    obtain ⟨hmem, rfl⟩ := mem_pages_of_page? hp
    apply h.replaceComponents hmem
    intro c hc
    rcases List.mem_append.mp hc with hc | hc
    · exact (h.page hmem).component_id_not_blank c hc
    · rw [List.mem_singleton.mp hc]
      exact freshId_not_blank stem d.componentIds clock

theorem Valid.reorderComponents {d : Document} (h : d.Valid) {cs : List Component}
    (hcs : ∀ c ∈ cs, Text.blank c.id = false) (page : Option String) :
    (d.reorderComponents cs page).Valid := by
  unfold Document.reorderComponents
  split
  · exact h
  · next p hp => exact h.replaceComponents (mem_pages_of_reorderTarget? hp) hcs

/-! ### Edits of pages -/

theorem Valid.updatePage {d : Document} (h : d.Valid) {p : Page} (hp : p.Valid) :
    (d.updatePage p).Valid :=
  h.mapPage (fun _ _ hq => hq.symm) fun _ _ _ => hp

theorem Valid.addPage {d : Document} (h : d.Valid) (stem : String) (clock : Int) :
    (d.addPage stem clock).Valid := by
  refine valid_iff.mpr ⟨h.id_not_blank, ?_, nodup_pageIds_addPage h.pageIds_nodup stem clock⟩
  intro p hp
  rcases List.mem_append.mp hp with hp | hp
  · exact h.page hp
  · rw [List.mem_singleton.mp hp]
    exact ⟨freshId_not_blank stem d.pageIds clock, by simp⟩

theorem Page.valid_welcome : Page.welcome.Valid :=
  ⟨by decide, by simp [Page.welcome]⟩

theorem Valid.deletePage {d : Document} (h : d.Valid) (id : String) : (d.deletePage id).Valid := by
  refine valid_iff.mpr ⟨?_, ?_, nodup_pageIds_deletePage h.pageIds_nodup id⟩
  · unfold Document.deletePage
    split <;> exact h.id_not_blank
  · intro p hp
    unfold Document.deletePage at hp
    split at hp
    · dsimp only at hp
      split at hp
      · rw [List.mem_singleton.mp hp]
        exact Page.valid_welcome
      · exact h.page (List.mem_of_mem_filter hp)
    · exact h.page hp

end Document

/-! ### Edits of settings -/

/-- The two documents have the same parts apart from their settings. -/
structure Document.SameContents (d e : Document) : Prop where
  pages : e.pages = d.pages
  metadata : e.metadata = d.metadata
  payment : e.payment = d.payment
  extras : e.extras = d.extras

namespace SettingsChange

/-- A setting touches no other part of the document, and the navigation settings change to a given
record only. -/
theorem apply_eq_ok {d e : Document} {s : Setting} {v : SettingValue} (h : apply d s v = .ok e) :
    d.SameContents e ∧ (e.navigation = d.navigation ∨ v = .record e.navigation) := by
  cases s <;> simp only [apply, Except.ok.injEq] at h
  case permissions | statuses =>
    cases hls : labels v with
    | error e => simp [hls, Except.map] at h
    | ok ls =>
      simp only [hls, Except.map, Except.ok.injEq] at h
      rw [← h]
      exact ⟨⟨rfl, rfl, rfl, rfl⟩, .inl rfl⟩
  case navigation =>
    cases v with
    | plain v => cases h
    | record n =>
      cases h
      exact ⟨⟨rfl, rfl, rfl, rfl⟩, .inr rfl⟩
  all_goals
    rw [← h]
    exact ⟨⟨rfl, rfl, rfl, rfl⟩, .inl rfl⟩

theorem applyAll_eq_ok {d e : Document} {change : SettingsChange} (h : applyAll d change = .ok e) :
    d.SameContents e ∧
      (e.navigation = d.navigation ∨ ∃ key, (key, .record e.navigation) ∈ change) := by
  induction change generalizing d with
  | nil =>
      cases h
      exact ⟨⟨rfl, rfl, rfl, rfl⟩, .inl rfl⟩
  | cons f rest ih =>
      obtain ⟨key, v⟩ := f
      simp only [applyAll] at h
      split at h
      · cases h
      · split at h
        · cases h
        · next next hnext =>
          obtain ⟨hfirst, hrecord⟩ := apply_eq_ok hnext
          obtain ⟨hrest, hnavigation⟩ := ih h
          constructor
          · exact ⟨hrest.pages.trans hfirst.pages, hrest.metadata.trans hfirst.metadata,
              hrest.payment.trans hfirst.payment, hrest.extras.trans hfirst.extras⟩
          · rcases hnavigation with hsame | ⟨key', hmem⟩
            · rw [hsame]
              rcases hrecord with hkept | rfl
              · exact .inl hkept
              · exact .inr ⟨key, List.mem_cons_self⟩
            · exact .inr ⟨key', List.mem_cons_of_mem _ hmem⟩

end SettingsChange

namespace Document

/-- A change of settings that is not refused leaves the pages alone and passes the check of the
document. -/
theorem updateSettings_eq_ok {d e : Document} {change : SettingsChange}
    (h : d.updateSettings change = .ok e) :
    change.applyAll d = .ok e ∧ e.check = .ok e := by
  unfold updateSettings at h
  split at h
  · cases h
  · split at h
    · cases h
    · split at h
      · cases h
      · next changed happly =>
        split at h
        · cases h
        · next checked hcheck =>
          obtain ⟨rfl, -⟩ := check_eq_ok_iff.mp hcheck
          cases h
          exact ⟨happly, hcheck⟩

theorem updateSettings_pages {d e : Document} {change : SettingsChange}
    (h : d.updateSettings change = .ok e) : e.pages = d.pages :=
  (SettingsChange.applyAll_eq_ok (updateSettings_eq_ok h).1).1.pages

theorem Valid.updateSettings {d e : Document} (hd : d.Valid) {change : SettingsChange}
    (h : d.updateSettings change = .ok e) : e.Valid := by
  obtain ⟨-, hcheck⟩ := updateSettings_eq_ok h
  obtain ⟨-, hid, hnodup⟩ := check_eq_ok_iff.mp hcheck
  refine valid_iff.mpr ⟨hid, ?_, hnodup⟩
  rw [updateSettings_pages h]
  exact fun p hp => hd.page hp

/-! ### Documents that were read -/

theorem withWelcome_ne_nil (pages : List Page) : withWelcome pages ≠ [] := by
  unfold withWelcome
  split
  · simp
  · next h => simpa using h

end Document

theorem Page.ofJson_valid [Json.Limits] {index : Int} {raw : Json} {p : Page}
    (h : Page.ofJson index raw = .ok p) : p.Valid := by
  obtain ⟨fs, id, stored, components, -, -, hblank, -, hread, rfl⟩ := Page.ofJson_eq_ok_iff.mp h
  constructor
  · exact hblank
  · intro c hc
    obtain ⟨place, raw, -, hc⟩ := Page.mem_readComponents hread hc
    obtain ⟨fs', id', action, -, -, hblank', -, rfl⟩ := Component.ofJson_eq_ok_iff.mp hc
    exact hblank'

namespace Document

/-- A document that was read is valid and has a page. -/
theorem ofJson_valid [Json.Limits] {raw : Json} {d : Document} (h : ofJson raw = .ok d) :
    d.Valid ∧ d.pages ≠ [] := by
  obtain ⟨fs, stored, pages, permissions, statuses, -, -, hpages, -, -, hcheck⟩ :=
    ofJson_eq_ok_iff.mp h
  obtain ⟨rfl, hid, hnodup⟩ := check_eq_ok_iff.mp hcheck
  have hvalid : ∀ p ∈ withWelcome pages, p.Valid := by
    intro p hp
    unfold withWelcome at hp
    split at hp
    · rw [List.mem_singleton.mp hp]
      exact Page.valid_welcome
    · obtain ⟨index, raw, -, hread⟩ := mem_readPages hpages hp
      exact Page.ofJson_valid hread
  exact ⟨valid_iff.mpr ⟨hid, hvalid, hnodup⟩, withWelcome_ne_nil pages⟩

theorem initial_valid (timestamp : Option String) : (initial timestamp).Valid :=
  have hid : Text.blank defaultId = false := by decide
  valid_iff.mpr ⟨hid, by simp [initial, Page.valid_welcome], by simp [initial, pageIds]⟩

/-! ### A document keeps a page -/

theorem mapPage_ne_nil {d : Document} (h : d.pages ≠ []) (id : String) (f : Page → Page) :
    (d.mapPage id f).pages ≠ [] := by
  simpa [mapPage] using h

theorem mapComponents_ne_nil {d : Document} (h : d.pages ≠ [])
    (f : List Component → List Component) : (d.mapComponents f).pages ≠ [] := by
  simpa [mapComponents] using h

theorem addComponent_ne_nil {d : Document} (h : d.pages ≠ []) (page kind stem : String)
    (clock : Int) : (d.addComponent page kind stem clock).pages ≠ [] := by
  unfold addComponent
  split
  · exact h
  · exact mapPage_ne_nil h page _

theorem reorderComponents_ne_nil {d : Document} (h : d.pages ≠ []) (cs : List Component)
    (page : Option String) : (d.reorderComponents cs page).pages ≠ [] := by
  unfold reorderComponents
  split
  · exact h
  · exact mapPage_ne_nil h _ _

theorem deletePage_ne_nil {d : Document} (h : d.pages ≠ []) (id : String) :
    (d.deletePage id).pages ≠ [] := by
  unfold deletePage
  split
  · dsimp only
    split
    · simp
    · next hne => simpa using hne
  · exact h

theorem updateSettings_ne_nil {d e : Document} (hd : d.pages ≠ []) {change : SettingsChange}
    (h : d.updateSettings change = .ok e) : e.pages ≠ [] := by
  rw [updateSettings_pages h]
  exact hd

end Document

end PageBuilder
