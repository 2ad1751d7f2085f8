import PageBuilder.Edit.Pages
import PageBuilder.Proofs.FreshIds

/-!
# Page ids under edits

Edits of components leave the ids of the pages, and edits of pages keep them different.
-/

namespace PageBuilder.Document

variable {d : Document}

theorem hasPage_iff {d : Document} {id : String} : d.hasPage id = true ↔ id ∈ d.pageIds := by
  simp [hasPage, page?, pageIds, List.find?_isSome]

theorem page?_eq_none_iff {d : Document} {id : String} : d.page? id = none ↔ id ∉ d.pageIds := by
  rw [← hasPage_iff, hasPage, Bool.not_eq_true, Option.isSome_eq_false_iff,
    Option.isNone_iff_eq_none]

theorem mem_pages_of_page? {d : Document} {id : String} {p : Page} (h : d.page? id = some p) :
    p ∈ d.pages ∧ p.id = id :=
  ⟨List.mem_of_find?_eq_some h, by simpa using List.find?_some h⟩

/-- With different page ids every page is found by its id. -/
theorem page?_of_mem (hpages : d.pageIds.Nodup) {p : Page} (hp : p ∈ d.pages) :
    d.page? p.id = some p := by
  obtain ⟨q, hq⟩ := Option.isSome_iff_exists.mp (hasPage_iff.mpr (List.mem_map_of_mem hp))
  obtain ⟨hmem, hid⟩ := mem_pages_of_page? hq
  rw [hq, List.inj_on_of_nodup_map hpages hmem hp hid]

theorem mem_pages_of_reorderTarget? {page : Option String} {p : Page}
    (h : d.reorderTarget? page = some p) : p ∈ d.pages := by
  cases page with
  | none => exact List.mem_of_mem_head? h
  | some id => exact (mem_pages_of_page? h).1

/-! ### Pages that are replaced -/

theorem map_eq_self_of_ids_ne {ps : List Page} {id : String} (h : ∀ p ∈ ps, p.id ≠ id)
    (f : Page → Page) : (ps.map fun p => if p.id = id then f p else p) = ps :=
  calc
    (ps.map fun p => if p.id = id then f p else p) = ps.map fun p => p :=
      List.map_congr_left fun p hp => if_neg (h p hp)
    _ = ps := List.map_id' ps

/-- An edit of a page that the document does not have changes nothing. -/
theorem mapPage_of_not_mem {d : Document} {id : String} (h : id ∉ d.pageIds) (f : Page → Page) :
    d.mapPage id f = d := by
  have hne : ∀ p ∈ d.pages, p.id ≠ id := by
    rintro p hp rfl
    exact h (List.mem_map_of_mem hp)
  rw [mapPage, map_eq_self_of_ids_ne hne]

theorem pageIds_mapPage {id : String} {f : Page → Page} (hf : ∀ p, p.id = id → (f p).id = id) :
    (d.mapPage id f).pageIds = d.pageIds := by
  simp only [pageIds, mapPage, List.map_map]
  apply List.map_congr_left
  intro p _
  by_cases hp : p.id = id <;> simp [hp, hf]

theorem pageIds_addComponent (d : Document) (page kind stem : String) (clock : Int) :
    (d.addComponent page kind stem clock).pageIds = d.pageIds := by
  unfold addComponent
  split
  · rfl
  · next p hp => exact pageIds_mapPage fun _ _ => (mem_pages_of_page? hp).2

theorem pageIds_reorderComponents (d : Document) (cs : List Component) (page : Option String) :
    (d.reorderComponents cs page).pageIds = d.pageIds := by
  unfold reorderComponents
  split
  · rfl
  · exact pageIds_mapPage fun _ _ => rfl

theorem pageIds_moveComponent (d : Document) (page : String) (source target : Int) :
    (d.moveComponent page source target).pageIds = d.pageIds := by
  unfold moveComponent
  split
  · split
    · rfl
    · exact d.pageIds_reorderComponents _ _
  · rfl

theorem pageIds_mapComponents (d : Document) (f : List Component → List Component) :
    (d.mapComponents f).pageIds = d.pageIds := by
  simp [pageIds, mapComponents, Function.comp_def]

theorem nodup_pageIds_addPage (h : d.pageIds.Nodup) (stem : String) (clock : Int) :
    (d.addPage stem clock).pageIds.Nodup := by
  have hids : (d.addPage stem clock).pageIds = d.pageIds ++ [freshId stem d.pageIds clock] := by
    simp [pageIds, addPage]
  rw [hids, ← List.concat_eq_append, List.nodup_concat]
  exact ⟨freshId_not_mem stem d.pageIds clock, h⟩

theorem nodup_pageIds_deletePage (h : d.pageIds.Nodup) (id : String) :
    (d.deletePage id).pageIds.Nodup := by
  unfold deletePage
  split
  · simp only [pageIds]
    split
    · simp
    · exact h.sublist (List.filter_sublist.map Page.id)
  · exact h

end PageBuilder.Document
