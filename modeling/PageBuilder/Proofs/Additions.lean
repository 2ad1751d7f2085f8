import PageBuilder.Proofs.ComponentEdits
import PageBuilder.Proofs.PageDeletions

/-! # Additions are undone by deletions

What is added comes last and under an id that the document does not have, whatever the clock says. A
deletion reaches every occurrence of an id, on all pages; under a fresh id it reaches what was added
and nothing else. -/

namespace PageBuilder.Document

variable {d : Document}

/-- The page of an added component, with the component at its end. -/
theorem addComponent_eq {page : String} {p : Page} (hp : d.page? page = some p)
    (kind stem : String) (clock : Int) :
    d.addComponent page kind stem clock =
      d.mapPage p.id fun _ => p.withComponents (p.components ++
        [newComponent (freshId stem d.componentIds clock) kind p.components.length]) := by
  rw [addComponent, hp, (mem_pages_of_page? hp).2]

/-- The page of the added component keeps its place between the others. -/
theorem Splits.addComponent_eq {before after : List Page} {p : Page}
    (hsplits : d.Splits before p after) (kind stem : String) (clock : Int) :
    d.addComponent p.id kind stem clock =
      { d with
        pages := before ++ p.withComponents (p.components ++
          [newComponent (freshId stem d.componentIds clock) kind p.components.length]) :: after } :=
  (Document.addComponent_eq hsplits.page?_eq kind stem clock).trans (hsplits.mapPage_eq _)

theorem addComponent_of_missing {page : String} (h : page ∉ d.pageIds) (kind stem : String)
    (clock : Int) : d.addComponent page kind stem clock = d := by
  rw [addComponent, page?_eq_none_iff.mpr h]

/-- To delete a component that was added restores the document. -/
theorem deleteComponent_addComponent {before after : List Page} {p : Page}
    (hsplits : d.Splits before p after) (kind stem : String) (clock : Int) :
    (d.addComponent p.id kind stem clock).deleteComponent (freshId stem d.componentIds clock) =
      d := by
  let id := freshId stem d.componentIds clock
  let grown := p.withComponents (p.components ++ [newComponent id kind p.components.length])
  have hfresh : id ∉ d.componentIds := freshId_not_mem stem d.componentIds clock
  have hthere : Splits { d with pages := before ++ grown :: after } before grown after :=
    hsplits.replace rfl
  -- the fresh id stands on no page of the document, so the deletion touches the new one only
  have hkept : ∀ q ∈ d.pages, (q.components.filter fun c => c.id != id) = q.components :=
    fun q hq => Page.filter_of_absent fun hid => hfresh (mem_componentIds_iff.mpr ⟨q, hq, hid⟩)
  have haround : ∀ q ∈ before ++ after,
      (q.components.filter fun c => c.id != id) = q.components :=
    fun q hq => hkept q (hsplits.mem_around_iff.mp hq).1
  have hmem : p ∈ d.pages := (mem_pages_of_page? hsplits.page?_eq).1
  have hgrown : (grown.components.filter fun c => c.id != id) = p.components := by
    simp [grown, newComponent, List.filter_append, hkept p hmem]
  calc
    (d.addComponent p.id kind stem clock).deleteComponent id
        = { d with pages := before ++
            grown.withComponents (grown.components.filter fun c => c.id != id) :: after } := by
      rw [hsplits.addComponent_eq]
      exact hthere.mapComponents_eq haround
    _ = { d with pages := before ++ p :: after } := by rw [hgrown]; rfl
    _ = d := by rw [← hsplits.pages]

/-- To delete a page that was added restores the document. -/
theorem deletePage_addPage (h : d.pages ≠ []) (stem : String) (clock : Int) :
    (d.addPage stem clock).deletePage (freshId stem d.pageIds clock) = d := by
  have hfresh := freshId_not_mem stem d.pageIds clock
  have hkept : (d.pages.filter fun p => p.id != freshId stem d.pageIds clock) = d.pages := by
    apply List.filter_eq_self.mpr
    intro p hp
    rw [bne_iff_ne]
    intro hid
    exact hfresh (hid ▸ List.mem_map_of_mem hp)
  rw [deletePage_eq (by simp [addPage])]
  simp [addPage, hkept, withWelcome_of_ne_nil h]

/-- An added component stands at the end of its page, an added page at the end of the document, each
under an id that the document does not have, and nothing else changes. To delete it by this id
restores the document. -/
theorem additions_undone {d : Document} (h : d.pages ≠ []) (hpages : d.pageIds.Nodup)
    (stem : String) (clock : Int) :
    (∀ page kind p, d.page? page = some p →
      let added := d.addComponent page kind stem clock
      let id := freshId stem d.componentIds clock
      (∃ before after c, d.pages = before ++ p :: after ∧
        added = { d with pages := before ++ p.withComponents (p.components ++ [c]) :: after } ∧
        c.id = id ∧ c.type = kind ∧ c.grid.row = .int p.components.length) ∧
      id ∉ d.componentIds ∧ added.deleteComponent id = d) ∧
    (let added := d.addPage stem clock
      let id := freshId stem d.pageIds clock
      (∃ q, added = { d with pages := d.pages ++ [q] } ∧ q.id = id) ∧
      id ∉ d.pageIds ∧ added.deletePage id = d) := by
  constructor
  · intro page kind p hp added id
    obtain ⟨rfl, before, after, hsplits⟩ := exists_splits_of_page? hpages hp
    have hadded := hsplits.addComponent_eq kind stem clock
    exact ⟨⟨before, after, _, hsplits.pages, hadded, rfl, rfl, rfl⟩,
      freshId_not_mem stem d.componentIds clock,
      deleteComponent_addComponent hsplits kind stem clock⟩
  · intro added id
    exact ⟨⟨_, rfl, rfl⟩, freshId_not_mem stem d.pageIds clock, deletePage_addPage h stem clock⟩

/-- A note that stands three times, and ids that take the stamps the clock comes to. -/
def takenStamps : Document where
  id := "app"
  pages := [
    { id := "id_7", components := [newComponent "note" "text" 4, newComponent "note" "image" 5] },
    { id := "news", components := [newComponent "id_8" "text" 0, newComponent "note" "text" 1] }]

/-- Both additions go on to the next stamp, each past the ids of its own sort only. Their deletions
leave the repeated note alone. -/
theorem taken_stamps_passed :
    let component := takenStamps.addComponent "id_7" "button" "id_" 8
    let page := takenStamps.addPage "id_" 7
    takenStamps.pages ≠ [] ∧ takenStamps.pageIds.Nodup ∧
      component.componentIds = ["note", "note", "id_9", "id_8", "note"] ∧
      component.deleteComponent "id_9" = takenStamps ∧
      page.pageIds = ["id_7", "news", "id_8"] ∧ page.deletePage "id_8" = takenStamps := by
  intro component page
  have h : takenStamps.pages ≠ [] := by decide
  have hpages : takenStamps.pageIds.Nodup := by decide
  have hcomponent := ((additions_undone h hpages "id_" 8).1 "id_7" "button" _ rfl).2.2
  have hpage := (additions_undone h hpages "id_" 7).2.2.2
  have hstamp : freshId "id_" takenStamps.componentIds 8 = "id_9" := by decide +kernel
  have hstamp' : freshId "id_" takenStamps.pageIds 7 = "id_8" := by decide +kernel
  rw [hstamp] at hcomponent
  rw [hstamp'] at hpage
  exact ⟨h, hpages, by decide +kernel, hcomponent, by decide +kernel, hpage⟩

end PageBuilder.Document
