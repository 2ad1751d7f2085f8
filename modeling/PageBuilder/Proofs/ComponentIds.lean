import Mathlib.Data.List.Flatten
import Mathlib.Data.List.Nodup
import PageBuilder.Edit.Run
import PageBuilder.Proofs.EditValidity

/-! # No two components share an id

Edits keep the ids of all components different, across pages and whatever the clock says, with two
exceptions: an edit that puts a list of components on a page keeps them different exactly if the
page admits the list.

## Implementation notes

The proofs see a document as one of its pages between the pages before and after it. An edit of that
page changes the middle part of the list of ids and nothing else. -/

namespace PageBuilder

theorem Page.componentIds_add (p : Page) (c : Component) :
    (p.withComponents (p.components ++ [c])).componentIds = p.componentIds ++ [c.id] := by
  simp [componentIds]

namespace Document

theorem componentIds_eq (d : Document) :
    d.componentIds = d.pages.flatMap Page.componentIds := by
  simp only [componentIds, components, List.map_flatMap]
  rfl

theorem mem_componentIds_iff {d : Document} {id : String} :
    id ∈ d.componentIds ↔ ∃ p ∈ d.pages, id ∈ p.componentIds := by
  rw [componentIds_eq, List.mem_flatMap]

/-! ### One page among the others -/

/-- The document has the page `p` between the pages `before` and the pages `after`, and no other
page with its id. -/
structure Splits (d : Document) (before : List Page) (p : Page) (after : List Page) : Prop where
  pages : d.pages = before ++ p :: after
  others : ∀ q ∈ before ++ after, q.id ≠ p.id

theorem exists_splits {d : Document} (h : d.pageIds.Nodup) {p : Page} (hp : p ∈ d.pages) :
    ∃ before after, d.Splits before p after := by
  obtain ⟨before, after, hpages⟩ := List.append_of_mem hp
  refine ⟨before, after, hpages, ?_⟩
  intro q hq hid
  simp only [pageIds, hpages, List.map_append, List.map_cons] at h
  have hmem : p.id ∈ before.map Page.id ++ after.map Page.id := by
    rw [← List.map_append, ← hid]
    exact List.mem_map_of_mem hq
  exact (List.nodup_cons.mp (List.nodup_middle.mp h)).1 hmem

/-- A page that is found by its id, between the others. -/
theorem exists_splits_of_page? {d : Document} (h : d.pageIds.Nodup) {id : String} {p : Page}
    (hp : d.page? id = some p) : p.id = id ∧ ∃ before after, d.Splits before p after := by
  obtain ⟨hmem, hid⟩ := mem_pages_of_page? hp
  exact ⟨hid, exists_splits h hmem⟩

section Splits

variable {d : Document} {before after : List Page} {p : Page}

/-- The page is found by its id. -/
theorem Splits.page?_eq (h : d.Splits before p after) : d.page? p.id = some p := by
  have hbefore : before.find? (fun q => q.id == p.id) = none := by
    apply List.find?_eq_none.mpr
    intro q hq
    simpa using h.others q (List.mem_append_left _ hq)
  rw [page?, h.pages, List.find?_append, hbefore, Option.none_or, List.find?_cons_of_pos (by simp)]

/-- An edit of the page leaves the pages around it. -/
theorem Splits.pages_mapPage (h : d.Splits before p after) (f : Page → Page) :
    (d.mapPage p.id f).pages = before ++ f p :: after := by
  have hbefore : ∀ q ∈ before, q.id ≠ p.id := fun q hq => h.others q (List.mem_append_left _ hq)
  have hafter : ∀ q ∈ after, q.id ≠ p.id := fun q hq => h.others q (List.mem_append_right _ hq)
  simp only [mapPage, h.pages, List.map_append, List.map_cons, if_true,
    map_eq_self_of_ids_ne hbefore, map_eq_self_of_ids_ne hafter]

theorem Splits.mapPage_eq (h : d.Splits before p after) (f : Page → Page) :
    d.mapPage p.id f = { d with pages := before ++ f p :: after } := by
  rw [← h.pages_mapPage f]
  rfl

/-- A page that takes the place of the one with its id stands between the same pages. -/
theorem Splits.replace (h : d.Splits before p after) {q : Page} (hid : q.id = p.id) :
    Splits { d with pages := before ++ q :: after } before q after where
  pages := rfl
  others := hid ▸ h.others

/-- An edit of all components that leaves those around the page. -/
theorem Splits.mapComponents_eq (h : d.Splits before p after)
    {f : List Component → List Component}
    (hf : ∀ q ∈ before ++ after, f q.components = q.components) :
    d.mapComponents f =
      { d with pages := before ++ p.withComponents (f p.components) :: after } := by
  have hpage : ∀ q ∈ before ++ after, q.withComponents (f q.components) = q := by
    intro q hq
    rw [hf q hq]
    rfl
  have hbefore := List.map_congr_left fun q hq => hpage q (List.mem_append_left _ hq)
  have hafter := List.map_congr_left fun q hq => hpage q (List.mem_append_right _ hq)
  rw [List.map_id'] at hbefore hafter
  simp only [mapComponents, h.pages, List.map_append, List.map_cons, hbefore, hafter]

/-- The ids of all components are those on the page and those on the pages around it. -/
theorem componentIds_perm_of_pages {e : Document} {q : Page} (h : e.pages = before ++ q :: after) :
    e.componentIds.Perm (q.componentIds ++ (before ++ after).flatMap Page.componentIds) := by
  rw [componentIds_eq, h, List.flatMap_append, List.flatMap_append, List.flatMap_cons,
    ← List.append_assoc, ← List.append_assoc]
  exact List.perm_append_comm.append_right _

/-- The pages around are those with other ids. -/
theorem Splits.mem_around_iff (h : d.Splits before p after) {q : Page} :
    q ∈ before ++ after ↔ q ∈ d.pages ∧ q.id ≠ p.id := by
  rw [h.pages]
  constructor
  · intro hq
    have hne := h.others q hq
    simp only [List.mem_append, List.mem_cons] at hq ⊢
    exact ⟨hq.imp_right .inr, hne⟩
  · rintro ⟨hq, hne⟩
    have hqp : q ≠ p := fun heq => hne (heq ▸ rfl)
    simpa [hqp] using hq

/-- A list of components can stand on the page exactly if their ids differ and none of them is on a
page around. -/
theorem Splits.admits_iff (h : d.Splits before p after) {cs : List Component} :
    d.Admits p.id cs ↔
      (cs.map Component.id).Nodup ∧
        (cs.map Component.id).Disjoint ((before ++ after).flatMap Page.componentIds) := by
  constructor
  · intro hadmits
    refine ⟨hadmits.nodup, ?_⟩
    intro id hid haround
    obtain ⟨c, hc, rfl⟩ := List.mem_map.mp hid
    obtain ⟨q, hq, hmem⟩ := List.mem_flatMap.mp haround
    obtain ⟨hq, hne⟩ := h.mem_around_iff.mp hq
    exact hadmits.elsewhere q hq hne c hc hmem
  · rintro ⟨hnodup, hdisjoint⟩
    refine ⟨hnodup, ?_⟩
    intro q hq hne c hc hmem
    have haround : q ∈ before ++ after := h.mem_around_iff.mpr ⟨hq, hne⟩
    exact hdisjoint (List.mem_map_of_mem hc) (List.mem_flatMap.mpr ⟨q, haround, hmem⟩)

theorem Admits.of_perm {d : Document} {page : String} {cs cs' : List Component}
    (h : d.Admits page cs) (hperm : cs'.Perm cs) : d.Admits page cs' := by
  refine ⟨((hperm.map Component.id).nodup_iff).mpr h.nodup, ?_⟩
  intro p hp hne c hc
  exact h.elsewhere p hp hne c (hperm.subset hc)

/-- A page that is replaced leaves the ids of all components different exactly if its components can
stand there. -/
theorem nodup_componentIds_mapPage_iff (hpages : d.pageIds.Nodup) (hids : d.componentIds.Nodup)
    (hp : p ∈ d.pages) (f : Page → Page) :
    (d.mapPage p.id f).componentIds.Nodup ↔ d.Admits p.id (f p).components := by
  obtain ⟨before, after, hsplits⟩ := exists_splits hpages hp
  have haround : ((before ++ after).flatMap Page.componentIds).Nodup :=
    (List.nodup_append.mp ((componentIds_perm_of_pages hsplits.pages).nodup_iff.mp hids)).2.1
  rw [(componentIds_perm_of_pages (hsplits.pages_mapPage f)).nodup_iff, hsplits.admits_iff,
    List.nodup_append']
  constructor
  · rintro ⟨hnodup, -, hdisjoint⟩
    exact ⟨hnodup, hdisjoint⟩
  · rintro ⟨hnodup, hdisjoint⟩
    exact ⟨hnodup, haround, hdisjoint⟩

/-- What stands on a page can stand there. -/
theorem admits_self (hpages : d.pageIds.Nodup) (hids : d.componentIds.Nodup) (hp : p ∈ d.pages) :
    d.Admits p.id p.components := by
  obtain ⟨before, after, hsplits⟩ := exists_splits hpages hp
  have hnodup := (componentIds_perm_of_pages hsplits.pages).nodup_iff.mp hids
  obtain ⟨hown, -, hdisjoint⟩ := List.nodup_append'.mp hnodup
  exact hsplits.admits_iff.mpr ⟨hown, hdisjoint⟩

end Splits

/-! ### The ids after each edit -/

variable {d : Document}

theorem nodup_componentIds_reorder_iff (hpages : d.pageIds.Nodup) (hids : d.componentIds.Nodup)
    (cs : List Component) (page : Option String) :
    (d.reorderComponents cs page).componentIds.Nodup ↔
      ∀ p ∈ d.reorderTarget? page, d.Admits p.id cs := by
  unfold reorderComponents
  split
  · next h => simp [h, hids]
  · next p hp =>
    rw [nodup_componentIds_mapPage_iff hpages hids (mem_pages_of_reorderTarget? hp) _, hp]
    simp

theorem nodup_componentIds_updatePage_iff (hpages : d.pageIds.Nodup) (hids : d.componentIds.Nodup)
    (p : Page) :
    (d.updatePage p).componentIds.Nodup ↔ (d.hasPage p.id = true → d.Admits p.id p.components) := by
  by_cases hpage : d.hasPage p.id = true
  · obtain ⟨q, hq, hid⟩ := List.mem_map.mp (hasPage_iff.mp hpage)
    rw [updatePage, ← hid, nodup_componentIds_mapPage_iff hpages hids hq]
    simp [hid, hpage]
  · have hmissing : p.id ∉ d.pageIds := fun hmem => hpage (hasPage_iff.mpr hmem)
    rw [updatePage, mapPage_of_not_mem hmissing]
    simp [hids, hpage]

/-- The ids after a component is added to a page that the document has: one more, which is fresh. -/
theorem componentIds_addComponent_perm (hpages : d.pageIds.Nodup) {page : String}
    (hpage : d.hasPage page = true) (kind stem : String) (clock : Int) :
    (d.addComponent page kind stem clock).componentIds.Perm
      (freshId stem d.componentIds clock :: d.componentIds) := by
  obtain ⟨p, hp⟩ := Option.isSome_iff_exists.mp hpage
  obtain ⟨rfl, before, after, hsplits⟩ := exists_splits_of_page? hpages hp
  let c := newComponent (freshId stem d.componentIds clock) kind p.components.length
  have hold := componentIds_perm_of_pages hsplits.pages
  have hnew := componentIds_perm_of_pages (hsplits.pages_mapPage fun _ =>
    p.withComponents (p.components ++ [c]))
  rw [Page.componentIds_add, List.append_assoc, List.singleton_append] at hnew
  simp only [addComponent, hp]
  exact hnew.trans (List.perm_middle.trans (hold.symm.cons _))

theorem nodup_componentIds_addComponent (hpages : d.pageIds.Nodup) (hids : d.componentIds.Nodup)
    (page kind stem : String) (clock : Int) :
    (d.addComponent page kind stem clock).componentIds.Nodup := by
  by_cases hpage : d.hasPage page = true
  · rw [(componentIds_addComponent_perm hpages hpage kind stem clock).nodup_iff]
    exact List.nodup_cons.mpr ⟨freshId_not_mem stem d.componentIds clock, hids⟩
  · have hnone : d.page? page = none := by simpa [hasPage] using hpage
    simpa only [addComponent, hnone] using hids

theorem nodup_componentIds_moveComponent (hpages : d.pageIds.Nodup) (hids : d.componentIds.Nodup)
    (page : String) (source target : Int) :
    (d.moveComponent page source target).componentIds.Nodup := by
  unfold moveComponent
  split
  · split
    · exact hids
    · next p hp =>
      rw [nodup_componentIds_reorder_iff hpages hids]
      intro q hq
      cases hp.symm.trans hq
      have hself := admits_self hpages hids (mem_pages_of_page? hp).1
      exact hself.of_perm (Page.moved_perm p.components source target)
  · exact hids

@[simp] theorem componentIds_mapComponents (f : List Component → List Component) :
    (d.mapComponents f).componentIds =
      d.pages.flatMap fun p => (f p.components).map Component.id := by
  simp only [componentIds_eq, mapComponents, List.flatMap_map]
  rfl

/-- A component that takes the place of those with its id leaves the ids. -/
theorem componentIds_updateComponent (d : Document) (c : Component) :
    (d.updateComponent c).componentIds = d.componentIds := by
  have hpage (cs : List Component) :
      (cs.map fun old => if old.id = c.id then c else old).map Component.id =
        cs.map Component.id := by
    rw [List.map_map]
    apply List.map_congr_left
    intro old _
    by_cases hold : old.id = c.id <;> simp [hold]
  rw [updateComponent, componentIds_mapComponents, componentIds_eq]
  simp only [hpage]
  rfl

theorem componentIds_deleteComponent (d : Document) (id : String) :
    (d.deleteComponent id).componentIds = d.componentIds.filter (· != id) := by
  rw [deleteComponent, componentIds_mapComponents, componentIds_eq, List.filter_flatMap]
  simp only [Page.componentIds, List.filter_map]
  rfl

theorem componentIds_addPage (d : Document) (stem : String) (clock : Int) :
    (d.addPage stem clock).componentIds = d.componentIds := by
  simp [componentIds_eq, addPage, Page.componentIds]

theorem componentIds_deletePage_sublist (d : Document) (id : String) :
    (d.deletePage id).componentIds.Sublist d.componentIds := by
  unfold deletePage
  split
  · simp only [componentIds_eq]
    split
    · simp [Page.welcome, Page.componentIds]
    · exact List.filter_sublist.flatMap Page.componentIds
  · exact .refl _

end Document

/-! ### Edits and runs -/

namespace Edit

variable {d next : Document} {clock : Int}

theorem nodup_pageIds_apply (hpages : d.pageIds.Nodup) {e : Edit}
    (h : e.apply d clock = .ok next) : next.pageIds.Nodup := by
  cases e with
  | addComponent page kind stem =>
      cases h
      rwa [d.pageIds_addComponent]
  | updateComponent c | deleteComponent id =>
      cases h
      exact (d.pageIds_mapComponents _).symm ▸ hpages
  | reorderComponents cs page =>
      cases h
      rwa [d.pageIds_reorderComponents]
  | moveComponent page source target =>
      cases h
      rwa [d.pageIds_moveComponent]
  | addPage stem =>
      cases h
      exact Document.nodup_pageIds_addPage hpages stem clock
  | deletePage id =>
      cases h
      exact Document.nodup_pageIds_deletePage hpages id
  | updatePage p =>
      cases h
      exact (Document.pageIds_mapPage fun _ _ => rfl).symm ▸ hpages
  | updateSettings change =>
      rw [Document.pageIds, Document.updateSettings_pages h]
      exact hpages

/-- An edit keeps the ids of all components different exactly if it is separate. -/
theorem nodup_componentIds_apply_iff (hpages : d.pageIds.Nodup) (hids : d.componentIds.Nodup)
    {e : Edit} (h : e.apply d clock = .ok next) :
    next.componentIds.Nodup ↔ e.Separate d := by
  cases e with
  | addComponent page kind stem =>
      cases h
      exact iff_of_true (Document.nodup_componentIds_addComponent hpages hids _ _ _ _) trivial
  | updateComponent c =>
      cases h
      rw [d.componentIds_updateComponent]
      exact iff_of_true hids trivial
  | deleteComponent id =>
      cases h
      rw [d.componentIds_deleteComponent]
      exact iff_of_true (hids.filter _) trivial
  | reorderComponents cs page =>
      cases h
      exact Document.nodup_componentIds_reorder_iff hpages hids cs page
  | moveComponent page source target =>
      cases h
      exact iff_of_true (Document.nodup_componentIds_moveComponent hpages hids _ _ _) trivial
  | addPage stem =>
      cases h
      rw [d.componentIds_addPage]
      exact iff_of_true hids trivial
  | deletePage id =>
      cases h
      exact iff_of_true (hids.sublist (d.componentIds_deletePage_sublist id)) trivial
  | updatePage p =>
      cases h
      exact Document.nodup_componentIds_updatePage_iff hpages hids p
  | updateSettings change =>
      rw [Document.componentIds_eq, Document.updateSettings_pages h, ← Document.componentIds_eq]
      exact iff_of_true hids trivial

end Edit

namespace Document

variable {d : Document}

theorem nodup_perform (hpages : d.pageIds.Nodup) (hids : d.componentIds.Nodup) {e : TimedEdit}
    (he : e.edit.Separate d) :
    (d.perform e).pageIds.Nodup ∧ (d.perform e).componentIds.Nodup := by
  unfold perform
  split
  · next next hnext =>
    exact ⟨Edit.nodup_pageIds_apply hpages hnext,
      (Edit.nodup_componentIds_apply_iff hpages hids hnext).mpr he⟩
  · exact ⟨hpages, hids⟩

theorem nodup_performAll (hpages : d.pageIds.Nodup) (hids : d.componentIds.Nodup)
    {es : List TimedEdit} (hes : d.SeparateRun es) : (d.performAll es).componentIds.Nodup := by
  induction es generalizing d with
  | nil => exact hids
  | cons e es ih =>
      obtain ⟨hfirst, hrest⟩ := hes
      obtain ⟨hpages', hids'⟩ := nodup_perform hpages hids hfirst
      exact ih hpages' hids' hrest

/-- In a document whose components have different ids, an edit keeps them different exactly if it is
separate, which all edits are but those that put listed components on a page. A component that is
added brings one id, which nothing in the document had. So the ids stay different over every run of
separate edits. That the pages have different ids is what every document is checked for when it is
made. -/
theorem componentIds_stay_different (hpages : d.pageIds.Nodup) (hids : d.componentIds.Nodup) :
    (∀ (e : Edit) (clock : Int) (next : Document), e.apply d clock = .ok next →
        (next.componentIds.Nodup ↔ e.Separate d)) ∧
      (∀ (page kind stem : String) (clock : Int), d.hasPage page = true →
        ∃ id ∉ d.componentIds,
          (d.addComponent page kind stem clock).componentIds.Perm (id :: d.componentIds)) ∧
      ∀ es : List TimedEdit, d.SeparateRun es → (d.performAll es).componentIds.Nodup := by
  refine ⟨?_, ?_, ?_⟩
  · intro e clock next h
    exact Edit.nodup_componentIds_apply_iff hpages hids h
  · intro page kind stem clock hpage
    exact ⟨_, freshId_not_mem stem d.componentIds clock,
      componentIds_addComponent_perm hpages hpage kind stem clock⟩
  · intro es hes
    exact nodup_performAll hpages hids hes

/-- Two pages with a text each. -/
def twoTexts : Document where
  id := "app"
  pages := [
    { id := "home", components := [newComponent "title" "heading" 0] },
    { id := "news", components := [newComponent "c_5" "text" 0] }]

/-- The clock stands at a stamp that is taken and then goes back; a list is put on the second page,
and a component of the first is moved to its start. -/
def wanderingClock : List TimedEdit :=
  [⟨5, .addComponent "home" "button" "c_"⟩, ⟨5, .addComponent "news" "text" "c_"⟩,
    ⟨4, .addComponent "home" "image" "c_"⟩,
    ⟨4, .reorderComponents [newComponent "c_7" "text" 0, newComponent "c_5" "image" 1]
      (some "news")⟩,
    ⟨4, .moveComponent "home" 2 0⟩]

/-- The ids differ after that, and they do not if the second page gets a component of the first. -/
theorem ids_differ_after_wanderingClock :
    twoTexts.pageIds.Nodup ∧ twoTexts.componentIds.Nodup ∧ twoTexts.SeparateRun wanderingClock ∧
      (twoTexts.performAll wanderingClock).componentIds.Nodup ∧
      (twoTexts.performAll wanderingClock).componentIds =
        ["c_4", "title", "c_6", "c_7", "c_5"] ∧
      ¬ (twoTexts.reorderComponents [newComponent "title" "text" 0]
        (some "news")).componentIds.Nodup := by
  have hpages : twoTexts.pageIds.Nodup := by decide
  have hids : twoTexts.componentIds.Nodup := by decide
  have hseparate : twoTexts.SeparateRun wanderingClock := by decide +kernel
  obtain ⟨hedit, -, hrun⟩ := componentIds_stay_different hpages hids
  refine ⟨hpages, hids, hseparate, hrun wanderingClock hseparate, by decide +kernel, ?_⟩
  rw [hedit (.reorderComponents [newComponent "title" "text" 0] (some "news")) 0 _ rfl]
  decide

end Document

end PageBuilder
