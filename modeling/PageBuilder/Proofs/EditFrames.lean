import PageBuilder.Proofs.Additions
import PageBuilder.Proofs.ComponentMoves

/-! # What edits leave alone

An edit of pages or components reaches what it names and leaves the rest of the document as it is:
the settings, the pages that it does not reach, and on a page that it reaches all components but the
one it is about. An edit that names something the document does not have changes nothing. -/

namespace PageBuilder

namespace Edit

/-- The edit is about pages or components. One that reorders the first page needs a page. -/
def OfPages (d : Document) : Edit → Prop
  | .updateSettings _ => False
  | .reorderComponents _ none => d.pages ≠ []
  | _ => True

/-- An edit of components reaches the page: it names the page, or the component that it names stands
there. A reordering that names no page reaches the first one. -/
def Reaches (d : Document) (p : Page) : Edit → Prop
  | .addComponent page _ _ | .reorderComponents _ (some page) | .moveComponent page _ _ =>
    p.id = page
  | .reorderComponents _ none => d.pages.head? = some p
  | .updateComponent c => c.id ∈ p.componentIds
  | .deleteComponent id => id ∈ p.componentIds
  | .addPage _ | .deletePage _ | .updatePage _ | .updateSettings _ => False

/-- The edit names a page or a component that the document does not have. -/
def Misses (d : Document) : Edit → Prop
  | .addComponent page _ _ | .reorderComponents _ (some page) | .deletePage page =>
    page ∉ d.pageIds
  | .moveComponent page source _ =>
    ∀ p, d.page? page = some p → ¬ (0 ≤ source ∧ source < p.components.length)
  | .updateComponent c => c.id ∉ d.componentIds
  | .deleteComponent id => id ∉ d.componentIds
  | .updatePage q => q.id ∉ d.pageIds
  | .reorderComponents _ none | .addPage _ | .updateSettings _ => False

/-- The id of the component that the edit adds, puts in the place of others, or deletes. -/
def componentId? (d : Document) (clock : Int) : Edit → Option String
  | .addComponent _ _ stem => some (freshId stem d.componentIds clock)
  | .updateComponent c => some c.id
  | .deleteComponent id => some id
  | _ => none

/-- What an edit of components that turns the page `p` into `q` leaves of it. -/
structure Leaves (e : Edit) (d : Document) (clock : Int) (p q : Page) : Prop where
  /-- The id, the place, the title and the extra fields stay. -/
  apart : q = p.withComponents q.components
  unreached : ¬ e.Reaches d p → q = p
  /-- All components but those that the edit is about stay, in their order. -/
  others : ∀ id ∈ e.componentId? d clock,
    (q.components.filter fun c => c.id != id) = p.components.filter fun c => c.id != id
  added : ∀ page kind stem, e = .addComponent page kind stem → p.components <+: q.components
  moved : ∀ page source target, e = .moveComponent page source target →
    q = p ∨ ∃ k, Page.Relocates p.components source.toNat k q.components
  relisted : ∀ cs page, e = .reorderComponents cs page → e.Reaches d p → q.components = cs

/-- What the edit leaves of the pages. In place of a last page that is deleted stands the welcome
page. -/
def KeepsPages (d : Document) (clock : Int) (next : Document) : Edit → Prop
  | .addPage _ => ∃ q, next.pages = d.pages ++ [q]
  | .deletePage id =>
    let others := d.pages.filter fun p => p.id != id
    next.pages = others ∨ others = [] ∧ next.pages = [.welcome]
  | .updatePage u =>
    List.Forall₂ (fun p q => (p.id = u.id → q = u) ∧ (p.id ≠ u.id → q = p)) d.pages next.pages
  | .updateSettings _ => next.pages = d.pages
  | e => List.Forall₂ (e.Leaves d clock) d.pages next.pages

/-- The edit turns `d` into `next` and leaves all alone that it does not name. -/
structure Frame (e : Edit) (d : Document) (clock : Int) (next : Document) : Prop where
  settings : next = { d with pages := next.pages }
  pages : e.KeepsPages d clock next
  missing : e.Misses d → next = d

/-- A page that the edit leaves as it is, without giving it a list. -/
theorem Leaves.same {e : Edit} {d : Document} {clock : Int} {p : Page}
    (h : ∀ cs page, e = .reorderComponents cs page → ¬ e.Reaches d p) : e.Leaves d clock p p where
  apart := rfl
  unreached _ := rfl
  others _ _ := rfl
  added _ _ _ _ := List.prefix_rfl
  moved _ _ _ _ := .inl rfl
  relisted cs page he hreaches := absurd hreaches (h cs page he)

end Edit

namespace Document

variable {d : Document}

/-! ### Pages side by side -/

theorem forall₂_pages {R : Page → Page → Prop} {ps : List Page} {f : Page → Page}
    (h : ∀ p ∈ ps, R p (f p)) : List.Forall₂ R ps (ps.map f) := by
  rw [List.forall₂_map_right_iff, List.forall₂_same]
  exact h

theorem forall₂_mapPage (hpages : d.pageIds.Nodup) {p q : Page} (hp : p ∈ d.pages)
    {R : Page → Page → Prop} (hpage : R p q)
    (hothers : ∀ r ∈ d.pages, r.id ≠ p.id → R r r) :
    List.Forall₂ R d.pages (d.mapPage p.id fun _ => q).pages := by
  apply forall₂_pages
  intro r hr
  by_cases hid : r.id = p.id
  · rw [if_pos hid, List.inj_on_of_nodup_map hpages hr hp hid]
    exact hpage
  · rw [if_neg hid]
    exact hothers r hr hid

theorem pages_deletePage (d : Document) (id : String) :
    let others := d.pages.filter fun p => p.id != id
    (d.deletePage id).pages = others ∨ others = [] ∧ (d.deletePage id).pages = [.welcome] := by
  intro others
  by_cases h : d.pages = []
  · left
    simp [deletePage, hasPage, page?, others, h]
  · rw [deletePage_eq h]
    by_cases hothers : others = []
    · right
      exact ⟨hothers, congrArg withWelcome hothers⟩
    · left
      exact withWelcome_of_ne_nil hothers

/-! ### Edits of components -/

theorem leaves_addComponent (hpages : d.pageIds.Nodup) (page kind stem : String) (clock : Int) :
    List.Forall₂ ((Edit.addComponent page kind stem).Leaves d clock) d.pages
      (d.addComponent page kind stem clock).pages := by
  have hsame : ∀ r, (Edit.addComponent page kind stem).Leaves d clock r r := fun _ => .same nofun
  cases hp : d.page? page with
  | none =>
      rw [addComponent_of_missing (page?_eq_none_iff.mp hp)]
      exact List.forall₂_same.mpr fun r _ => hsame r
  | some p =>
      obtain ⟨hmem, rfl⟩ := mem_pages_of_page? hp
      rw [addComponent_eq hp]
      apply forall₂_mapPage hpages hmem _ fun r _ _ => hsame r
      refine ⟨rfl, fun h => absurd rfl h, ?_, fun _ _ _ _ => List.prefix_append _ _, nofun, nofun⟩
      rintro id ⟨⟩
      simp [newComponent, List.filter_append]

theorem leaves_updateComponent (d : Document) (u : Component) (clock : Int) :
    List.Forall₂ ((Edit.updateComponent u).Leaves d clock) d.pages (d.updateComponent u).pages := by
  apply forall₂_pages
  intro p _
  refine ⟨rfl, ?_, ?_, nofun, nofun, nofun⟩
  · intro h
    have hcomponents : p.components.map u.inPlaceOf = p.components :=
      Component.map_inPlaceOf_of_absent fun c hc hid => h (List.mem_map.mpr ⟨c, hc, hid⟩)
    exact congrArg p.withComponents hcomponents
  · rintro id ⟨⟩
    exact (filter_map_inPlaceOf u u.id p.components).trans (map_inPlaceOf_filter u p.components)

theorem leaves_deleteComponent (d : Document) (a : String) (clock : Int) :
    List.Forall₂ ((Edit.deleteComponent a).Leaves d clock) d.pages (d.deleteComponent a).pages := by
  apply forall₂_pages
  intro p _
  refine ⟨rfl, fun h => congrArg p.withComponents (Page.filter_of_absent h), ?_, nofun, nofun,
    nofun⟩
  rintro id ⟨⟩
  simp only [Page.withComponents_components, List.filter_filter, Bool.and_self]

theorem reaches_reorder_iff (hpages : d.pageIds.Nodup) {cs : List Component} {page : Option String}
    {p r : Page} (hp : d.reorderTarget? page = some p) (hr : r ∈ d.pages) :
    (Edit.reorderComponents cs page).Reaches d r ↔ r.id = p.id := by
  cases page with
  | none =>
      have hfirst : d.pages.head? = some p := hp
      simp only [Edit.Reaches, hfirst, Option.some.injEq]
      constructor
      · rintro rfl
        rfl
      · exact fun hid => (List.inj_on_of_nodup_map hpages hr (List.mem_of_mem_head? hp) hid).symm
  | some id =>
      obtain ⟨-, rfl⟩ := mem_pages_of_page? hp
      rfl

theorem leaves_reorderComponents (hpages : d.pageIds.Nodup) (cs : List Component)
    (page : Option String) (clock : Int) :
    List.Forall₂ ((Edit.reorderComponents cs page).Leaves d clock) d.pages
      (d.reorderComponents cs page).pages := by
  unfold reorderComponents
  split
  · next hnone =>
    apply List.forall₂_same.mpr
    intro r hr
    apply Edit.Leaves.same
    rintro _ _ ⟨⟩ hreaches
    cases page with
    | none => cases hnone.symm.trans hreaches
    | some id => exact page?_eq_none_iff.mp hnone (List.mem_map.mpr ⟨r, hr, hreaches⟩)
  · next p hp =>
    have hmem := mem_pages_of_reorderTarget? hp
    apply forall₂_mapPage hpages hmem
    · have hreached : (Edit.reorderComponents cs page).Reaches d p :=
        (reaches_reorder_iff hpages hp hmem).mpr rfl
      refine ⟨rfl, fun h => absurd hreached h, nofun, nofun, nofun, ?_⟩
      rintro _ _ ⟨⟩ _
      rfl
    · intro r hr hid
      apply Edit.Leaves.same
      rintro _ _ ⟨⟩ hreaches
      exact hid ((reaches_reorder_iff hpages hp hr).mp hreaches)

theorem leaves_moveComponent (hpages : d.pageIds.Nodup) (page : String) (source target : Int)
    (clock : Int) :
    List.Forall₂ ((Edit.moveComponent page source target).Leaves d clock) d.pages
      (d.moveComponent page source target).pages := by
  have hsame : ∀ r, (Edit.moveComponent page source target).Leaves d clock r r :=
    fun _ => .same nofun
  by_cases hposition : d.hasPosition page source = true
  · obtain ⟨p, hp, h, hlt⟩ := hasPosition_iff.mp hposition
    obtain ⟨hmem, rfl⟩ := mem_pages_of_page? hp
    rw [moveComponent_eq hp h hlt]
    apply forall₂_mapPage hpages hmem _ fun r _ _ => hsame r
    refine ⟨rfl, fun h => absurd rfl h, nofun, nofun, ?_, nofun⟩
    rintro _ _ _ ⟨⟩
    exact .inr ⟨_, Page.moved_relocates h hlt target⟩
  · have hmissing : d.moveComponent page source target = d := if_neg hposition
    rw [hmissing]
    exact List.forall₂_same.mpr fun r _ => hsame r

end Document

namespace Edit

/-! ### All edits -/

variable {d next : Document} {clock : Int} {e : Edit}

theorem keepsPages_apply (hpages : d.pageIds.Nodup) (h : e.apply d clock = .ok next) :
    e.KeepsPages d clock next := by
  cases e with
  | addComponent page kind stem =>
      cases h
      exact Document.leaves_addComponent hpages page kind stem clock
  | updateComponent c =>
      cases h
      exact d.leaves_updateComponent c clock
  | deleteComponent id =>
      cases h
      exact d.leaves_deleteComponent id clock
  | reorderComponents cs page =>
      cases h
      exact Document.leaves_reorderComponents hpages cs page clock
  | moveComponent page source target =>
      cases h
      exact Document.leaves_moveComponent hpages page source target clock
  | addPage stem =>
      cases h
      exact ⟨_, rfl⟩
  | deletePage id =>
      cases h
      exact d.pages_deletePage id
  | updatePage u =>
      cases h
      apply Document.forall₂_pages
      intro p _
      exact ⟨fun hid => if_pos hid, fun hid => if_neg hid⟩
  | updateSettings change => exact Document.updateSettings_pages h

/-- Edits of pages and components change no settings. -/
theorem settings_apply (he : e.OfPages d) (h : e.apply d clock = .ok next) :
    next = { d with pages := next.pages } := by
  cases e with
  | addComponent page kind stem =>
      cases h
      unfold Document.addComponent
      split <;> rfl
  | reorderComponents cs page =>
      cases h
      unfold Document.reorderComponents
      split <;> rfl
  | moveComponent page source target =>
      cases h
      unfold Document.moveComponent Document.reorderComponents
      split
      · split
        · rfl
        · split <;> rfl
      · rfl
  | deletePage id =>
      cases h
      unfold Document.deletePage
      split <;> rfl
  | updateComponent | deleteComponent | addPage | updatePage =>
      cases h
      rfl
  | updateSettings => exact absurd he id

theorem apply_of_misses (hmisses : e.Misses d) (h : e.apply d clock = .ok next) : next = d := by
  cases e with
  | addComponent page kind stem =>
      cases h
      exact Document.addComponent_of_missing hmisses kind stem clock
  | updateComponent c =>
      cases h
      exact Document.updateComponent_of_absent (Document.hasComponent_eq_false_iff.mpr hmisses)
  | deleteComponent id =>
      cases h
      exact Document.deleteComponent_of_absent (Document.hasComponent_eq_false_iff.mpr hmisses)
  | reorderComponents cs page =>
      cases h
      cases page with
      | none => exact absurd hmisses id
      | some id =>
          have hnone : d.reorderTarget? (some id) = none := Document.page?_eq_none_iff.mpr hmisses
          rw [Document.reorderComponents, hnone]
  | moveComponent page source target =>
      cases h
      exact Document.moveComponent_of_missing hmisses target
  | deletePage id =>
      cases h
      exact if_neg (mt Document.hasPage_iff.mp hmisses)
  | updatePage u =>
      cases h
      exact Document.mapPage_of_not_mem hmisses _
  | addPage | updateSettings => exact absurd hmisses id

/-- Every edit of pages or components is carried out and leaves alone what it does not name: the
settings of the document, the pages that it does not reach, and the components that it is not
about, with all their data and in their order. -/
theorem edits_leave_the_rest {d : Document} (hpages : d.pageIds.Nodup) (clock : Int) {e : Edit}
    (he : e.OfPages d) : ∃ next, e.apply d clock = .ok next ∧ e.Frame d clock next := by
  have hdone : ∃ next, e.apply d clock = .ok next := by
    cases e with
    | updateSettings => exact absurd he id
    | _ => exact ⟨_, rfl⟩
  obtain ⟨next, h⟩ := hdone
  exact ⟨next, h, settings_apply he h, keepsPages_apply hpages h,
    fun hmisses => apply_of_misses hmisses h⟩

/-- Two pages share a note, and pages and components carry fields that no edit knows. -/
def vendorPages : Document where
  id := "app"
  extras := [("vendor", .str "x")]
  pages := [
    { id := "home", order := 4, extras := [("theme", .null)],
      components := [
        { id := "note", type := "text" },
        { id := "pay", type := "button", extras := [("track", .int 1)], nulls := [.action] },
        { id := "note", type := "image" }] },
    { id := "about", title := "About", components := [{ id := "map", type := "map" }] },
    { id := "news", order := -1, components := [{ id := "note", type := "text" }] }]

/-- The note is deleted from the first and the last page; the page between them, the button with its
unknown field and its stored null, and all fields around them stay. -/
theorem shared_note_deleted :
    vendorPages.pageIds.Nodup ∧
      (Edit.deleteComponent "note").OfPages vendorPages ∧
      ∃ next, (Edit.deleteComponent "note").apply vendorPages 0 = .ok next ∧
        (Edit.deleteComponent "note").Frame vendorPages 0 next ∧
        next.pages = [
          { id := "home", order := 4, extras := [("theme", .null)],
            components := [
              { id := "pay", type := "button", extras := [("track", .int 1)],
                nulls := [.action] }] },
          { id := "about", title := "About", components := [{ id := "map", type := "map" }] },
          { id := "news", order := -1 }] := by
  have hpages : vendorPages.pageIds.Nodup := by decide
  have he : (Edit.deleteComponent "note").OfPages vendorPages := trivial
  obtain ⟨next, h, hframe⟩ := edits_leave_the_rest hpages 0 he
  refine ⟨hpages, he, next, h, hframe, ?_⟩
  cases h
  rfl

end Edit

end PageBuilder
