import PageBuilder.Proofs.ComponentEdits
import PageBuilder.Proofs.EditorSteps

/-! # The selection stands

The editor selects by id. Every event but a selection leaves nothing selected or a component that
the document has, with one exception: an event that gives a page a whole list of components may
leave out the selected one, and it then stands nowhere unless another page has its id.

## Implementation notes

Ids of components may repeat across pages, so what an edit leaves is said of ids and not of
components: `mem_componentIds_mapPage` and `mem_componentIds_deletePage` list the pages on which an
id can stand afterwards. -/

namespace PageBuilder

namespace Document

variable {d : Document}

/-! ### Where an id stands -/

/-- The page as it was edited, or another page. -/
theorem mem_componentIds_mapPage {page id : String} {f : Page → Page} :
    id ∈ (d.mapPage page f).componentIds ↔
      (∃ p ∈ d.pages, p.id = page ∧ id ∈ (f p).componentIds) ∨
        ∃ p ∈ d.pages, p.id ≠ page ∧ id ∈ p.componentIds := by
  simp only [mem_componentIds_iff, mapPage, List.mem_map]
  constructor
  · rintro ⟨_, ⟨p, hp, rfl⟩, hid⟩
    by_cases hpage : p.id = page
    · rw [if_pos hpage] at hid
      exact .inl ⟨p, hp, hpage, hid⟩
    · rw [if_neg hpage] at hid
      exact .inr ⟨p, hp, hpage, hid⟩
  · rintro (⟨p, hp, hpage, hid⟩ | ⟨p, hp, hpage, hid⟩)
    · exact ⟨f p, ⟨p, hp, if_pos hpage⟩, hid⟩
    · exact ⟨p, ⟨p, hp, if_neg hpage⟩, hid⟩

/-- A page of the document that gets the listed components, or another page. -/
theorem mem_componentIds_relist {p : Page} (hp : p ∈ d.pages) {id : String} {q : Page}
    {cs : List Component} (hq : q.components = cs) :
    id ∈ (d.mapPage p.id fun _ => q).componentIds ↔
      id ∈ cs.map Component.id ∨ ∃ q ∈ d.pages, q.id ≠ p.id ∧ id ∈ q.componentIds := by
  rw [mem_componentIds_mapPage, Page.componentIds, hq]
  constructor
  · rintro (⟨_, _, _, hid⟩ | hother)
    · exact .inl hid
    · exact .inr hother
  · rintro (hid | hother)
    · exact .inl ⟨p, hp, rfl, hid⟩
    · exact .inr hother

/-- The welcome page that may stand in has no components. -/
theorem mem_componentIds_deletePage {page id : String} :
    id ∈ (d.deletePage page).componentIds ↔
      ∃ p ∈ d.pages, p.id ≠ page ∧ id ∈ p.componentIds := by
  unfold deletePage
  split
  · have hkept : (∃ p ∈ d.pages, p.id ≠ page ∧ id ∈ p.componentIds) ↔
        ∃ p ∈ d.pages.filter fun p => p.id != page, id ∈ p.componentIds := by
      simp [and_assoc]
    rw [mem_componentIds_iff, hkept]
    dsimp only
    split
    · next hempty =>
      rw [List.isEmpty_iff.mp hempty]
      simp [Page.welcome, Page.componentIds]
    · rfl
  · next hmissing =>
    rw [mem_componentIds_iff]
    constructor
    · rintro ⟨p, hp, hid⟩
      refine ⟨p, hp, ?_, hid⟩
      rintro rfl
      exact hmissing (hasPage_iff.mpr (List.mem_map_of_mem hp))
    · rintro ⟨p, hp, -, hid⟩
      exact ⟨p, hp, hid⟩

theorem mem_componentIds_addComponent (hpages : d.pageIds.Nodup) {id : String}
    (hid : id ∈ d.componentIds) (page kind stem : String) (clock : Int) :
    id ∈ (d.addComponent page kind stem clock).componentIds := by
  by_cases hpage : d.hasPage page = true
  · rw [(componentIds_addComponent_perm hpages hpage kind stem clock).mem_iff]
    exact List.mem_cons_of_mem _ hid
  · have hnone : d.page? page = none := by simpa [hasPage] using hpage
    simpa only [addComponent, hnone] using hid

end Document

namespace Editor

/-- The page that the event gives a whole list of components, if the document has it, and the
list. -/
def Event.relisted? (d : Document) : Event → Option (Page × List Component)
  | .reorderComponents cs page => (d.reorderTarget? page).map fun p => (p, cs)
  | .updatePage p => (d.page? p.id).map fun old => (old, p.components)
  | _ => none

namespace State

/-- Nothing is selected, or a component that the document has. -/
def SelectionStands (s : State) : Prop :=
  ∀ id, s.selected = some id → s.document.hasComponent id = true

/-- The event gives a page a list without the selected component, which no other page has. -/
def Strands (s : State) (e : Event) : Prop :=
  ∃ id p cs, s.selected = some id ∧ e.relisted? s.document = some (p, cs) ∧
    id ∉ cs.map Component.id ∧ ∀ q ∈ s.document.pages, q.id ≠ p.id → id ∉ q.componentIds

/-- The event takes the selected component away and leaves nothing selected. -/
def Releases [Json.Limits] (s : State) : Event → Prop
  | .deleteComponent id => s.selected = some id
  | .deletePage page => ∃ p id, s.document.page? page = some p ∧ s.selected = some id ∧
      id ∈ p.componentIds
  | .completeImport incoming => s.phase = .importing ∧ ∃ i, incoming.read = .ok i
  | _ => False

/-- No event of the run strands the selection, and only components of the document are selected. -/
def SelectsSafely [Json.Limits] (config : Config) : State → List TimedEvent → Prop
  | _, [] => True
  | s, e :: es =>
    ¬ s.Strands e.event ∧
      (∀ id, e.event = .selectComponent (some id) → s.document.hasComponent id = true) ∧
      SelectsSafely config (s.dispatch config e) es

variable {config : Config} {clock : Int} {s next : State} {e : Event} {d : Document}
  {selected : Option String} {current : String}

/-! ### What an edit makes of the selection -/

theorem not_strands (h : e.relisted? s.document = none) : ¬ s.Strands e := by
  rintro ⟨id, p, cs, -, hrelisted, -⟩
  rw [h] at hrelisted
  cases hrelisted

theorem component?_isSome_iff {p : Page} {id : String} :
    (p.component? id).isSome = true ↔ id ∈ p.componentIds := by
  simp [Page.component?, Page.componentIds, List.find?_isSome]

theorem selectionStands_iff : s.SelectionStands ↔
    ∀ id, s.selected = some id → id ∈ s.document.componentIds := by
  simp only [SelectionStands, Document.hasComponent_iff]

/-- An event that leaves the document and the selection leaves the selection standing. -/
theorem SelectionStands.keep (hs : s.SelectionStands) (hdocument : next.document = s.document)
    (hselected : next.selected = s.selected) : next.SelectionStands := by
  intro id hid
  rw [hdocument]
  exact hs id (hselected ▸ hid)

/-- The ids after a page got a list: those on the list, and those on other pages. -/
theorem mem_componentIds_relisted (h : s.editOf config clock e = some (d, selected, current))
    {p : Page} {cs : List Component} (hrelisted : e.relisted? s.document = some (p, cs))
    {id : String} :
    id ∈ d.componentIds ↔
      id ∈ cs.map Component.id ∨
        ∃ q ∈ s.document.pages, q.id ≠ p.id ∧ id ∈ q.componentIds := by
  cases e with
  | reorderComponents cs' page =>
      obtain ⟨p', hp, heq⟩ := Option.map_eq_some_iff.mp hrelisted
      cases heq
      cases h
      rw [Document.reorderComponents, hp]
      exact Document.mem_componentIds_relist (Document.mem_pages_of_reorderTarget? hp) rfl
  | updatePage page =>
      obtain ⟨old, hold, heq⟩ := Option.map_eq_some_iff.mp hrelisted
      cases heq
      cases h
      obtain ⟨hmem, hid⟩ := Document.mem_pages_of_page? hold
      rw [Document.updatePage, ← hid]
      exact Document.mem_componentIds_relist hmem rfl
  | _ => cases hrelisted

section

variable [Json.Limits]

theorem selectionWithout_of_releases {page : String} (h : s.Releases (.deletePage page)) :
    s.selectionWithout page = none := by
  obtain ⟨p, id, hp, hselected, hid⟩ := h
  simp [selectionWithout, hp, hselected, component?_isSome_iff.mpr hid, Option.filter]

theorem selectionWithout_of_not_releases {page : String} (h : ¬ s.Releases (.deletePage page)) :
    s.selectionWithout page = s.selected := by
  unfold selectionWithout
  cases hselected : s.selected with
  | none => rfl
  | some id =>
      cases hp : s.document.page? page with
      | none => simp [Option.filter]
      | some p =>
          have hid : id ∉ p.componentIds := fun hid => h ⟨p, id, hp, hselected, hid⟩
          have hfound : (p.component? id).isSome = false := by
            rw [Bool.eq_false_iff, ne_eq, component?_isSome_iff]
            exact hid
          simp [Option.filter, hfound]

theorem editOf_selected (h : s.editOf config clock e = some (d, selected, current)) :
    (s.Releases e → selected = none) ∧ (¬ s.Releases e → selected = s.selected) := by
  cases e with
  | deleteComponent id =>
      cases h
      cases hselected : s.selected with
      | none => simp [Releases, hselected]
      | some other =>
          by_cases hid : other = id <;> simp [Releases, hselected, Option.filter, hid]
  | deletePage page =>
      cases h
      exact ⟨selectionWithout_of_releases, selectionWithout_of_not_releases⟩
  | updateSettings change =>
      simp only [editOf] at h
      split at h
      · cases h
      · cases h
        exact ⟨False.elim, fun _ => rfl⟩
  | selectComponent | selectPage | beginImport | completeImport | cancelImport => cases h
  | _ => cases h; exact ⟨False.elim, fun _ => rfl⟩

theorem releases_of_relisted {p : Page} {cs : List Component}
    (hrelisted : e.relisted? s.document = some (p, cs)) : ¬ s.Releases e := by
  cases e with
  | reorderComponents | updatePage => exact False.elim
  | _ => cases hrelisted

/-- No other edit takes a component away and leaves its id selected. -/
theorem mem_componentIds_of_selected (hpages : s.document.pageIds.Nodup)
    (h : s.editOf config clock e = some (d, selected, current))
    (hrelisted : e.relisted? s.document = none) (hreleases : ¬ s.Releases e) {id : String}
    (hselected : s.selected = some id) (hid : id ∈ s.document.componentIds) :
    id ∈ d.componentIds := by
  cases e with
  | updateComponent c =>
      cases h
      rwa [Document.componentIds_updateComponent]
  | deleteComponent other =>
      cases h
      have hne : id ≠ other := fun heq => hreleases (heq ▸ hselected)
      rw [Document.componentIds_deleteComponent]
      simp [hid, hne]
  | addComponent kind page =>
      cases h
      exact Document.mem_componentIds_addComponent hpages hid _ _ _ _
  | reorderComponents cs page =>
      have hnone : s.document.reorderTarget? page = none := by
        simpa [Event.relisted?] using hrelisted
      cases h
      rwa [Document.reorderComponents, hnone]
  | updatePage p =>
      have hnone : s.document.page? p.id = none := by simpa [Event.relisted?] using hrelisted
      have hmissing : p.id ∉ s.document.pageIds := fun hmem => by
        have hpage := Document.hasPage_iff.mpr hmem
        simp [Document.hasPage, hnone] at hpage
      cases h
      rwa [Document.updatePage, Document.mapPage_of_not_mem hmissing]
  | addPage =>
      cases h
      rwa [Document.componentIds_addPage]
  | deletePage page =>
      cases h
      obtain ⟨p, hp, hid⟩ := Document.mem_componentIds_iff.mp hid
      refine Document.mem_componentIds_deletePage.mpr ⟨p, hp, ?_, hid⟩
      -- no other page has the id, so the page that is deleted is the one with the component
      rintro rfl
      have hfound : s.document.page? p.id = some p := Document.page?_of_mem hpages hp
      exact hreleases ⟨p, id, hfound, hselected, hid⟩
  | updateSettings change =>
      simp only [editOf] at h
      split at h
      · cases h
      · next changed hchange =>
        cases h
        rwa [Document.componentIds_eq, Document.updateSettings_pages hchange,
          ← Document.componentIds_eq]
  | selectComponent | selectPage | beginImport | completeImport | cancelImport => cases h

/-! ### One event -/

/-- The selection stands after an edit unless the edit strands it. -/
theorem SelectionStands.edit (hs : s.SelectionStands) (hpages : s.document.pageIds.Nodup)
    (h : s.editOf config clock e = some (d, selected, current)) :
    (s.settled d selected current).SelectionStands ↔ ¬ s.Strands e := by
  rw [selectionStands_iff] at hs ⊢
  simp only [settled_selected, settled_document]
  obtain ⟨hreleased, hkept⟩ := editOf_selected h
  cases hrelisted : e.relisted? s.document with
  | some target =>
      obtain ⟨p, cs⟩ := target
      rw [hkept (releases_of_relisted hrelisted)]
      simp only [mem_componentIds_relisted h hrelisted, Strands, hrelisted]
      grind
  | none =>
      refine iff_of_true ?_ (not_strands hrelisted)
      intro id hid
      by_cases hreleases : s.Releases e
      · rw [hreleased hreleases] at hid
        cases hid
      · rw [hkept hreleases] at hid
        exact mem_componentIds_of_selected hpages h hrelisted hreleases hid (hs id hid)

theorem SelectionStands.step (hs : s.SelectionStands) (hpages : s.document.pageIds.Nodup)
    (he : ∀ id, e ≠ .selectComponent id) (hstep : Step config clock s e next) :
    (next.SelectionStands ↔ ¬ s.Strands e) ∧
      (s.Releases e → next.selected = none) ∧ (¬ s.Releases e → next.selected = s.selected) := by
  cases hstep with
  | selectComponent id => exact absurd rfl (he id)
  | selectPage | beginImport =>
      exact ⟨iff_of_true (hs.keep rfl rfl) (not_strands rfl), False.elim, fun _ => rfl⟩
  | cancelImport =>
      have hstands : ({ s with phase := .editing } : State).syncNavigation.SelectionStands :=
        hs.keep (syncNavigation_document _) (syncNavigation_selected _)
      exact ⟨iff_of_true hstands (not_strands rfl), False.elim,
        fun _ => syncNavigation_selected _⟩
  | rejectImport _ hread =>
      refine ⟨iff_of_true (hs.keep rfl rfl) (not_strands rfl), ?_, fun _ => rfl⟩
      rintro ⟨-, i, hi⟩
      rw [hread] at hi
      cases hi
  | @acceptImport _ imported hphase hread =>
      have hstands : (s.acceptImport imported).SelectionStands := by
        intro id hid
        cases hid
      exact ⟨iff_of_true hstands (not_strands rfl), fun _ => rfl,
        fun h => absurd ⟨hphase, imported, hread⟩ h⟩
  | ignored hignores =>
      have hquiet : e.relisted? s.document = none ∧ ¬ s.Releases e := by
        cases e with
        | selectPage | cancelImport => exact ⟨rfl, False.elim⟩
        | completeImport incoming =>
            have hphase : s.phase ≠ .importing := by simpa [ignores] using hignores
            exact ⟨rfl, fun h => hphase h.1⟩
        | _ => cases hignores
      exact ⟨iff_of_true hs (not_strands hquiet.1), fun h => absurd h hquiet.2, fun _ => rfl⟩
  | edit hedit =>
      rw [settled_selected]
      exact ⟨hs.edit hpages hedit, editOf_selected hedit⟩

/-! ### Runs -/

/-- The pages of the document keep different ids. -/
theorem Step.nodup_pageIds (hstep : Step config clock s e next)
    (hpages : s.document.pageIds.Nodup) : next.document.pageIds.Nodup := by
  cases hstep with
  | selectComponent | selectPage | beginImport | rejectImport | ignored => exact hpages
  | cancelImport => rwa [syncNavigation_document]
  | acceptImport _ hread =>
      obtain ⟨raw, himport, -⟩ := Incoming.read_eq_ok hread
      obtain ⟨fs, payload, -, -, hdoc, -⟩ := Document.importJson_eq_ok himport
      exact (Document.ofJson_valid hdoc).1.pageIds_nodup
  | edit _ hd =>
      rw [settled_document]
      exact hd.pageIds_nodup

theorem SelectionStands.dispatch (hs : s.SelectionStands) (hpages : s.document.pageIds.Nodup)
    (config : Config) {e : TimedEvent} (hstrands : ¬ s.Strands e.event)
    (hselects : ∀ id, e.event = .selectComponent (some id) → s.document.hasComponent id = true) :
    (s.dispatch config e).SelectionStands ∧ (s.dispatch config e).document.pageIds.Nodup := by
  unfold State.dispatch
  split
  · next next hnext =>
    have hstep := reduce_eq_ok_iff.mp hnext
    refine ⟨?_, hstep.nodup_pageIds hpages⟩
    by_cases hselection : ∃ id, e.event = .selectComponent id
    · obtain ⟨id, hid⟩ := hselection
      rw [hid] at hnext
      cases hnext
      rintro id rfl
      exact hselects id hid
    · exact (hs.step hpages (fun id hid => hselection ⟨id, hid⟩) hstep).1.mpr hstrands
  · exact ⟨hs, hpages⟩

theorem SelectionStands.run (hs : s.SelectionStands) (hpages : s.document.pageIds.Nodup)
    (config : Config) {es : List TimedEvent} (hes : SelectsSafely config s es) :
    (s.run config es).SelectionStands := by
  induction es generalizing s with
  | nil => exact hs
  | cons e es ih =>
      obtain ⟨hstrands, hselects, hrest⟩ := hes
      obtain ⟨hnext, hpages'⟩ := hs.dispatch hpages config hstrands hselects
      exact ih hnext hpages' hrest

/-- If the selection stands, it stands after every event but a selection exactly if the event does
not strand it. The event leaves nothing selected if it takes the selected component away, and the
selection as it was otherwise. So the selection stands over every run that strands nothing and
selects components of the document only. That the pages have different ids is what every document
is checked for when it is made; the components need not have different ids. -/
theorem selection_stands_unless_stranded (config : Config) {s : State}
    (hpages : s.document.pageIds.Nodup) (hs : s.SelectionStands) :
    (∀ clock e next, (∀ id, e ≠ .selectComponent id) → s.reduce config clock e = .ok next →
      (next.SelectionStands ↔ ¬ s.Strands e) ∧
        (s.Releases e → next.selected = none) ∧
        (¬ s.Releases e → next.selected = s.selected)) ∧
    ∀ es, SelectsSafely config s es → (s.run config es).SelectionStands := by
  refine ⟨?_, ?_⟩
  · intro clock e next he hnext
    exact hs.step hpages he (reduce_eq_ok_iff.mp hnext)
  · intro es hes
    exact hs.run hpages config hes

end

/-- The note of two pages is selected. -/
def noteSelected : State :=
  { initial Document.sharedNote with selected := some "note" }

/-- The first page gets a list without the note. -/
def leaveOut : Event :=
  .reorderComponents [Document.newComponent "title" "text" 0] none

/-- The second page is emptied. -/
def emptyNews : Event :=
  .updatePage { id := "news" }

/-- The selected note is left out of the first page and still stands on the second. To empty the
second page strands it there, to delete that page leaves nothing selected. -/
theorem note_stranded_on_last_page :
    let s := noteSelected
    let t := s.dispatch {} ⟨0, leaveOut⟩
    let u := t.dispatch {} ⟨0, emptyNews⟩
    let v := t.dispatch {} ⟨0, .deletePage "news"⟩
    s.document.pageIds.Nodup ∧ s.SelectionStands ∧
      SelectsSafely {} s [⟨0, leaveOut⟩] ∧ t.SelectionStands ∧ t.selected = some "note" ∧
      t.Strands emptyNews ∧ ¬ u.SelectionStands ∧ u.selected = some "note" ∧
      t.Releases (.deletePage "news") ∧ v.SelectionStands ∧ v.selected = none := by
  intro s t u v
  have hpages : s.document.pageIds.Nodup := by decide
  have hs : s.SelectionStands := by
    rintro id ⟨⟩
    decide
  have hkept : ¬ s.Strands leaveOut := by
    rintro ⟨id, p, cs, hid, hp, -, hothers⟩
    cases hid
    cases hp
    exact hothers _ (.tail _ (.head _)) (by decide) (by decide)
  have hsafe : SelectsSafely {} s [⟨0, leaveOut⟩] := ⟨hkept, nofun, trivial⟩
  have ht : t.SelectionStands := (selection_stands_unless_stranded {} hpages hs).2 _ hsafe
  have hpages' : t.document.pageIds.Nodup := by decide +kernel
  have hselected : t.selected = some "note" := by decide +kernel
  obtain ⟨news, hnews, hnote⟩ : ∃ p, t.document.page? "news" = some p ∧
      p.componentIds.contains "note" = true :=
    (Option.any_eq_true _ _).mp (by decide +kernel)
  have hstranded : t.Strands emptyNews := by
    refine ⟨"note", news, [], hselected, ?_, nofun, ?_⟩
    · simp [Event.relisted?, emptyNews, hnews]
    · rw [(Document.mem_pages_of_page? hnews).2]
      decide +kernel
  have hreleased : t.Releases (.deletePage "news") :=
    ⟨news, "note", hnews, hselected, by simpa using hnote⟩
  obtain ⟨hstep, -⟩ := selection_stands_unless_stranded {} hpages' ht
  obtain ⟨hu, -, -⟩ := hstep 0 emptyNews u nofun (reduce_eq_ok_dispatch (by decide +kernel))
  obtain ⟨hv, hnone, -⟩ :=
    hstep 0 (.deletePage "news") v nofun (reduce_eq_ok_dispatch (by decide +kernel))
  exact ⟨hpages, hs, hsafe, ht, hselected, hstranded, fun h => hu.mp h hstranded, by decide +kernel,
    hreleased, hv.mpr (not_strands rfl), hnone hreleased⟩

end State

end Editor

end PageBuilder
