import PageBuilder.Proofs.Agreement
import PageBuilder.Proofs.PendingNavigation

/-! # Why the author moves to another page

An event moves the author only if it selects or adds a page, deletes the page that the author is on,
or changes the navigation settings while nothing is imported. Any other event leaves the author
where they are, whatever it does to the document.

## Implementation notes

What an event asks for, the page to stand on after an edit, and the navigation settings are looked
at one after the other and a later one can override an earlier one. `State.settled_currentPageId` puts
the three together, `Placed.chosen_mem` says that an edit always asks for a page of the edited
document, and `agrees_lastNavigation_eq` that only a change of settings changes them. -/

namespace PageBuilder

/-! ### Navigation settings that agree -/

namespace Navigation

variable {a b c : Navigation}

theorem agrees_iff :
    a.agrees b = true ↔ a.guestPageId = b.guestPageId ∧ a.initialPageId = b.initialPageId ∧
      (Json.obj a.extras).agrees (.obj b.extras) = true := by
  simp [agrees, and_assoc]

theorem WellFormed.agrees_symm (ha : a.WellFormed) (h : a.agrees b = true) :
    b.agrees a = true := by
  obtain ⟨hguest, hinitial, hextras⟩ := agrees_iff.mp h
  exact agrees_iff.mpr ⟨hguest.symm, hinitial.symm, Json.WellFormed.agrees_symm ha hextras⟩

theorem WellFormed.agrees_trans (ha : a.WellFormed) (hab : a.agrees b = true)
    (hbc : b.agrees c = true) : a.agrees c = true := by
  obtain ⟨hguest, hinitial, hextras⟩ := agrees_iff.mp hab
  obtain ⟨hguest', hinitial', hextras'⟩ := agrees_iff.mp hbc
  exact agrees_iff.mpr ⟨hguest.trans hguest', hinitial.trans hinitial',
    Json.WellFormed.agrees_trans ha hextras hextras'⟩

end Navigation

namespace Document

variable {d : Document} {current id : String}

/-- The initial page of the navigation settings if the document has it, and the first page
otherwise. -/
def startPage (d : Document) : String :=
  (d.navigation.initialPageId.filter d.hasPage).getD d.firstPageId

theorem mem_pageIds_deletePage (hne : current ≠ id) (h : current ∈ d.pageIds) :
    current ∈ (d.deletePage id).pageIds := by
  obtain ⟨p, hp, rfl⟩ := List.mem_map.mp h
  have hkept : p ∈ d.pages.filter fun p => p.id != id := by simp [hp, hne]
  have hremaining : (d.pages.filter fun p => p.id != id).isEmpty = false := by
    rw [List.isEmpty_eq_false_iff]
    exact List.ne_nil_of_mem hkept
  unfold deletePage
  split
  · simp only [hremaining]
    exact List.mem_map_of_mem hkept
  · exact h

end Document

namespace Editor

/-- No page of a valid document has an empty id. -/
theorem landingPage_eq_startPage {d : Document} (hd : d.Valid) : landingPage d = d.startPage := by
  unfold landingPage Document.startPage
  cases d.navigation.initialPageId with
  | none => rfl
  | some page =>
      have hempty : d.hasPage "" = false := by
        rw [Bool.eq_false_iff, ne_eq, Document.hasPage_iff]
        exact hd.empty_not_mem_pageIds
      by_cases hpage : page = ""
      · simp [hpage, hempty, Option.filter]
      · cases hhas : d.hasPage page <;> simp [hpage, hhas, Option.filter]

/-- The event is one of the three events of an import. -/
def Event.ofImport : Event → Bool
  | .beginImport | .completeImport _ | .cancelImport => true
  | _ => false

namespace State

variable {config : Config} {clock : Int} {s next : State}

/-- The author stands where the event leads, for the reasons that an event has to move them. -/
def MovedBy (s next : State) : Event → Prop
  | .selectPage id =>
    next.currentPageId = if s.document.hasPage id then id else s.currentPageId
  | .addPage =>
    ∃ p, next.document.pages = s.document.pages ++ [p] ∧ next.currentPageId = p.id
  | .deletePage id =>
    next.currentPageId =
      if id = s.currentPageId then next.document.firstPageId else s.currentPageId
  | .updateSettings _ =>
    next.currentPageId =
      if s.phase = .editing ∧ next.document.navigation.agrees s.document.navigation = false then
        next.document.startPage
      else s.currentPageId
  | _ => next.currentPageId = s.currentPageId

/-! ### The rules of an edit -/

theorem settled_currentPageId (s : State) (d : Document) (selected : Option String)
    (current : String) :
    (s.settled d selected current).currentPageId =
      if s.phase = .editing ∧ d.navigation.agrees s.lastNavigation = false then landingPage d
      else if d.hasPage current then current else d.firstPageId := by
  unfold settled syncNavigation
  cases hphase : s.phase <;> cases hagrees : d.navigation.agrees s.lastNavigation <;>
    simp [hagrees]

theorem settled_lastNavigation (h : s.phase = .importing) (d : Document) (selected : Option String)
    (current : String) : (s.settled d selected current).lastNavigation = s.lastNavigation := by
  simp [settled, h]

/-- An edit asks for a page of the edited document. -/
theorem Placed.chosen_mem (hs : s.Placed) {e : Event} {d : Document} {selected : Option String}
    {current : String} (h : s.editOf config clock e = some (d, selected, current))
    (hpages : d.pages ≠ []) : current ∈ d.pageIds := by
  have hcurrent := hs.current_mem
  cases e with
  | updateComponent c =>
      cases h
      rwa [Document.updateComponent, Document.pageIds_mapComponents]
  | deleteComponent id =>
      cases h
      rwa [Document.deleteComponent, Document.pageIds_mapComponents]
  | addComponent kind page =>
      cases h
      rwa [Document.pageIds_addComponent]
  | reorderComponents cs page =>
      cases h
      rwa [Document.pageIds_reorderComponents]
  | updatePage p =>
      cases h
      rwa [Document.updatePage, Document.pageIds_mapPage fun _ _ => rfl]
  | addPage =>
      cases h
      simp [Document.addPage, Document.pageIds]
  | deletePage id =>
      cases h
      split
      · exact Document.firstPageId_mem hpages
      · next hne => exact Document.mem_pageIds_deletePage hne hcurrent
  | updateSettings change =>
      simp only [State.editOf] at h
      split at h
      · cases h
      · next changed hchange =>
        cases h
        rwa [Document.pageIds, Document.updateSettings_pages hchange]
  | selectComponent | selectPage | beginImport | completeImport | cancelImport => cases h

/-- Only a change of settings changes the navigation settings. -/
theorem editOf_navigation_eq {e : Event} (he : ∀ change, e ≠ .updateSettings change)
    {d : Document} {selected : Option String} {current : String}
    (h : s.editOf config clock e = some (d, selected, current)) :
    d.navigation = s.document.navigation := by
  cases e with
  | updateSettings change => exact absurd rfl (he change)
  | addComponent kind page =>
      cases h
      unfold Document.addComponent
      split <;> rfl
  | reorderComponents cs page =>
      cases h
      unfold Document.reorderComponents
      split <;> rfl
  | deletePage id =>
      cases h
      unfold Document.deletePage
      split <;> rfl
  | selectComponent | selectPage | beginImport | completeImport | cancelImport => cases h
  | _ => cases h; rfl

/-- The settings that were last followed stand for the settings of the document. -/
theorem agrees_lastNavigation_eq (hs : s.document.navigation.WellFormed) (hpending : ¬ s.Pending)
    {n : Navigation} (hn : n.WellFormed) :
    n.agrees s.lastNavigation = n.agrees s.document.navigation := by
  have hfollowed : s.document.navigation.agrees s.lastNavigation = true := by
    simpa [Pending] using hpending
  rw [Bool.eq_iff_iff]
  constructor
  · intro h
    exact hn.agrees_trans h (hs.agrees_symm hfollowed)
  · intro h
    exact hn.agrees_trans h hfollowed

/-- The page after an edit: the page that was asked for, unless a change of the navigation settings
is followed. -/
theorem Placed.settled_chosen (hs : s.Placed) (hnavigation : s.document.navigation.WellFormed)
    (hpending : s.phase = .editing → ¬ s.Pending) {e : Event} (he : e.WellFormed) {d : Document}
    {selected : Option String} {current : String}
    (h : s.editOf config clock e = some (d, selected, current)) (hpages : d.pages ≠ []) :
    (s.settled d selected current).currentPageId =
      if s.phase = .editing ∧ d.navigation.agrees s.document.navigation = false then landingPage d
      else current := by
  have hcurrent : d.hasPage current = true := Document.hasPage_iff.mpr (hs.chosen_mem h hpages)
  rw [settled_currentPageId, if_pos hcurrent]
  by_cases hphase : s.phase = .editing
  · rw [agrees_lastNavigation_eq hnavigation (hpending hphase)
      (editOf_navigation he hnavigation h)]
  · simp [hphase]

theorem Placed.movedBy_edit (hs : s.Placed) (hnavigation : s.document.navigation.WellFormed)
    (hpending : s.phase = .editing → ¬ s.Pending) {e : Event} (he : e.WellFormed) {d : Document}
    {selected : Option String} {current : String}
    (h : s.editOf config clock e = some (d, selected, current)) (hd : d.Valid)
    (hpages : d.pages ≠ []) : s.MovedBy (s.settled d selected current) e := by
  have hchosen := hs.settled_chosen hnavigation hpending he h hpages
  by_cases hsettings : ∃ change, e = .updateSettings change
  · obtain ⟨change, rfl⟩ := hsettings
    have hcurrent : current = s.currentPageId := by
      simp only [State.editOf] at h
      split at h
      · cases h
      · cases h
        rfl
    simp only [MovedBy, settled_document]
    rw [hchosen, landingPage_eq_startPage hd, hcurrent]
  · have hsame := editOf_navigation_eq (fun change hchange => hsettings ⟨change, hchange⟩) h
    rw [hsame, hnavigation.agrees_self, if_neg (by simp)] at hchosen
    cases e with
    | addPage =>
        cases h
        refine ⟨_, congrArg Document.pages (settled_document ..), hchosen.trans ?_⟩
        simp [Document.addPage]
    | deletePage id =>
        cases h
        simp only [MovedBy, settled_document, eq_comm (a := id)]
        exact hchosen
    | updateSettings change => exact absurd ⟨change, rfl⟩ hsettings
    | selectComponent | selectPage | beginImport | completeImport | cancelImport => cases h
    | _ => cases h; exact hchosen

/-! ### Every event -/

section

variable [Json.Limits]

theorem Placed.movedBy_step (hs : s.Placed) (hnavigation : s.document.navigation.WellFormed)
    (hpending : s.phase = .editing → ¬ s.Pending) {e : Event} (he : e.WellFormed)
    (himport : e.ofImport = false) (hstep : Step config clock s e next) :
    s.MovedBy next e ∧ next.phase = s.phase ∧
      (s.phase = .editing → ¬ next.Pending) ∧
      (s.phase = .importing → next.lastNavigation = s.lastNavigation) := by
  cases hstep with
  | selectComponent id => exact ⟨rfl, rfl, hpending, fun _ => rfl⟩
  | selectPage hid => exact ⟨by simp [MovedBy, hid], rfl, hpending, fun _ => rfl⟩
  | beginImport | cancelImport | rejectImport | acceptImport => cases himport
  | ignored hignores =>
      refine ⟨?_, rfl, hpending, fun _ => rfl⟩
      cases e with
      | selectPage id =>
          have hid : s.document.hasPage id = false := by simpa [ignores] using hignores
          simp [MovedBy, hid]
      | cancelImport | completeImport => cases himport
      | _ => cases hignores
  | edit hedit hd hpages =>
      exact ⟨hs.movedBy_edit hnavigation hpending he hedit hd hpages, settled_phase ..,
        fun hphase => not_pending_settled hphase (editOf_navigation he hnavigation hedit) _ _,
        fun hphase => settled_lastNavigation hphase _ _ _⟩

theorem Placed.cancelImport (hs : s.Placed) (hnavigation : s.document.navigation.WellFormed)
    (hphase : s.phase = .importing) :
    ∃ next, s.reduce config clock .cancelImport = .ok next ∧ next.phase = .editing ∧
      next.document = s.document ∧ ¬ next.Pending ∧
      next.currentPageId =
        if s.document.navigation.agrees s.lastNavigation = true then s.currentPageId
        else s.document.startPage := by
  have hsettled : ¬ ({ s with phase := .editing } : State).syncNavigation.Pending :=
    not_pending_syncNavigation hnavigation
  refine ⟨{ s with phase := .editing }.syncNavigation, reduce_eq_ok_iff.mpr (.cancelImport hphase),
    by simp, by simp, hsettled, ?_⟩
  rw [← landingPage_eq_startPage hs.valid]
  unfold State.syncNavigation
  split <;> rfl

/-- The author moves only for one of the reasons of `MovedBy`. Afterwards the navigation settings
are followed again; while a document is imported they are left alone until the import is
cancelled. -/
theorem page_moves_only_for_reasons (config : Config) (clock : Int) {s : State} (hs : s.Placed)
    (hnavigation : s.document.navigation.WellFormed) :
    (∀ e next, e.WellFormed → e.ofImport = false → s.reduce config clock e = .ok next →
      (s.phase = .editing → ¬ s.Pending →
        s.MovedBy next e ∧ next.phase = .editing ∧ ¬ next.Pending) ∧
      (s.phase = .importing →
        s.MovedBy next e ∧ next.phase = .importing ∧ next.lastNavigation = s.lastNavigation)) ∧
    (s.phase = .importing →
      ∃ next, s.reduce config clock .cancelImport = .ok next ∧ next.phase = .editing ∧
        next.document = s.document ∧ ¬ next.Pending ∧
        next.currentPageId =
          if s.document.navigation.agrees s.lastNavigation = true then s.currentPageId
          else s.document.startPage) := by
  refine ⟨fun e next he himport h => ⟨fun hphase hsettled => ?_, fun hphase => ?_⟩,
    hs.cancelImport hnavigation⟩
  · obtain ⟨hmoved, hkept, hfollowed, -⟩ :=
      hs.movedBy_step hnavigation (fun _ => hsettled) he himport (reduce_eq_ok_iff.mp h)
    exact ⟨hmoved, hkept.trans hphase, hfollowed hphase⟩
  · have hpending : s.phase = .editing → ¬ s.Pending := by
      intro hediting
      rw [hphase] at hediting
      cases hediting
    obtain ⟨hmoved, hkept, -, hlast⟩ :=
      hs.movedBy_step hnavigation hpending he himport (reduce_eq_ok_iff.mp h)
    exact ⟨hmoved, hkept.trans hphase, hlast hphase⟩

end

/-- The author is on the second page of two. -/
def onSecondPage : State :=
  (initial (Document.initial none)).run {} [⟨0, .addPage⟩]

/-- The initial page of the navigation settings becomes the first page. -/
def toFirstPage : Event :=
  .updateSettings [("navigation", .record { initialPageId := some "welcome" })]

/-- A change of the navigation settings moves the author to the first page. While a document is
imported the same change leaves the author on the second page until the import is cancelled. -/
theorem settings_move_or_wait :
    let s := onSecondPage
    let t := s.dispatch {} ⟨0, .beginImport⟩
    let s' := s.dispatch {} ⟨0, toFirstPage⟩
    let t' := t.dispatch {} ⟨0, toFirstPage⟩
    s.currentPageId = "page_0" ∧ (s.MovedBy s' toFirstPage ∧ ¬ s'.Pending) ∧
      s'.currentPageId = "welcome" ∧
      (t.MovedBy t' toFirstPage ∧ t'.lastNavigation = t.lastNavigation) ∧
      t'.currentPageId = "page_0" ∧
      ∃ u, t'.reduce {} 0 .cancelImport = .ok u ∧ u.currentPageId = t'.document.startPage ∧
        t'.document.startPage = "welcome" := by
  intro s t s' t'
  have hs : s.Placed := (initial_placed (.first none)).run {} _
  have ht : t.Placed := hs.dispatch {} _
  have hfirst : (Document.initial none).navigation.WellFormed := by
    simp [Navigation.WellFormed, Document.initial]
  have hnavigation : s.document.navigation.WellFormed :=
    run_navigation (s := initial (Document.initial none)) hfirst {} (by simp [Event.WellFormed])
  have hchange : toFirstPage.WellFormed := by
    simp [toFirstPage, Event.WellFormed, SettingsChange.WellFormed, Navigation.WellFormed]
  have hs' : s.reduce {} 0 toFirstPage = .ok s' := reduce_eq_ok_dispatch (by decide +kernel)
  have ht' : t.reduce {} 0 toFirstPage = .ok t' := reduce_eq_ok_dispatch (by decide +kernel)
  obtain ⟨hmoved, -, hsettled⟩ :=
    ((page_moves_only_for_reasons {} 0 hs hnavigation).1 _ _ hchange rfl hs').1 rfl
      (by decide +kernel)
  obtain ⟨hstayed, himporting, hlast⟩ :=
    ((page_moves_only_for_reasons {} 0 ht hnavigation).1 _ _ hchange rfl ht').2 rfl
  have hnavigation' : t'.document.navigation.WellFormed :=
    (reduce_eq_ok_iff.mp ht').navigation hchange hnavigation
  obtain ⟨u, hu, -, -, -, hpage⟩ :=
    (page_moves_only_for_reasons {} 0 (ht.dispatch {} ⟨0, toFirstPage⟩) hnavigation').2 himporting
  refine ⟨by decide +kernel, ⟨hmoved, hsettled⟩, by decide +kernel, ⟨hstayed, hlast⟩,
    by decide +kernel, u, hu, ?_, by decide +kernel⟩
  rw [hpage, if_neg (by decide +kernel)]

end State

end Editor

end PageBuilder
