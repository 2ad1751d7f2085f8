import Mathlib.Data.List.Basic
import PageBuilder.Editor.Workbench
import PageBuilder.Proofs.EditorRuns
import PageBuilder.Proofs.PageRendering
import PageBuilder.Proofs.PreviewRuns

/-! # Where a preview opens

A preview that an editor opens has walked forward from the first page to the page on which the
author stands, and it shows that page. The editor and the preview agree on where the navigation
settings lead. -/

namespace PageBuilder

namespace Document

/-- The ids of the pages from the first one up to the given one. -/
def pageIdsUpTo (d : Document) (page : String) : List String :=
  d.pageIds.take (d.pageIds.idxOf page + 1)

/-- The visited pages are those from the first page of the document up to the given one: a start of
the pages in which the given one is last and stands nowhere else. -/
structure Walk (d : Document) (page : String) (visited : List String) : Prop where
  eq_pageIdsUpTo : visited = d.pageIdsUpTo page
  isPrefix : visited <+: d.pageIds
  last : visited.getLast? = some page
  first : visited.head? = d.pageIds.head?

end Document

namespace History

theorem takeWhile_ne_eq_take_idxOf (page : String) (pages : List String) :
    pages.takeWhile (· != page) = pages.take (pages.idxOf page) := by
  have hequal : (fun id => !(id != page)) = (· == page) := by
    funext id
    exact Bool.not_not _
  rw [List.takeWhile_eq_take_findIdx_not, hequal]
  rfl

/-- A walk forward visits the pages up to the one that it leads to. -/
theorem toList_walkTo {page : String} {pages : List String} (h : page ∈ pages) :
    (walkTo page pages).toList = pages.take (pages.idxOf page + 1) := by
  have hcontains : pages.contains page = true := by simpa using h
  rw [List.take_add_one, List.getElem?_idxOf h, ← takeWhile_ne_eq_take_idxOf, walkTo,
    if_pos hcontains]
  split
  · next hnone => rw [hnone]; rfl
  · next root rest hbefore => simp [toList, hbefore]

end History

namespace Document

variable {d : Document}

theorem walk_of_mem {page : String} (h : page ∈ d.pageIds) : d.Walk page (d.pageIdsUpTo page) := by
  have hsome : d.pageIds[d.pageIds.idxOf page]? = some page := List.getElem?_idxOf h
  constructor
  · rfl
  · exact List.take_prefix _ _
  · rw [pageIdsUpTo, List.take_add_one, hsome]
    exact List.getLast?_concat
  · rw [pageIdsUpTo, List.head?_take]
    rfl

/-- A walk passes no page twice. -/
theorem Walk.nodup {page : String} {visited : List String} (h : d.Walk page visited)
    (hpages : d.pageIds.Nodup) : visited.Nodup :=
  hpages.sublist h.isPrefix.sublist

theorem firstPageId_eq (d : Document) : d.firstPageId = d.pageIds.head?.getD Page.welcome.id := by
  rw [firstPageId, pageIds, List.head?_map]

/-- A stored page that the document has is opened. -/
theorem openingPage_stored {page : String} (hpage : page ∈ d.pageIds) (hne : page ≠ "") :
    d.openingPage (some page) = page := by
  simp [openingPage, hpage, hne]

theorem openingPage_mem (h : d.pages ≠ []) (stored : Option String) :
    d.openingPage stored ∈ d.pageIds := by
  unfold openingPage
  dsimp only
  split
  · next page hpage =>
    have hfound := List.find?_some hpage
    simp only [Bool.and_eq_true, List.contains_iff_mem] at hfound
    exact hfound.2
  · rw [← firstPageId_eq]
    exact firstPageId_mem h

end Document

namespace History

variable {d : Document}

/-- The history of a preview that opens has walked to the opening page. -/
theorem opening_walk (h : d.pages ≠ []) (stored : Option String) :
    d.Walk (d.openingPage stored) (opening d stored).toList := by
  have hmem := Document.openingPage_mem h stored
  rw [opening, toList_walkTo hmem]
  exact Document.walk_of_mem hmem

end History

namespace Editor

/-- The editor and the preview follow the navigation settings to the same page. -/
theorem landingPage_eq_openingPage (d : Document) : landingPage d = d.openingPage none := by
  have hpage (page : String) : d.hasPage page = d.pageIds.contains page := by
    rw [Bool.eq_iff_iff, Document.hasPage_iff, List.contains_iff_mem]
  unfold landingPage Document.openingPage
  cases hinitial : d.navigation.initialPageId with
  | none => simp [Document.firstPageId_eq]
  | some page =>
      have hwanted : [none, some page].filterMap (fun page => page) = [page] := rfl
      simp only [hpage, Document.firstPageId_eq, hwanted, List.find?_singleton]
      split <;> rfl

/-! ### Editors at work -/

namespace Workbench

/-- Whatever is asked of the editor, the author stands on a page. -/
theorem perform_placed [Json.Limits] {config : Config} {w : Workbench} (h : w.state.Placed)
    (call : Call) : (w.perform config call).state.Placed := by
  cases call with
  | dispatch e => exact h.dispatch config e
  | importDocument incoming =>
      have hbegun : w.state.importing.Placed := ⟨h.valid, h.pages_ne_nil, h.current_mem⟩
      rw [Workbench.perform, State.getD_importDocument config]
      exact hbegun.dispatch config _
  | drain => exact ⟨h.valid, h.pages_ne_nil, h.current_mem⟩

theorem run_placed [Json.Limits] {config : Config} {w : Workbench} (h : w.state.Placed)
    (calls : List Call) : (w.run config calls).state.Placed := by
  induction calls generalizing w with
  | nil => exact h
  | cons call calls ih => exact ih (perform_placed h call)

end Workbench

end Editor

/-! ### Previews -/

/-- The session has walked forward through the document to the page, and shows it. -/
structure Session.OpenedOn [Json.Limits] (s : Session) (d : Document) (page : String) : Prop where
  walk : d.Walk page s.history.toList
  nodup : s.history.toList.Nodup
  existing : ∀ id ∈ s.history.toList, d.hasPage id = true
  current : s.history.current = page
  found : s.view.found = true
  shown : ∀ root, (s.perform .render).1 = .ok (.shown root) → root.kind = .page ∧ root.id = page

namespace Editor

theorem State.Placed.currentPageId_ne_empty {s : State} (h : s.Placed) : s.currentPageId ≠ "" := by
  intro hempty
  exact h.valid.empty_not_mem_pageIds (hempty ▸ h.current_mem)

/-- The preview of an author who stands on a page opens on that page. -/
theorem State.Placed.openPreview [Json.Limits] {s : State} (h : s.Placed) (config : Config) :
    (s.openPreview config).OpenedOn s.document s.currentPageId := by
  have hopening : s.document.openingPage (some s.currentPageId) = s.currentPageId :=
    Document.openingPage_stored h.current_mem h.currentPageId_ne_empty
  have hwalk : s.document.Walk s.currentPageId (s.openPreview config).history.toList := by
    rw [← hopening]
    exact History.opening_walk h.pages_ne_nil _
  have hcurrent : (s.openPreview config).history.current = s.currentPageId := by
    have hlast := hwalk.last
    rw [History.toList_getLast?] at hlast
    exact Option.some.inj hlast
  have hpage : s.document.hasPage s.currentPageId = true := Document.hasPage_iff.mpr h.current_mem
  refine ⟨hwalk, hwalk.nodup h.valid.pageIds_nodup, ?_, hcurrent, ?_, ?_⟩
  · intro id hid
    exact Document.hasPage_iff.mpr (hwalk.isPrefix.subset hid)
  · change s.document.hasPage (s.openPreview config).history.current = true
    rw [hcurrent]
    exact hpage
  · intro root hroot
    have hrefresh : (s.openPreview config).refresh = s.openPreview config :=
      Session.refresh_eq_self rfl
    obtain ⟨p, hp⟩ := Option.isSome_iff_exists.mp hpage
    rw [Session.perform, hrefresh] at hroot
    obtain ⟨n, hrender, hn⟩ := Json.map_ok hroot
    rw [Except.mapError_eq_ok_iff] at hrender
    cases hn
    change View.pageOf _ s.document (s.openPreview config).history.current = .ok root at hrender
    rw [hcurrent, View.pageOf, hp] at hrender
    obtain ⟨hkind, hid, -⟩ := View.page_inSlot hrender
    exact ⟨hkind, hid.trans (Document.mem_pages_of_page? hp).2⟩

/-- Whatever was asked of an editor, a preview that it opens has walked from the first page to the
page on which the author stands and shows that page. On every document with a page, the editor and
the preview follow the navigation settings to the same page, and a preview has walked to the page
that it opens on. -/
theorem previews_open_on_current_page [Json.Limits] :
    (∀ (d : Document) (config : Config) (calls : List Call), d.Openable →
        let s := ((Workbench.start d).run config calls).state
        (s.openPreview config).OpenedOn s.document s.currentPageId) ∧
      ∀ d : Document, d.pages ≠ [] →
        landingPage d = d.openingPage none ∧
          ∀ stored, d.Walk (d.openingPage stored) (History.opening d stored).toList := by
  constructor
  · intro d config calls hd
    exact (Workbench.run_placed (State.initial_placed hd) calls).openPreview config
  · intro d hd
    exact ⟨landingPage_eq_openingPage d, History.opening_walk hd⟩

/-- Two pages are added and a text that breaks off is imported, all in one sitting. -/
def growingCalls : List Call :=
  [.dispatch ⟨7, .addPage⟩, .importDocument (.text "["), .drain, .dispatch ⟨7, .addPage⟩,
    .dispatch ⟨7, .selectPage "page_7"⟩]

/-- A document whose navigation settings lead to a page that it does not have. -/
def danglingDocument : Document where
  id := "app"
  pages := [{ id := "home" }, { id := "news" }]
  navigation := { initialPageId := some "gone" }

/-- The preview of the second of three pages has walked there from the first, and settings that lead
nowhere open the first page unless a stored page is there. -/
theorem second_page_previewed :
    (let s := ((Workbench.start (Document.initial none)).run {} growingCalls).state
     s.document.pageIds = ["welcome", "page_7", "page_8"] ∧
        (s.openPreview {}).OpenedOn s.document "page_7" ∧
        (s.openPreview {}).history.toList = ["welcome", "page_7"]) ∧
      danglingDocument.pages ≠ [] ∧
      landingPage danglingDocument = danglingDocument.openingPage none ∧
      landingPage danglingDocument = "home" ∧
      danglingDocument.Walk "news" (History.opening danglingDocument (some "news")).toList := by
  obtain ⟨hpreview, hlanding⟩ := previews_open_on_current_page
  have hpages : danglingDocument.pages ≠ [] := by simp [danglingDocument]
  obtain ⟨hsame, hwalk⟩ := hlanding danglingDocument hpages
  refine ⟨⟨by decide +kernel, ?_, by decide +kernel⟩, hpages, hsame, by decide +kernel,
    hwalk (some "news")⟩
  have hopened := hpreview (Document.initial none) {} growingCalls (.first none)
  have hcurrent :
      ((Workbench.start (Document.initial none)).run {} growingCalls).state.currentPageId =
        "page_7" := by
    decide +kernel
  exact hcurrent ▸ hopened

end Editor

end PageBuilder
