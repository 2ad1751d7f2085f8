import PageBuilder.Editor.Run
import PageBuilder.Proofs.EditValidity

/-!
# What one event does

`State.Step` lists what an event that is not refused does to the state, and `State.reduce` follows
it exactly. Proofs about runs split the cases of `Step` and never unfold `reduce`.
-/

namespace PageBuilder.Editor.State

/-! ### What settling keeps -/

@[simp] theorem syncNavigation_document (s : State) : s.syncNavigation.document = s.document := by
  unfold syncNavigation
  split <;> rfl

@[simp] theorem syncNavigation_phase (s : State) : s.syncNavigation.phase = s.phase := by
  unfold syncNavigation
  split <;> rfl

@[simp] theorem syncNavigation_selected (s : State) : s.syncNavigation.selected = s.selected := by
  unfold syncNavigation
  split <;> rfl

@[simp] theorem syncNavigation_notifications (s : State) :
    s.syncNavigation.notifications = s.notifications := by
  unfold syncNavigation
  split <;> rfl

@[simp] theorem settled_document (s : State) (d : Document) (selected : Option String)
    (current : String) : (s.settled d selected current).document = d := by
  unfold settled
  dsimp only
  split
  · rw [syncNavigation_document]
  · rfl

@[simp] theorem settled_phase (s : State) (d : Document) (selected : Option String)
    (current : String) : (s.settled d selected current).phase = s.phase := by
  unfold settled
  dsimp only
  split
  · rw [syncNavigation_phase]
  · rfl

@[simp] theorem settled_selected (s : State) (d : Document) (selected : Option String)
    (current : String) : (s.settled d selected current).selected = selected := by
  unfold settled
  dsimp only
  split
  · rw [syncNavigation_selected]
  · rfl

@[simp] theorem settled_notifications (s : State) (d : Document) (selected : Option String)
    (current : String) : (s.settled d selected current).notifications = s.notifications := by
  unfold settled
  dsimp only
  split
  · rw [syncNavigation_notifications]
  · rfl

/-! ### Steps -/

/-- What an event that edits makes of the document, with the selection and the page to stand on. -/
def editOf (config : Config) (clock : Int) (s : State) :
    Event → Option (Document × Option String × String)
  | .updateComponent c => some (s.document.updateComponent c, s.selected, s.currentPageId)
  | .deleteComponent id =>
    some (s.document.deleteComponent id, s.selected.filter (· != id), s.currentPageId)
  | .addComponent kind page =>
    let page := (page.filter (· != "")).getD s.currentPageId
    some (s.document.addComponent page kind config.componentStem clock, s.selected,
      s.currentPageId)
  | .reorderComponents cs page =>
    some (s.document.reorderComponents cs page, s.selected, s.currentPageId)
  | .updatePage p => some (s.document.updatePage p, s.selected, s.currentPageId)
  | .addPage =>
    let d := s.document.addPage config.pageStem clock
    some (d, s.selected, (d.pages.getLast?.map Page.id).getD s.currentPageId)
  | .deletePage id =>
    let d := s.document.deletePage id
    some (d, s.selectionWithout id, if s.currentPageId = id then d.firstPageId else s.currentPageId)
  | .updateSettings change =>
    match s.document.updateSettings change with
    | .error _ => none
    | .ok d => some (d, s.selected, s.currentPageId)
  | _ => none

/-- An edit is carried out exactly if it leaves a valid document with a page. -/
theorem edited_eq_ok_iff {s next : State} {d : Document} {selected : Option String}
    {current : String} :
    s.edited d selected current = .ok next ↔
      d.Valid ∧ d.pages ≠ [] ∧ next = s.settled d selected current := by
  unfold edited
  split
  · next e hcheck =>
    have hinvalid : ¬ d.Valid := fun hd => by
      rw [Document.checkRecords_eq_ok_iff.mpr ⟨rfl, hd⟩] at hcheck
      cases hcheck
    simp [hinvalid]
  · next checked hcheck =>
    obtain ⟨rfl, hd⟩ := Document.checkRecords_eq_ok_iff.mp hcheck
    split
    · next hempty =>
      have hpages : checked.pages = [] := by simpa using hempty
      simp [hpages]
    · next hempty =>
      have hpages : checked.pages ≠ [] := by simpa using hempty
      constructor
      · intro h
        cases h
        exact ⟨hd, hpages, rfl⟩
      · rintro ⟨-, -, rfl⟩
        rfl

section Steps

variable [Json.Limits]

/-- The state after an event that is not refused. -/
inductive Step (config : Config) (clock : Int) (s : State) : Event → State → Prop
  | selectComponent (id : Option String) :
      Step config clock s (.selectComponent id) { s with selected := id }
  | selectPage {id : String} (h : s.document.hasPage id = true) :
      Step config clock s (.selectPage id) { s with currentPageId := id }
  | beginImport : Step config clock s .beginImport s.importing
  | cancelImport (h : s.phase = .importing) :
      Step config clock s .cancelImport { s with phase := .editing }.syncNavigation
  | rejectImport {incoming : Incoming} {e : ImportError} (h : s.phase = .importing)
      (hread : incoming.read = .error (.fault e)) :
      Step config clock s (.completeImport incoming) (s.rejectImport e)
  | acceptImport {incoming : Incoming} {imported : Imported} (h : s.phase = .importing)
      (hread : incoming.read = .ok imported) :
      Step config clock s (.completeImport incoming) (s.acceptImport imported)
  | ignored {e : Event} (h : s.ignores e = true) : Step config clock s e s
  | edit {e : Event} {d : Document} {selected : Option String} {current : String}
      (h : s.editOf config clock e = some (d, selected, current)) (hd : d.Valid)
      (hpages : d.pages ≠ []) : Step config clock s e (s.settled d selected current)

theorem reduce_of_editOf {config : Config} {clock : Int} {s : State} {e : Event} {d : Document}
    {selected : Option String} {current : String}
    (h : s.editOf config clock e = some (d, selected, current)) :
    s.reduce config clock e = s.edited d selected current := by
  cases e with
  | updateSettings change =>
      simp only [editOf] at h
      split at h
      · cases h
      · next changed hchange =>
        cases h
        simp only [reduce, hchange]
  | selectComponent | selectPage | beginImport | completeImport | cancelImport => cases h
  | _ => cases h; rfl

theorem Step.of_edited {config : Config} {clock : Int} {s next : State} {e : Event} {d : Document}
    {selected : Option String} {current : String}
    (h : s.editOf config clock e = some (d, selected, current))
    (hnext : s.edited d selected current = .ok next) : Step config clock s e next := by
  obtain ⟨hd, hpages, rfl⟩ := edited_eq_ok_iff.mp hnext
  exact .edit h hd hpages

/-- The steps of the editor are exactly those listed. -/
theorem reduce_eq_ok_iff {config : Config} {clock : Int} {s next : State} {e : Event} :
    s.reduce config clock e = .ok next ↔ Step config clock s e next := by
  constructor
  · intro h
    cases e with
    | selectComponent id => cases h; exact .selectComponent id
    | selectPage id =>
        simp only [reduce, Except.ok.injEq] at h
        subst h
        split
        · next hid => exact .selectPage hid
        · next hid => exact .ignored (by simpa [ignores] using hid)
    | beginImport => cases h; exact .beginImport
    | cancelImport =>
        simp only [reduce, Except.ok.injEq] at h
        subst h
        split
        · next hphase => exact .cancelImport hphase
        · next hphase => exact .ignored (by simpa [ignores] using hphase)
    | completeImport incoming =>
        simp only [reduce] at h
        split at h
        · next hphase =>
          rw [completeImport] at h
          split at h
          · cases h
          · next e hread =>
            cases h
            exact .rejectImport hphase hread
          · next imported hread =>
            cases h
            exact .acceptImport hphase hread
        · next hphase =>
          cases h
          exact .ignored (by simpa [ignores] using hphase)
    | updateSettings change =>
        cases hchange : s.document.updateSettings change with
        | error e => simp [reduce, hchange] at h
        | ok d =>
          simp only [reduce, hchange] at h
          exact .of_edited (by simp [editOf, hchange]) h
    | _ => exact .of_edited rfl h
  · intro h
    cases h with
    | selectComponent | beginImport => rfl
    | selectPage hid => simp [reduce, hid]
    | cancelImport hphase => simp [reduce, hphase]
    | rejectImport hphase hread | acceptImport hphase hread =>
        simp [reduce, hphase, completeImport, hread, Except.mapError]
    | ignored hignores =>
        cases e <;> simp [ignores] at hignores <;> simp [reduce, hignores]
    | edit hedit hd hpages =>
        rw [reduce_of_editOf hedit]
        exact edited_eq_ok_iff.mpr ⟨hd, hpages, rfl⟩

/-- An event that is not refused leads to the state that a run goes on with. -/
theorem reduce_eq_ok_dispatch {config : Config} {clock : Int} {s : State} {e : Event}
    (h : (s.reduce config clock e).isOk = true) :
    s.reduce config clock e = .ok (s.dispatch config ⟨clock, e⟩) := by
  unfold State.dispatch
  cases hreduce : s.reduce config clock e with
  | ok next => rfl
  | error error =>
      rw [hreduce] at h
      cases h

/-- Importing a document at once is to begin the import and to complete it. -/
theorem getD_importDocument (config : Config) (s : State) (incoming : Incoming) :
    (s.importDocument incoming).toOption.getD s.importing =
      s.importing.dispatch config ⟨0, .completeImport incoming⟩ := by
  have hphase : s.importing.phase = .importing := rfl
  rw [importDocument, dispatch, reduce, if_pos hphase]
  cases s.importing.completeImport incoming <;> rfl

end Steps

end PageBuilder.Editor.State
