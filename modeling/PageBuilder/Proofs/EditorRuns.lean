import PageBuilder.Proofs.EditorSteps
import PageBuilder.Proofs.ReaderLimits

/-!
# The editor never loses its page

Every run of the editor stays on a page of a valid document, and in such a state only a change of
settings and the completion of an import beyond the limits of the reader can be refused.

## Implementation notes

`State.reduce` checks the records of an edited document and looks for its first page, so both
refusals are ruled out here by what the edits preserve and not by the form of `reduce`.
-/

namespace PageBuilder

namespace Document

theorem firstPageId_mem {d : Document} (h : d.pages ≠ []) : d.firstPageId ∈ d.pageIds := by
  obtain ⟨p, ps, hps⟩ := List.exists_cons_of_ne_nil h
  simp [firstPageId, pageIds, hps]

theorem Openable.valid [Json.Limits] {d : Document} (h : d.Openable) : d.Valid ∧ d.pages ≠ [] := by
  cases h with
  | read h => exact ofJson_valid h
  | first timestamp => exact ⟨initial_valid timestamp, by simp [initial]⟩

end Document

theorem Incoming.read_deepText :
    (Incoming.text Json.deepText).read = .error (.overrun .depth) := by
  rw [Incoming.read, Document.importText, Json.parse_deepText]
  rfl

namespace Editor

theorem landingPage_mem {d : Document} (h : d.pages ≠ []) : landingPage d ∈ d.pageIds := by
  unfold landingPage
  split
  · split
    · next page hpage =>
      simp only [Bool.and_eq_true] at hpage
      exact Document.hasPage_iff.mp hpage.2
    · exact Document.firstPageId_mem h
  · exact Document.firstPageId_mem h

namespace State

variable {config : Config} {clock : Int}

theorem initial_placed [Json.Limits] {d : Document} (h : d.Openable) : (initial d).Placed :=
  ⟨h.valid.1, h.valid.2, landingPage_mem h.valid.2⟩

theorem Placed.syncNavigation {s : State} (h : s.Placed) : s.syncNavigation.Placed := by
  unfold State.syncNavigation
  split
  · exact h
  · exact ⟨h.valid, h.pages_ne_nil, landingPage_mem h.pages_ne_nil⟩

theorem settled_placed (s : State) {d : Document} (hd : d.Valid) (hpages : d.pages ≠ [])
    (selected : Option String) (current : String) : (s.settled d selected current).Placed := by
  have hnext : ({ s with
      document := d
      selected
      currentPageId := if d.hasPage current then current else d.firstPageId } : State).Placed := by
    refine ⟨hd, hpages, ?_⟩
    dsimp only
    split
    · next h => exact Document.hasPage_iff.mp h
    · exact Document.firstPageId_mem hpages
  unfold settled
  dsimp only
  split
  · exact hnext.syncNavigation
  · exact hnext

section Runs

variable [Json.Limits]

theorem acceptImport_placed (s : State) {incoming : Incoming} {imported : Imported}
    (hread : incoming.read = .ok imported) : (s.acceptImport imported).Placed := by
  obtain ⟨raw, himport, -⟩ := Incoming.read_eq_ok hread
  obtain ⟨fs, payload, -, -, hdoc, hfirst⟩ := Document.importJson_eq_ok himport
  obtain ⟨hvalid, hpages⟩ := Document.ofJson_valid hdoc
  have hcurrent : imported.initialPageId ∈ imported.document.pageIds :=
    hfirst ▸ Document.firstPageId_mem hpages
  exact ⟨hvalid, hpages, hcurrent⟩

/-- Every event that is not refused leaves the author on a page. -/
theorem Placed.step {s next : State} {e : Event} (h : s.Placed)
    (hstep : Step config clock s e next) : next.Placed := by
  cases hstep with
  | selectComponent | beginImport | rejectImport =>
      exact ⟨h.valid, h.pages_ne_nil, h.current_mem⟩
  | selectPage hid => exact ⟨h.valid, h.pages_ne_nil, Document.hasPage_iff.mp hid⟩
  | cancelImport =>
      apply Placed.syncNavigation
      exact ⟨h.valid, h.pages_ne_nil, h.current_mem⟩
  | acceptImport _ hread => exact s.acceptImport_placed hread
  | ignored => exact h
  | edit _ hd hpages => exact settled_placed s hd hpages _ _

theorem Placed.dispatch {s : State} (h : s.Placed) (config : Config) (e : TimedEvent) :
    (s.dispatch config e).Placed := by
  unfold State.dispatch
  split
  · next next hnext => exact h.step (reduce_eq_ok_iff.mp hnext)
  · exact h

/-- A run never leaves the pages of the document. -/
theorem Placed.run {s : State} (h : s.Placed) (config : Config) (es : List TimedEvent) :
    (s.run config es).Placed := by
  induction es generalizing s with
  | nil => exact h
  | cons e es ih => exact ih (h.dispatch config e)

end Runs

/-- What an edit leaves, settings apart, is valid and has a page. -/
theorem Placed.editOf {s : State} (h : s.Placed) {e : Event} (he : e.Constructed) {d : Document}
    {selected : Option String} {current : String}
    (hedit : s.editOf config clock e = some (d, selected, current)) : d.Valid ∧ d.pages ≠ [] := by
  have hv := h.valid
  have hp := h.pages_ne_nil
  cases e with
  | updateComponent c =>
      cases hedit
      exact ⟨hv.updateComponent he, Document.mapComponents_ne_nil hp _⟩
  | deleteComponent id =>
      cases hedit
      exact ⟨hv.deleteComponent id, Document.mapComponents_ne_nil hp _⟩
  | addComponent kind page =>
      cases hedit
      exact ⟨hv.addComponent _ _ _ _, Document.addComponent_ne_nil hp _ _ _ _⟩
  | reorderComponents cs page =>
      cases hedit
      exact ⟨hv.reorderComponents he page, Document.reorderComponents_ne_nil hp cs page⟩
  | updatePage p =>
      cases hedit
      exact ⟨hv.updatePage ⟨he.1, he.2⟩, Document.mapPage_ne_nil hp _ _⟩
  | addPage => cases hedit; exact ⟨hv.addPage _ _, by simp [Document.addPage]⟩
  | deletePage id => cases hedit; exact ⟨hv.deletePage id, Document.deletePage_ne_nil hp id⟩
  | updateSettings change =>
      simp only [State.editOf] at hedit
      split at hedit
      · cases hedit
      · next changed hchange =>
        cases hedit
        exact ⟨hv.updateSettings hchange, Document.updateSettings_ne_nil hp hchange⟩
  | _ => cases hedit

section Refusals

variable [Json.Limits]

/-- The event completes the import of a document beyond a limit of the reader. -/
inductive Overruns (s : State) : Event → Json.Overrun → Prop
  | completeImport {incoming : Incoming} {limit : Json.Overrun} (hphase : s.phase = .importing)
      (hread : incoming.read = .error (.overrun limit)) :
      Overruns s (.completeImport incoming) limit

theorem Overruns.reduce_eq {s : State} {e : Event} {limit : Json.Overrun}
    (h : s.Overruns e limit) (config : Config) (clock : Int) :
    s.reduce config clock e = .error (.overrun limit) := by
  obtain ⟨hphase, hread⟩ := h
  rw [reduce, if_pos hphase, State.completeImport, hread]
  rfl

theorem exists_step_completeImport (s : State) {incoming : Incoming}
    (hover : ∀ limit, ¬ s.Overruns (.completeImport incoming) limit) :
    ∃ next, Step config clock s (.completeImport incoming) next := by
  by_cases hphase : s.phase = .importing
  · cases hread : incoming.read with
    | ok imported => exact ⟨_, .acceptImport hphase hread⟩
    | error halt =>
        cases halt with
        | fault e => exact ⟨_, .rejectImport hphase hread⟩
        | overrun limit => exact absurd (.completeImport hphase hread) (hover limit)
  · exact ⟨s, .ignored (by simpa [ignores] using hphase)⟩

/-- Only a change of settings and an import beyond the limits are refused. -/
theorem Placed.exists_step {s : State} (h : s.Placed) (config : Config) (clock : Int) {e : Event}
    (he : e.Constructed) (hne : ∀ change, e ≠ .updateSettings change)
    (hover : ∀ limit, ¬ s.Overruns e limit) : ∃ next, Step config clock s e next := by
  cases hedit : s.editOf config clock e with
  | some edited =>
      obtain ⟨d, selected, current⟩ := edited
      obtain ⟨hd, hpages⟩ := h.editOf he hedit
      exact ⟨_, .edit hedit hd hpages⟩
  | none =>
      cases e with
      | updateSettings change => exact absurd rfl (hne change)
      | completeImport incoming => exact s.exists_step_completeImport hover
      | selectComponent | selectPage | beginImport | cancelImport =>
          exact ⟨_, reduce_eq_ok_iff.mp rfl⟩
      | _ => cases hedit

/-- In every state that a run of the editor reaches, the author stands on a page of a valid
document. Every event but a change of settings is handled there, with one exception: an import is
not completed, and the event is refused, if the document goes beyond a limit of the reader. A change
of settings that is not refused leaves the author on a page of a valid document. -/
theorem run_placed_and_handled {d : Document} (hd : d.Openable) (config : Config)
    (es : List TimedEvent) :
    let s := (initial d).run config es
    s.Placed ∧
      (∀ clock e, e.Constructed → (∀ change, e ≠ .updateSettings change) →
        (∀ limit, ¬ s.Overruns e limit) →
          ∃ next, s.reduce config clock e = .ok next ∧ next.Placed) ∧
      (∀ clock e limit, s.Overruns e limit →
        s.reduce config clock e = .error (.overrun limit)) ∧
      ∀ clock change next, s.reduce config clock (.updateSettings change) = .ok next →
        next.Placed := by
  intro s
  have hs : s.Placed := (initial_placed hd).run config es
  refine ⟨hs, ?_, ?_, ?_⟩
  · intro clock e he hne hover
    obtain ⟨next, hstep⟩ := hs.exists_step config clock he hne hover
    exact ⟨next, reduce_eq_ok_iff.mpr hstep, hs.step hstep⟩
  · intro clock e limit hover
    exact hover.reduce_eq config clock
  · intro clock change next hnext
    exact hs.step (reduce_eq_ok_iff.mp hnext)

end Refusals

/-- The last page is deleted after an import was rejected: the welcome page stands in. -/
theorem last_page_deleted_placed :
    let s := (initial (Document.initial none)).run {}
      [⟨0, .addPage⟩, ⟨0, .beginImport⟩, ⟨0, .deletePage "welcome"⟩,
        ⟨0, .completeImport (.text "[]")⟩]
    (Document.initial none).Openable ∧ s.Placed ∧ (Event.deletePage "page_0").Constructed ∧
      ∃ next, s.reduce {} 0 (.deletePage "page_0") = .ok next ∧ next.Placed := by
  intro s
  have h := run_placed_and_handled (.first none) {}
    [⟨0, .addPage⟩, ⟨0, .beginImport⟩, ⟨0, .deletePage "welcome"⟩,
      ⟨0, .completeImport (.text "[]")⟩]
  exact ⟨.first none, h.1, trivial, h.2.1 0 (.deletePage "page_0") trivial (by simp) nofun⟩

/-- In a reached state the completion of an import is refused, and the import goes on. -/
theorem not_every_event_handled :
    ¬ ∀ (d : Document) (config : Config) (es : List TimedEvent), d.Openable →
      ∀ (clock : Int) (e : Event), e.Constructed → (∀ change, e ≠ .updateSettings change) →
        ∃ next, ((initial d).run config es).reduce config clock e = .ok next := by
  intro h
  obtain ⟨next, hnext⟩ := h (Document.initial none) {} [⟨0, .beginImport⟩] (.first none) 0
    (.completeImport (.text Json.deepText)) trivial (by simp)
  have hover : ((initial (Document.initial none)).run {} [⟨0, .beginImport⟩]).Overruns
      (.completeImport (.text Json.deepText)) .depth :=
    .completeImport rfl Incoming.read_deepText
  rw [hover.reduce_eq] at hnext
  cases hnext

end State

end Editor

end PageBuilder
