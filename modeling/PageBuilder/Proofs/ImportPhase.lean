import PageBuilder.Proofs.EditorSteps

/-! # The import phase does not touch the work

To begin or to cancel an import changes where the author stands and what the editor waits for, and
nothing of the work: two runs that differ in such events alone lead to the same document, selection
and notifications, and the same events are refused.

## Implementation notes

`SameWork` relates two states that may stand on different pages. A step lemma carries it over one
event, and a run is compared with the run without the marks of imports. -/

namespace PageBuilder.Editor

namespace Event

/-- The event begins or cancels an import. -/
def marksImport : Event → Bool
  | .beginImport | .cancelImport => true
  | _ => false

/-- The event says by itself what it does to the work: it completes no import, and if it adds a
component it names the page. -/
def SelfContained : Event → Prop
  | .completeImport _ => False
  | .addComponent _ page => ∃ id, page = some id ∧ id ≠ ""
  | _ => True

end Event

/-- The event belongs to the work: it neither begins nor cancels an import. -/
def TimedEvent.isWork (e : TimedEvent) : Bool :=
  !e.event.marksImport

namespace State

/-- Two states of the same work. The current page, the phase and the navigation settings that were
last followed may differ. -/
structure SameWork (s t : State) : Prop where
  document : s.document = t.document
  selected : s.selected = t.selected
  notifications : s.notifications = t.notifications

/-- The error by which an event is refused, if it is. -/
def refusal? [Json.Limits] (config : Config) (s : State) (e : TimedEvent) : Option Error :=
  match s.reduce config e.clock e.event with
  | .ok _ => none
  | .error error => some error

/-- The events of a run, each with the error by which it was refused, if it was. -/
def outcomes [Json.Limits] (config : Config) :
    State → List TimedEvent → List (TimedEvent × Option Error)
  | _, [] => []
  | s, e :: es => (e, s.refusal? config e) :: outcomes config (s.dispatch config e) es

/-- Two events had the same result: the same error, or states of the same work. -/
def SameResult : Except Error State → Except Error State → Prop
  | .ok s, .ok t => SameWork s t
  | .error e, .error e' => e = e'
  | _, _ => False

variable {config : Config} {clock : Int} {s t : State}

theorem SameWork.refl (s : State) : SameWork s s :=
  ⟨rfl, rfl, rfl⟩

theorem SameWork.symm (h : SameWork s t) : SameWork t s :=
  ⟨h.document.symm, h.selected.symm, h.notifications.symm⟩

theorem SameWork.trans {u : State} (h : SameWork s t) (h' : SameWork t u) : SameWork s u :=
  ⟨h.document.trans h'.document, h.selected.trans h'.selected,
    h.notifications.trans h'.notifications⟩

theorem selfContained_of_mark {e : TimedEvent} (he : e.isWork = false) : e.event.SelfContained := by
  obtain ⟨clock, e⟩ := e
  cases e with
  | beginImport | cancelImport => trivial
  | _ => cases he

/-! ### One event -/

/-- An edited document is refused or taken in whatever page the author stands on. -/
theorem SameWork.edited (h : SameWork s t) (d : Document) (selected : Option String)
    (current current' : String) :
    SameResult (s.edited d selected current) (t.edited d selected current') := by
  unfold State.edited
  split
  · rfl
  · split
    · rfl
    · refine ⟨?_, ?_, ?_⟩
      · simp
      · simp
      · simp [h.notifications]

section

variable [Json.Limits]

/-- An event of the work that says what it does has the same result in both states. -/
theorem SameWork.reduce (h : SameWork s t) {e : Event} (he : e.SelfContained)
    (hwork : e.marksImport = false) :
    SameResult (s.reduce config clock e) (t.reduce config clock e) := by
  have hdocument := h.document
  cases e with
  | selectComponent id => exact ⟨hdocument, rfl, h.notifications⟩
  | selectPage id =>
      have hpage : s.document.hasPage id = t.document.hasPage id := by rw [hdocument]
      simp only [State.reduce, hpage]
      split
      · exact ⟨hdocument, h.selected, h.notifications⟩
      · exact h
  | beginImport | cancelImport => cases hwork
  | completeImport incoming => cases he
  | addComponent kind page =>
      obtain ⟨id, rfl, hid⟩ := he
      have hnamed : (some id).filter (· != "") = some id := by
        rw [Option.filter_eq_some_iff]
        simpa using hid
      simp only [State.reduce, hdocument, h.selected, hnamed, Option.getD_some]
      exact h.edited _ _ _ _
  | updateSettings change =>
      simp only [State.reduce, hdocument, h.selected]
      split
      · rfl
      · exact h.edited _ _ _ _
  | deletePage id =>
      simp only [State.reduce, selectionWithout, hdocument, h.selected]
      exact h.edited _ _ _ _
  | updateComponent | deleteComponent | reorderComponents | updatePage | addPage =>
      simp only [State.reduce, hdocument, h.selected]
      exact h.edited _ _ _ _

/-- To begin or to cancel an import is never refused and leaves the work. -/
theorem exists_reduce_of_marksImport (s : State) {e : Event} (he : e.marksImport = true) :
    ∃ next, s.reduce config clock e = .ok next ∧ SameWork s next := by
  cases e with
  | beginImport => exact ⟨_, rfl, rfl, rfl, rfl⟩
  | cancelImport =>
      refine ⟨_, rfl, ?_⟩
      split
      · exact ⟨by simp, by simp, by simp⟩
      · exact .refl s
  | _ => cases he

theorem SameWork.dispatch (h : SameWork s t) (config : Config) {e : TimedEvent}
    (he : e.event.SelfContained) (hwork : e.isWork = true) :
    SameWork (s.dispatch config e) (t.dispatch config e) ∧
      s.refusal? config e = t.refusal? config e := by
  have hmark : e.event.marksImport = false := by simpa [TimedEvent.isWork] using hwork
  have hresult : SameResult (s.reduce config e.clock e.event) (t.reduce config e.clock e.event) :=
    h.reduce he hmark
  unfold State.dispatch refusal?
  cases hs : s.reduce config e.clock e.event with
  | ok next =>
      cases ht : t.reduce config e.clock e.event with
      | ok next' =>
          rw [hs, ht] at hresult
          exact ⟨hresult, rfl⟩
      | error error => simp [hs, ht, SameResult] at hresult
  | error error =>
      cases ht : t.reduce config e.clock e.event with
      | ok next' => simp [hs, ht, SameResult] at hresult
      | error error' =>
          rw [hs, ht] at hresult
          exact ⟨h, congrArg some hresult⟩

theorem dispatch_of_mark (config : Config) (s : State) {e : TimedEvent} (he : e.isWork = false) :
    SameWork s (s.dispatch config e) ∧ s.refusal? config e = none := by
  have hmark : e.event.marksImport = true := by simpa [TimedEvent.isWork] using he
  obtain ⟨next, hnext, hsame⟩ : ∃ next, s.reduce config e.clock e.event = .ok next ∧
      SameWork s next := s.exists_reduce_of_marksImport hmark
  unfold State.dispatch refusal?
  rw [hnext]
  exact ⟨hsame, rfl⟩

/-! ### Runs -/

/-- A run has the same results as the run without the marks of imports. -/
theorem SameWork.run_filter (h : SameWork s t) (config : Config) {es : List TimedEvent}
    (hes : ∀ e ∈ es, e.event.SelfContained) :
    SameWork (s.run config es) (t.run config (es.filter TimedEvent.isWork)) ∧
      (s.outcomes config es).filter (·.1.isWork) =
        t.outcomes config (es.filter TimedEvent.isWork) := by
  induction es generalizing s t with
  | nil => exact ⟨h, rfl⟩
  | cons e es ih =>
      have hrest : ∀ e' ∈ es, e'.event.SelfContained := fun e' he' =>
        hes e' (List.mem_cons_of_mem e he')
      cases hwork : e.isWork with
      | true =>
          obtain ⟨hnext, hrefusal⟩ := h.dispatch config (hes e List.mem_cons_self) hwork
          obtain ⟨hrun, houtcomes⟩ := ih hnext hrest
          simp only [outcomes, List.filter_cons, hwork, if_true, hrefusal, houtcomes]
          exact ⟨hrun, trivial⟩
      | false =>
          have hnext := (s.dispatch_of_mark config hwork).1.symm.trans h
          obtain ⟨hrun, houtcomes⟩ := ih hnext hrest
          simp only [outcomes, List.filter_cons, hwork, Bool.false_eq_true, if_false]
          exact ⟨hrun, houtcomes⟩

/-- Marks of imports are never refused. -/
theorem outcomes_of_mark {es : List TimedEvent} {o : TimedEvent × Option Error}
    (ho : o ∈ s.outcomes config es) (hmark : o.1.isWork = false) : o.2 = none := by
  induction es generalizing s with
  | nil => cases ho
  | cons e es ih =>
      rcases List.mem_cons.mp ho with rfl | ho
      · exact (s.dispatch_of_mark config hmark).2
      · exact ih ho

/-- Two runs from the same state that differ only in the events that begin or cancel an import lead
to the same document, selection and notifications, and an event of one is refused with an error
exactly if the corresponding event of the other is refused with it. -/
theorem run_work_eq (config : Config) (s : State) {es es' : List TimedEvent}
    (hes : ∀ e ∈ es, e.event.SelfContained)
    (heq : es.filter TimedEvent.isWork = es'.filter TimedEvent.isWork) :
    SameWork (s.run config es) (s.run config es') ∧
      (s.outcomes config es).filter (·.1.isWork) = (s.outcomes config es').filter (·.1.isWork) ∧
      ∀ o ∈ s.outcomes config es ++ s.outcomes config es', o.1.isWork = false → o.2 = none := by
  have hes' : ∀ e ∈ es', e.event.SelfContained := by
    intro e he
    cases hwork : e.isWork with
    | true =>
        have hmem : e ∈ es.filter TimedEvent.isWork := heq ▸ List.mem_filter.mpr ⟨he, hwork⟩
        exact hes e (List.mem_of_mem_filter hmem)
    | false => exact selfContained_of_mark hwork
  obtain ⟨hrun, houtcomes⟩ := (SameWork.refl s).run_filter config hes
  obtain ⟨hrun', houtcomes'⟩ := (SameWork.refl s).run_filter config hes'
  rw [← heq] at hrun' houtcomes'
  refine ⟨hrun.trans hrun'.symm, houtcomes.trans houtcomes'.symm, ?_⟩
  intro o ho hmark
  rcases List.mem_append.mp ho with ho | ho
  · exact outcomes_of_mark ho hmark
  · exact outcomes_of_mark ho hmark

end

/-- The navigation settings change to the first page, a change that names the whole document is
refused, and a component is added to the second page. -/
def secondPageWork : List TimedEvent :=
  [⟨0, .updateSettings [("navigation", .record { initialPageId := some "welcome" })]⟩,
    ⟨0, .updateSettings [("schema", .plain .null)]⟩,
    ⟨1, .addComponent "text" (some "page_0")⟩]

/-- The author who began an import stays on the second page, the other one does not, and the work is
the same. -/
theorem page_differs_work_agrees :
    let s := (initial (Document.initial none)).run {} [⟨0, .addPage⟩]
    let es' := ⟨0, .beginImport⟩ :: secondPageWork
    (∀ e ∈ secondPageWork, e.event.SelfContained) ∧
      secondPageWork.filter TimedEvent.isWork = es'.filter TimedEvent.isWork ∧
      SameWork (s.run {} secondPageWork) (s.run {} es') ∧
      (s.run {} es').document.componentIds = ["comp_1"] ∧
      (s.outcomes {} es').map Prod.snd = [none, none, some (.settings .reservedName), none] ∧
      (s.run {} secondPageWork).currentPageId = "welcome" ∧
      (s.run {} es').currentPageId = "page_0" := by
  intro s es'
  have hes : ∀ e ∈ secondPageWork, e.event.SelfContained := by
    simp [secondPageWork, Event.SelfContained]
  have heq : secondPageWork.filter TimedEvent.isWork = es'.filter TimedEvent.isWork := rfl
  obtain ⟨hsame, -⟩ := run_work_eq {} s hes heq
  exact ⟨hes, heq, hsame, by decide +kernel, by decide +kernel, by decide +kernel,
    by decide +kernel⟩

end State

end PageBuilder.Editor
