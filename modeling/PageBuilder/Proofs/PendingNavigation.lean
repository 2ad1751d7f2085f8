import Mathlib.Data.List.Induction
import PageBuilder.Json.Agreement
import PageBuilder.Proofs.EditorRuns
import PageBuilder.Proofs.ExportImport

/-! # Navigation changes that stay pending

While a document is being imported, a change of the navigation settings is held back. It is followed
when the import is over, with one exception: a rejected document leaves it pending, until the next
edit moves the author. The exception is found exactly, as a condition on the events of a run. -/

namespace PageBuilder

/-! ### A value agrees with itself -/

namespace Json

theorem fieldsAgree_of_get? {fs gs : Fields} (hget : ∀ f ∈ fs, Fields.get? gs f.1 = some f.2)
    (hself : ∀ f ∈ fs, f.2.agrees f.2 = true) : fieldsAgree fs gs = true := by
  induction fs with
  | nil => rfl
  | cons f fs ih =>
      have hfirst := hself f List.mem_cons_self
      have hrest := ih (fun g hg => hget g (List.mem_cons_of_mem f hg))
        (fun g hg => hself g (List.mem_cons_of_mem f hg))
      rw [fieldsAgree, hget f List.mem_cons_self, hrest, Bool.and_true]
      exact hfirst

theorem itemsAgree_self {xs : List Json} (hself : ∀ x ∈ xs, x.agrees x = true) :
    itemsAgree xs xs = true := by
  induction xs with
  | nil => rfl
  | cons x xs ih =>
      have hrest := ih fun y hy => hself y (List.mem_cons_of_mem x hy)
      rw [itemsAgree, hself x List.mem_cons_self, hrest]
      rfl

theorem agrees_plain {v : Json} (hitems : v.items? = none) (hfields : v.fields? = none) :
    v.agrees v = true := by
  cases v with
  | null => rfl
  | bool b => cases b <;> rfl
  | int n => simp [agrees, scalarsAgree, whole?]
  | float x => simp [agrees, scalarsAgree]
  | str s => simp [agrees, scalarsAgree]
  | arr xs => cases hitems
  | obj fs => cases hfields

/-- With distinct keys every field finds itself. -/
theorem WellFormed.agrees_self {v : Json} (h : v.WellFormed) : v.agrees v = true := by
  refine WellFormed.induction (p := fun v => v.agrees v = true) (fun v => agrees_plain)
    (fun xs => itemsAgree_self) (fun fs hkeys hself => ?_) v h
  have hfields := fieldsAgree_of_get? (fun f hf => Fields.get?_of_mem hkeys hf) hself
  simp [agrees, hfields]

end Json

/-- The extra fields of the navigation settings are an object with distinct keys throughout. -/
def Navigation.WellFormed (n : Navigation) : Prop :=
  (Json.obj n.extras).WellFormed

theorem Navigation.WellFormed.agrees_self {n : Navigation} (h : n.WellFormed) :
    n.agrees n = true := by
  have hextras := Json.WellFormed.agrees_self h
  simp [Navigation.agrees, hextras]

theorem Document.Canonical.navigation_wellFormed [Json.Limits] {d : Document}
    (h : d.Canonical) : d.navigation.WellFormed :=
  h.navigation.wellFormed

/-! ### Navigation settings under edits -/

/-- The navigation records of a change of settings are well formed. -/
def SettingsChange.WellFormed (change : SettingsChange) : Prop :=
  ∀ key n, (key, SettingValue.record n) ∈ change → n.WellFormed

namespace SettingsChange

theorem applyAll_navigation {d e : Document} {change : SettingsChange} (hc : change.WellFormed)
    (hd : d.navigation.WellFormed) (h : applyAll d change = .ok e) : e.navigation.WellFormed := by
  rcases (applyAll_eq_ok h).2 with hsame | ⟨key, hmem⟩
  · rw [hsame]
    exact hd
  · exact hc key e.navigation hmem

end SettingsChange

namespace Editor

/-- What an event brings in is well formed. -/
def Event.WellFormed : Event → Prop
  | .updateSettings change => change.WellFormed
  | .completeImport incoming => incoming.WellFormed
  | _ => True

namespace State

variable {config : Config} {clock : Int}

/-- The navigation settings have changed since the current page was chosen by them. -/
def Pending (s : State) : Prop :=
  s.document.navigation.agrees s.lastNavigation = false

instance (s : State) : Decidable s.Pending :=
  inferInstanceAs (Decidable (_ = false))

theorem editOf_navigation {s : State} {e : Event} {d : Document} {selected : Option String}
    {current : String} (he : e.WellFormed) (hs : s.document.navigation.WellFormed)
    (h : s.editOf config clock e = some (d, selected, current)) : d.navigation.WellFormed := by
  cases e with
  | updateSettings change =>
      simp only [editOf] at h
      split at h
      · cases h
      · next changed hchange =>
        cases h
        exact SettingsChange.applyAll_navigation he hs (Document.updateSettings_eq_ok hchange).1
  | addComponent kind page =>
      cases h
      unfold Document.addComponent
      split
      · exact hs
      · exact hs
  | reorderComponents cs page =>
      cases h
      unfold Document.reorderComponents
      split
      · exact hs
      · exact hs
  | deletePage id =>
      cases h
      unfold Document.deletePage
      split <;> exact hs
  | selectComponent | selectPage | beginImport | completeImport | cancelImport => cases h
  | _ => cases h; exact hs

/-- Following the navigation settings leaves nothing pending. -/
theorem not_pending_syncNavigation {s : State} (h : s.document.navigation.WellFormed) :
    ¬ s.syncNavigation.Pending := by
  unfold Pending syncNavigation
  split
  · next hagrees => simp [hagrees]
  · simp [h.agrees_self]

theorem not_pending_settled {s : State} (hphase : s.phase = .editing) {d : Document}
    (hd : d.navigation.WellFormed) (selected : Option String) (current : String) :
    ¬ (s.settled d selected current).Pending := by
  unfold settled
  rw [if_pos hphase]
  exact not_pending_syncNavigation hd

section

variable [Json.Limits]

theorem Step.navigation {s next : State} {e : Event} (hstep : Step config clock s e next)
    (he : e.WellFormed) (hs : s.document.navigation.WellFormed) :
    next.document.navigation.WellFormed := by
  cases hstep with
  | selectComponent | selectPage | beginImport | rejectImport | ignored => exact hs
  | cancelImport => rw [syncNavigation_document]; exact hs
  | acceptImport _ hread => exact (Incoming.read_canonical he hread).1.navigation_wellFormed
  | edit hedit =>
      rw [settled_document]
      exact editOf_navigation he hs hedit

theorem run_navigation {s : State} (hs : s.document.navigation.WellFormed) (config : Config)
    {es : List TimedEvent} (hes : ∀ e ∈ es, e.event.WellFormed) :
    (s.run config es).document.navigation.WellFormed := by
  induction es generalizing s with
  | nil => exact hs
  | cons e es ih =>
      refine ih ?_ fun e' he' => hes e' (List.mem_cons_of_mem e he')
      unfold dispatch
      split
      · next next hnext =>
        exact (reduce_eq_ok_iff.mp hnext).navigation (hes e List.mem_cons_self) hs
      · exact hs

end

end State

/-! ### Events that leave a pending change alone -/

/-- The event neither edits the document nor starts an import. -/
def Event.Idle (d : Document) : Event → Prop
  | .selectComponent _ | .selectPage _ | .cancelImport | .completeImport _ => True
  | .updateSettings change => ∃ error, d.updateSettings change = .error error
  | _ => False

namespace State

variable {config : Config} {clock : Int}

/-- Two states are edited alike if only the selection, the current page and the notifications can
differ. -/
structure EditedAlike (s t : State) : Prop where
  phase : t.phase = .editing
  document : t.document = s.document
  lastNavigation : t.lastNavigation = s.lastNavigation

theorem EditedAlike.pending_iff {s t : State} (h : EditedAlike s t) : t.Pending ↔ s.Pending := by
  rw [Pending, Pending, h.document, h.lastNavigation]

theorem idle_of_ignores {s : State} {e : Event} (h : s.ignores e = true) (d : Document) :
    e.Idle d := by
  cases e <;> trivial

theorem not_pending_initial {d : Document} (h : d.navigation.WellFormed) :
    ¬ (initial d).Pending := by
  have hself : (initial d).document.navigation.agrees (initial d).lastNavigation = true :=
    h.agrees_self
  rw [Pending, hself]
  exact Bool.true_eq_false.mp

section Runs

variable [Json.Limits]

theorem EditedAlike.dispatch {s t : State} (h : EditedAlike s t) (config : Config) {e : TimedEvent}
    (he : e.event.Idle s.document) : EditedAlike s (t.dispatch config e) := by
  have hphase := h.phase
  obtain ⟨clock, e⟩ := e
  cases e with
  | selectComponent id => exact ⟨hphase, h.document, h.lastNavigation⟩
  | selectPage id =>
      simp only [State.dispatch, reduce]
      split <;> exact ⟨hphase, h.document, h.lastNavigation⟩
  | cancelImport =>
      have hsame : t.dispatch config ⟨clock, .cancelImport⟩ = t := by
        simp [State.dispatch, reduce, hphase]
      rw [hsame]
      exact h
  | completeImport incoming =>
      have hsame : t.dispatch config ⟨clock, .completeImport incoming⟩ = t := by
        simp [State.dispatch, reduce, hphase]
      rw [hsame]
      exact h
  | updateSettings change =>
      obtain ⟨error, herror⟩ := he
      rw [← h.document] at herror
      simp only [State.dispatch, reduce, herror]
      exact h
  | _ => cases he

theorem EditedAlike.run {s t : State} (h : EditedAlike s t) (config : Config)
    {es : List TimedEvent} (hes : ∀ e ∈ es, e.event.Idle s.document) :
    EditedAlike s (t.run config es) := by
  induction es generalizing t with
  | nil => exact h
  | cons e es ih =>
      have hfirst := h.dispatch config (hes e List.mem_cons_self)
      exact ih hfirst fun e' he' => hes e' (List.mem_cons_of_mem e he')

theorem EditedAlike.of_rejected {s : State} (hs : s.phase = .importing) (config : Config)
    (clock : Int) {incoming : Incoming} {error : ImportError}
    (h : incoming.read = .error (.fault error)) :
    EditedAlike s (s.dispatch config ⟨clock, .completeImport incoming⟩) := by
  have hdispatch : s.dispatch config ⟨clock, .completeImport incoming⟩ = s.rejectImport error := by
    rw [State.dispatch, reduce_eq_ok_iff.mpr (.rejectImport hs h)]
  rw [hdispatch]
  exact ⟨rfl, rfl, rfl⟩

/-- What the editor refuses is a change of settings that the document refuses, or the completion of
an import. -/
theorem Placed.idle_of_error {s : State} (h : s.Placed) {e : Event} (he : e.Constructed)
    {error : Error} (herror : s.reduce config clock e = .error error) : e.Idle s.document := by
  by_cases hsettings : ∃ change, e = .updateSettings change
  · obtain ⟨change, rfl⟩ := hsettings
    cases hchange : s.document.updateSettings change with
    | error error => exact ⟨error, hchange⟩
    | ok d =>
        have hedit : s.editOf config clock (.updateSettings change) =
            some (d, s.selected, s.currentPageId) := by
          simp [State.editOf, hchange]
        obtain ⟨hd, hpages⟩ := h.editOf he hedit
        rw [reduce_eq_ok_iff.mpr (.edit hedit hd hpages)] at herror
        cases herror
  · by_cases hover : ∃ limit, s.Overruns e limit
    · obtain ⟨limit, ⟨-, -⟩⟩ := hover
      trivial
    · obtain ⟨next, hstep⟩ := h.exists_step config clock he
        (fun change hchange => hsettings ⟨change, hchange⟩)
        (fun limit hlimit => hover ⟨limit, hlimit⟩)
      rw [reduce_eq_ok_iff.mpr hstep] at herror
      cases herror

/-- A run that rejects an import while a change of the navigation settings is pending, and has only
idle events after that. -/
structure LeavesPending (config : Config) (s : State) (es : List TimedEvent)
    (before : List TimedEvent) (clock : Int) (incoming : Incoming) (after : List TimedEvent) :
    Prop where
  split : es = before ++ ⟨clock, .completeImport incoming⟩ :: after
  importing : (s.run config before).phase = .importing
  pending : (s.run config before).Pending
  rejected : ∃ error, incoming.read = .error (.fault error)
  idle : ∀ e ∈ after, e.event.Idle (s.run config before).document

section Leaves

variable {s : State} {es before after : List TimedEvent} {incoming : Incoming}

/-- From the rejection on the state stays as it was held. -/
theorem LeavesPending.editedAlike (h : LeavesPending config s es before clock incoming after) :
    EditedAlike (s.run config before) (s.run config es) := by
  obtain ⟨error, herror⟩ := h.rejected
  have hrejected := EditedAlike.of_rejected h.importing config clock herror
  rw [h.split, run_append]
  exact hrejected.run config h.idle

theorem LeavesPending.concat (h : LeavesPending config s es before clock incoming after)
    {e : TimedEvent} (he : e.event.Idle (s.run config es).document) :
    LeavesPending config s (es ++ [e]) before clock incoming (after ++ [e]) := by
  rw [h.editedAlike.document] at he
  constructor
  · simp [h.split]
  · exact h.importing
  · exact h.pending
  · exact h.rejected
  · intro e' he'
    rcases List.mem_append.mp he' with hafter | hlast
    · exact h.idle e' hafter
    · rw [List.mem_singleton.mp hlast]
      exact he

end Leaves

/-- A step ends in the editing phase with a change pending only if the event was idle there or if it
was the import that was rejected. -/
theorem Step.pending_cases {s next : State} {e : Event} (hstep : Step config clock s e next)
    (he : e.WellFormed) (hs : s.document.navigation.WellFormed) (hphase : next.phase = .editing)
    (hpending : next.Pending) :
    (s.phase = .editing ∧ s.Pending ∧ e.Idle s.document) ∨
      (s.phase = .importing ∧ s.Pending ∧
        ∃ incoming error, e = .completeImport incoming ∧
          incoming.read = .error (.fault error)) := by
  cases hstep with
  | selectComponent | selectPage => exact .inl ⟨hphase, hpending, trivial⟩
  | beginImport => cases hphase
  | cancelImport => exact absurd hpending (not_pending_syncNavigation hs)
  | rejectImport himporting hread => exact .inr ⟨himporting, hpending, _, _, rfl, hread⟩
  | acceptImport _ hread =>
      have hcanonical := (Incoming.read_canonical he hread).1
      exact absurd hcanonical.navigation_wellFormed.agrees_self (Bool.eq_false_iff.mp hpending)
  | ignored hignores => exact .inl ⟨hphase, hpending, idle_of_ignores hignores _⟩
  | edit hedit =>
      rw [settled_phase] at hphase
      exact absurd hpending (not_pending_settled hphase (editOf_navigation he hs hedit) _ _)

/-- The same for an event that may be refused. -/
theorem Placed.dispatch_pending_cases {s : State} (h : s.Placed)
    (hs : s.document.navigation.WellFormed) {e : TimedEvent} (he : e.event.Constructed)
    (hwf : e.event.WellFormed) (hphase : (s.dispatch config e).phase = .editing)
    (hpending : (s.dispatch config e).Pending) :
    (s.phase = .editing ∧ s.Pending ∧ e.event.Idle s.document) ∨
      (s.phase = .importing ∧ s.Pending ∧
        ∃ incoming error, e.event = .completeImport incoming ∧
          incoming.read = .error (.fault error)) := by
  unfold State.dispatch at hphase hpending
  split at hphase
  · next next hnext =>
    simp only [hnext] at hpending
    exact (reduce_eq_ok_iff.mp hnext).pending_cases hwf hs hphase hpending
  · next error herror =>
    simp only [herror] at hpending
    exact .inl ⟨hphase, hpending, h.idle_of_error he herror⟩

/-- A pending change in the editing phase was left there by a rejected import. The induction is on
the run from its end. -/
theorem exists_leavesPending {s : State} (hs : s.Placed)
    (hnavigation : s.document.navigation.WellFormed) (hsettled : ¬ s.Pending)
    {es : List TimedEvent}
    (hes : ∀ e ∈ es, e.event.Constructed ∧ e.event.WellFormed)
    (hphase : (s.run config es).phase = .editing) (hpending : (s.run config es).Pending) :
    ∃ before clock incoming after, LeavesPending config s es before clock incoming after := by
  induction es using List.reverseRecOn with
  | nil => exact absurd hpending hsettled
  | append_singleton es e ih =>
      have hes' : ∀ e ∈ es, e.event.Constructed ∧ e.event.WellFormed :=
        fun e' he' => hes e' (List.mem_append_left [e] he')
      obtain ⟨hconstructed, hwf⟩ := hes e (List.mem_append_right es List.mem_cons_self)
      have hrun := run_navigation hnavigation config fun e' he' => (hes' e' he').2
      rw [run_concat] at hphase hpending
      rcases (hs.run config es).dispatch_pending_cases hrun hconstructed hwf hphase hpending with
        ⟨hediting, hstill, hidle⟩ | ⟨himporting, hheld, incoming, error, hevent, hread⟩
      · obtain ⟨before, clock, incoming, after, h⟩ := ih hes' hediting hstill
        exact ⟨before, clock, incoming, after ++ [e], h.concat hidle⟩
      · obtain ⟨clock, event⟩ := e
        cases hevent
        exact ⟨es, clock, incoming, [], rfl, himporting, hheld, ⟨error, hread⟩, by simp⟩

/-- A run ends in the editing phase with a change of the navigation settings pending exactly if it
rejected an import while the change was pending and had only idle events after that. -/
theorem run_pending_iff {d : Document} (hd : d.Openable) (hnavigation : d.navigation.WellFormed)
    (config : Config) {es : List TimedEvent}
    (hes : ∀ e ∈ es, e.event.Constructed ∧ e.event.WellFormed) :
    (((initial d).run config es).phase = .editing ∧ ((initial d).run config es).Pending) ↔
      ∃ before clock incoming after,
        LeavesPending config (initial d) es before clock incoming after := by
  constructor
  · rintro ⟨hphase, hpending⟩
    exact exists_leavesPending (initial_placed hd) hnavigation (not_pending_initial hnavigation) hes
      hphase hpending
  · rintro ⟨before, clock, incoming, after, h⟩
    exact ⟨h.editedAlike.phase, h.editedAlike.pending_iff.mpr h.pending⟩

end Runs

/-- The author is on the second page when an import is rejected that held back a change to the
first. -/
def rejectedRun : List TimedEvent :=
  [⟨0, .addPage⟩, ⟨0, .beginImport⟩,
    ⟨0, .updateSettings [("navigation", .record { initialPageId := some "welcome" })]⟩,
    ⟨0, .completeImport (.value .null)⟩]

theorem rejectedRun_wellFormed : ∀ e ∈ rejectedRun, e.event.Constructed ∧ e.event.WellFormed := by
  simp [rejectedRun, Event.Constructed, Event.WellFormed, SettingsChange.WellFormed,
    Navigation.WellFormed, Incoming.WellFormed]

/-- The change stays pending after the rejection, and adding a component moves the author. -/
theorem later_edit_moves_author :
    let s := (initial (Document.initial none)).run {} rejectedRun
    (s.phase = .editing ∧ s.Pending) ∧ s.currentPageId = "page_0" ∧
      (s.dispatch {} ⟨0, .addComponent "text" none⟩).currentPageId = "welcome" := by
  refine ⟨(run_pending_iff (.first none) ?_ {} rejectedRun_wellFormed).mpr ?_, by decide +kernel,
    by decide +kernel⟩
  · simp [Navigation.WellFormed, Document.initial]
  · exact ⟨rejectedRun.take 3, 0, .value .null, [], rfl, by decide +kernel, by decide +kernel,
      ⟨_, rfl⟩, by simp⟩

/-- Not every run that ends in the editing phase has followed the navigation settings. -/
theorem not_always_followed :
    ¬ ∀ (d : Document) (config : Config) (es : List TimedEvent), d.Openable →
      d.navigation.WellFormed → (∀ e ∈ es, e.event.Constructed ∧ e.event.WellFormed) →
      ((initial d).run config es).phase = .editing → ¬ ((initial d).run config es).Pending := by
  intro hall
  have hnavigation : (Document.initial none).navigation.WellFormed := by
    simp [Navigation.WellFormed, Document.initial]
  exact hall (Document.initial none) {} rejectedRun (.first none) hnavigation
    rejectedRun_wellFormed (by decide +kernel) (by decide +kernel)

end State

end Editor

end PageBuilder
