import PageBuilder.Editor.Workbench
import PageBuilder.Proofs.EditorRuns

/-!
# Imports are reported once

Every import that is completed while importing leaves one notification, and nothing else leaves
any. A completion takes effect as a whole or not at all, and it is refused only if the document goes
beyond a limit of the reader.
-/

namespace PageBuilder

section

variable [Json.Limits]

namespace Incoming

/-- An imported document opens on its first page. -/
theorem head?_pages_of_read {incoming : Incoming} {imported : Imported}
    (h : incoming.read = .ok imported) :
    imported.document.pages.head?.map Page.id = some imported.initialPageId := by
  obtain ⟨raw, himport, -⟩ := read_eq_ok h
  obtain ⟨fs, payload, -, -, hdoc, hinitial⟩ := Document.importJson_eq_ok himport
  obtain ⟨p, ps, hps⟩ := List.exists_cons_of_ne_nil (Document.ofJson_valid hdoc).2
  simp [hinitial, Document.firstPageId, hps]

theorem report?_of_ok {incoming : Incoming} {imported : Imported}
    (h : incoming.read = .ok imported) :
    incoming.report? = some ⟨.success, "Schema imported successfully!"⟩ := by
  rw [report?, h]

theorem report?_of_fault {incoming : Incoming} {error : ImportError}
    (h : incoming.read = .error (.fault error)) :
    incoming.report? = some ⟨.error, "Error importing schema: " ++ error.reason⟩ := by
  rw [report?, h]

theorem report?_of_overrun {incoming : Incoming} {limit : Json.Overrun}
    (h : incoming.read = .error (.overrun limit)) : incoming.report? = none := by
  rw [report?, h]

end Incoming

namespace Editor

namespace State

variable {config : Config} {clock : Int}

/-- What the completion of an import leaves. Outside the importing phase that is the state itself. A
document that is not imported changes the phase and the notifications alone, and one that is takes
the place of the document with all that hangs on it. -/
structure Completion (s : State) (incoming : Incoming) (next : State) : Prop where
  ignored : s.phase ≠ .importing → next = s
  rejected : s.phase = .importing → ∀ error, incoming.read = .error (.fault error) →
    next = { s with
      phase := .editing
      notifications := s.notifications ++ [⟨.error, "Error importing schema: " ++ error.reason⟩] }
  accepted : s.phase = .importing → ∀ imported, incoming.read = .ok imported →
    next.document = imported.document ∧
      imported.document.pages.head?.map Page.id = some next.currentPageId ∧
      next.selected = none ∧ next.lastNavigation = imported.document.navigation ∧
      next.phase = .editing ∧
      next.notifications = s.notifications ++ [⟨.success, "Schema imported successfully!"⟩]

theorem Step.completion {s next : State} {incoming : Incoming}
    (h : Step config clock s (.completeImport incoming) next) : s.Completion incoming next := by
  cases h with
  | rejectImport hphase hread =>
      refine ⟨fun hother => absurd hphase hother, fun _ error herror => ?_, fun _ i hi => ?_⟩
      · rw [hread] at herror
        cases herror
        rfl
      · rw [hread] at hi
        cases hi
  | acceptImport hphase hread =>
      refine ⟨fun hother => absurd hphase hother, fun _ error herror => ?_, fun _ i hi => ?_⟩
      · rw [hread] at herror
        cases herror
      · rw [hread] at hi
        cases hi
        exact ⟨rfl, Incoming.head?_pages_of_read hread, rfl, rfl, rfl, rfl⟩
  | ignored hignored =>
      have hphase : s.phase ≠ .importing := by simpa [ignores] using hignored
      exact ⟨fun _ => rfl, fun himporting => absurd himporting hphase,
        fun himporting => absurd himporting hphase⟩
  | edit hedit => cases hedit

/-- An event that edits leaves the phase and completes no import. -/
theorem quiet_of_editOf {s : State} {e : Event} (h : (s.editOf config clock e).isSome)
    (phase : Phase) : phase.after e = phase ∧ phase.completes e = [] := by
  cases e with
  | selectComponent | selectPage | beginImport | cancelImport | completeImport => cases h
  | _ => exact ⟨rfl, rfl⟩

/-- What an event does to the phase and the notifications. -/
structure Reports (s : State) (e : Event) (next : State) : Prop where
  phase : next.phase = s.phase.after e
  notifications :
    next.notifications = s.notifications ++ (s.phase.completes e).filterMap Incoming.report?

theorem Step.reports {s next : State} {e : Event} (h : Step config clock s e next) :
    s.Reports e next := by
  cases h with
  | selectComponent | selectPage | beginImport =>
      exact ⟨rfl, (List.append_nil _).symm⟩
  | cancelImport => exact ⟨by simp [Phase.after], by simp [Phase.completes]⟩
  | rejectImport hphase hread =>
      have hreport := Incoming.report?_of_fault hread
      exact ⟨by simp [State.rejectImport, Phase.after, hreport],
        by simp [State.rejectImport, Phase.completes, hphase, hreport]⟩
  | acceptImport hphase hread =>
      have hreport := Incoming.report?_of_ok hread
      exact ⟨by simp [State.acceptImport, Phase.after, hreport],
        by simp [State.acceptImport, Phase.completes, hphase, hreport]⟩
  | ignored hignored =>
      have hediting : ∀ {phase : Phase}, (phase != .importing) = true → phase = .editing := by
        intro phase hphase
        cases phase
        · rfl
        · cases hphase
      cases e with
      | selectPage => exact ⟨rfl, (List.append_nil _).symm⟩
      | cancelImport => exact ⟨hediting hignored, (List.append_nil _).symm⟩
      | completeImport incoming =>
          have hphase : s.phase = .editing := hediting hignored
          exact ⟨by simp [Phase.after, hphase], by simp [Phase.completes, hphase]⟩
      | _ => cases hignored
  | edit hedit =>
      obtain ⟨hafter, hcompletes⟩ := quiet_of_editOf (Option.isSome_of_eq_some hedit) s.phase
      exact ⟨by simp [hafter], by simp [hcompletes]⟩

/-- The completion of an import is refused exactly if the document is beyond a limit. -/
theorem exists_reduce_completeImport_iff {s : State} {incoming : Incoming} :
    (∃ next, s.reduce config clock (.completeImport incoming) = .ok next) ↔
      ∀ limit, ¬ s.Overruns (.completeImport incoming) limit := by
  constructor
  · rintro ⟨next, hnext⟩ limit hover
    rw [hover.reduce_eq] at hnext
    cases hnext
  · intro hover
    obtain ⟨next, hstep⟩ := s.exists_step_completeImport hover
    exact ⟨next, reduce_eq_ok_iff.mpr hstep⟩

/-- An event that is refused would have edited, or it completes an import beyond the limits. -/
theorem Reports.of_refused {s : State} {e : Event} {error : Error}
    (h : s.reduce config clock e = .error error) : s.Reports e s := by
  cases e with
  | selectComponent | selectPage | beginImport | cancelImport => cases h
  | completeImport incoming =>
      by_cases hover : ∃ limit, s.Overruns (.completeImport incoming) limit
      · obtain ⟨limit, ⟨-, hread⟩⟩ := hover
        have hreport := Incoming.report?_of_overrun hread
        refine ⟨by simp [Phase.after, hreport], ?_⟩
        rw [Phase.completes]
        split <;> simp [hreport]
      · obtain ⟨next, hnext⟩ := exists_reduce_completeImport_iff.mpr fun limit hlimit =>
          hover ⟨limit, hlimit⟩
        rw [hnext] at h
        cases h
  | _ => exact ⟨rfl, (List.append_nil _).symm⟩

theorem reports_dispatch (config : Config) (s : State) (e : TimedEvent) :
    s.Reports e.event (s.dispatch config e) := by
  unfold dispatch
  split
  · next next hnext => exact (reduce_eq_ok_iff.mp hnext).reports
  · next error herror => exact .of_refused herror

end State

namespace Workbench

variable {config : Config}

/-- What the calls so far have left: the phase that their events lead to, and a notification for
each import that they completed. -/
structure Reported (events : List Event) (w : Workbench) : Prop where
  phase : w.state.phase = events.foldl Phase.after .editing
  notifications : w.notifications = (Phase.editing.completed events).filterMap Incoming.report?

theorem Reported.event {events : List Event} {w : Workbench} (h : w.Reported events) {e : Event}
    {next : State} (hnext : w.state.Reports e next) :
    ({ w with state := next } : Workbench).Reported (events ++ [e]) := by
  constructor
  · rw [List.foldl_append, ← h.phase]
    exact hnext.phase
  · rw [Phase.completed_append, List.filterMap_append, ← h.notifications, ← h.phase]
    simp [Phase.completed, Workbench.notifications, hnext.notifications]

theorem Reported.perform {events : List Event} {w : Workbench} (h : w.Reported events)
    (config : Config) (call : Call) :
    (w.perform config call).Reported (events ++ call.events) := by
  cases call with
  | dispatch e => exact h.event (w.state.reports_dispatch config e)
  | importDocument incoming =>
      have hbegun : w.state.Reports .beginImport w.state.importing :=
        ⟨rfl, (List.append_nil _).symm⟩
      have hcompleted := w.state.importing.reports_dispatch config ⟨0, .completeImport incoming⟩
      have hdone := (h.event hbegun).event hcompleted
      rw [List.append_assoc] at hdone
      rw [Workbench.perform, State.getD_importDocument config]
      exact hdone
  | drain =>
      rw [Call.events, List.append_nil]
      refine ⟨h.phase, ?_⟩
      rw [← h.notifications]
      exact List.append_nil _

theorem Reported.run {events : List Event} {w : Workbench} (h : w.Reported events)
    (config : Config) (calls : List Call) :
    (w.run config calls).Reported (events ++ calls.flatMap Call.events) := by
  induction calls generalizing events w with
  | nil => simpa [Workbench.run] using h
  | cons call calls ih =>
      rw [List.flatMap_cons, ← List.append_assoc]
      exact ih (h.perform config call)

theorem start_reported (d : Document) : (start d).Reported [] :=
  ⟨rfl, rfl⟩

/-- The notifications that were handed over and those that are pending are together one for each
completion of an import in the importing phase, in order, but for the completions that are refused.
Refused is only the completion of an import beyond a limit of the reader. Any other takes in a
document as a whole or reports it and leaves everything else. -/
theorem imports_reported_once (config : Config) (d : Document) (calls : List Call) :
    ((start d).run config calls).Reported (calls.flatMap Call.events) ∧
      ∀ (s : State) (clock : Int) (incoming : Incoming),
        (∀ limit, s.Overruns (.completeImport incoming) limit →
          s.reduce config clock (.completeImport incoming) = .error (.overrun limit)) ∧
        ((∀ limit, ¬ s.Overruns (.completeImport incoming) limit) →
          ∃ next, s.reduce config clock (.completeImport incoming) = .ok next ∧
            s.Completion incoming next) := by
  constructor
  · exact (start_reported d).run config calls
  · intro s clock incoming
    refine ⟨fun limit hover => hover.reduce_eq config clock, fun hover => ?_⟩
    obtain ⟨next, hstep⟩ := s.exists_step_completeImport hover
    exact ⟨next, State.reduce_eq_ok_iff.mpr hstep, hstep.completion⟩

end Workbench

end Editor

end

namespace Editor.Workbench

/-- A text that breaks off is imported, the notifications are taken, the same text is completed
again outside an import, and a document without pages is imported in two steps. -/
def interleavedCalls : List Call :=
  [.importDocument (.text "["), .drain, .dispatch ⟨0, .completeImport (.text "[")⟩,
    .dispatch ⟨0, .beginImport⟩, .dispatch ⟨0, .addPage⟩,
    .dispatch ⟨0, .completeImport (.value (.obj [("pages", .arr [])]))⟩]

/-- Of the three completions the two in the importing phase are reported. -/
theorem interleaved_imports_reported :
    ((start (Document.initial none)).run {} interleavedCalls).notifications =
      [⟨.error, "Error importing schema: Invalid JSON format"⟩,
        ⟨.success, "Schema imported successfully!"⟩] := by
  rw [(imports_reported_once {} (Document.initial none) interleavedCalls).1.notifications]
  decide +kernel

/-- A document that was begun to be imported is refused, and no notification tells of it. -/
theorem not_every_completion_handled :
    ¬ ∀ (d : Document) (config : Config) (calls : List Call) (clock : Int) (incoming : Incoming),
      d.Openable → ∃ next, ((start d).run config calls).state.reduce config clock
        (.completeImport incoming) = .ok next := by
  intro hall
  have hover : ((start (Document.initial none)).run {} [.dispatch ⟨0, .beginImport⟩]).state.Overruns
      (.completeImport (.text Json.deepText)) .depth :=
    .completeImport rfl Incoming.read_deepText
  exact State.exists_reduce_completeImport_iff.mp
    (hall (Document.initial none) {} [.dispatch ⟨0, .beginImport⟩] 0 (.text Json.deepText)
      (.first none)) _ hover

end Editor.Workbench

end PageBuilder
