import PageBuilder.Editor.Run
import PageBuilder.Preview.Session

/-! # The editor at work

What is asked of an editor: to handle an event, to import a document at once, to hand over its
notifications, or to open a preview. `Phase.completed` tells from the events alone which imports are
completed. -/

namespace PageBuilder

/-- What the author is told of an import that was completed. An import that goes beyond the limits
of the reader is not. -/
def Incoming.report? [Json.Limits] (incoming : Incoming) : Option Notification :=
  match incoming.read with
  | .ok _ => some ⟨.success, "Schema imported successfully!"⟩
  | .error (.fault e) => some ⟨.error, "Error importing schema: " ++ e.reason⟩
  | .error (.overrun _) => none

namespace Editor

namespace Phase

variable [Json.Limits]

/-- The phase after an event. -/
def after (phase : Phase) : Event → Phase
  | .beginImport => .importing
  | .cancelImport => .editing
  | .completeImport incoming => if incoming.report?.isSome then .editing else phase
  | _ => phase

/-- The document that an event completes the import of; outside the importing phase there is
none. -/
def completes (phase : Phase) : Event → List Incoming
  | .completeImport incoming => if phase = .importing then [incoming] else []
  | _ => []

/-- The documents whose import is completed by a list of events, in order. -/
def completed : Phase → List Event → List Incoming
  | _, [] => []
  | phase, e :: es => phase.completes e ++ (phase.after e).completed es

theorem completed_append (phase : Phase) (es es' : List Event) :
    phase.completed (es ++ es') =
      phase.completed es ++ (es.foldl after phase).completed es' := by
  induction es generalizing phase with
  | nil => rfl
  | cons e es ih => simp [completed, ih]

end Phase

/-- Open a preview of the document on the current page. -/
def State.openPreview (config : Config) (s : State) : Session :=
  .start s.document (some s.currentPageId) config

/-- What is asked of an editor that changes it. -/
inductive Call where
  | dispatch (e : TimedEvent)
  | importDocument (incoming : Incoming)
  | drain
  deriving Repr

/-- The events that a call dispatches. -/
def Call.events : Call → List Event
  | .dispatch e => [e.event]
  | .importDocument incoming => [.beginImport, .completeImport incoming]
  | .drain => []

/-- An editor with the notifications that it has handed over so far. -/
structure Workbench where
  state : State
  drained : List Notification := []

namespace Workbench

/-- A document is opened. -/
def start (d : Document) : Workbench :=
  { state := .initial d }

variable [Json.Limits]

/-- Do what is asked. An event that is refused leaves the state as it is, and so a document that is
imported at once may leave the import begun. -/
def perform (config : Config) (w : Workbench) : Call → Workbench
  | .dispatch e => { w with state := w.state.dispatch config e }
  | .importDocument incoming =>
    { w with state := (w.state.importDocument incoming).toOption.getD w.state.importing }
  | .drain => { state := w.state.drain.2, drained := w.drained ++ w.state.drain.1 }

/-- Do one thing after the other. -/
def run (config : Config) (w : Workbench) (calls : List Call) : Workbench :=
  calls.foldl (perform config) w

/-- All notifications in order, those that were handed over before those that are pending. -/
def notifications (w : Workbench) : List Notification :=
  w.drained ++ w.state.notifications

end Workbench

end Editor

end PageBuilder
