import PageBuilder.Editor.State

/-! # Runs of the editor

A run handles one event after the other, each at its own time. An event that is refused leaves the
state as it is, and the run goes on. -/

namespace PageBuilder

namespace Document

/-- A document that an editor can be opened on: one that was read, or the first document. -/
inductive Openable [Json.Limits] : Document → Prop
  | read {raw : Json} {d : Document} (h : ofJson raw = .ok d) : Openable d
  | first (timestamp : Option String) : Openable (initial timestamp)

end Document

namespace Editor

/-- An event with the time at which it is handled. -/
structure TimedEvent where
  clock : Int
  event : Event
  deriving Repr

/-- The records that an event brings were made by their constructors: no id in them is blank. -/
def Event.Constructed : Event → Prop
  | .updateComponent c => Text.blank c.id = false
  | .reorderComponents cs _ => ∀ c ∈ cs, Text.blank c.id = false
  | .updatePage p => Text.blank p.id = false ∧ ∀ c ∈ p.components, Text.blank c.id = false
  | _ => True

namespace State

section

variable [Json.Limits]

/-- The state after an event, unchanged if the event is refused. -/
def dispatch (config : Config) (s : State) (e : TimedEvent) : State :=
  match s.reduce config e.clock e.event with
  | .ok next => next
  | .error _ => s

/-- The state after a run. -/
def run (config : Config) (s : State) (es : List TimedEvent) : State :=
  es.foldl (dispatch config) s

@[simp] theorem run_nil (config : Config) (s : State) : s.run config [] = s := rfl

@[simp] theorem run_append (config : Config) (s : State) (es es' : List TimedEvent) :
    s.run config (es ++ es') = (s.run config es).run config es' :=
  List.foldl_append

theorem run_concat (config : Config) (s : State) (es : List TimedEvent) (e : TimedEvent) :
    s.run config (es ++ [e]) = (s.run config es).dispatch config e := by
  rw [run_append]
  rfl

end

/-- The author stands on a page of a document without blank ids in which no two pages share an
id. -/
structure Placed (s : State) : Prop where
  valid : s.document.Valid
  pages_ne_nil : s.document.pages ≠ []
  current_mem : s.currentPageId ∈ s.document.pageIds

end State

end Editor

end PageBuilder
