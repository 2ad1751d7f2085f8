import PageBuilder.Document.Default
import PageBuilder.Edit.Basic

/-! # Documents that edits lead to

Edits start from a document that was read or from the first document. The records that they bring
were read, each on its own, or stand in the document already. -/

namespace PageBuilder

variable [Json.Limits]

/-- A component that was read from a value. -/
def Component.WasRead (c : Component) : Prop :=
  ∃ place raw, raw.WellFormed ∧ ofJson place raw = .ok c

/-- A page that was read from a value. -/
def Page.WasRead (p : Page) : Prop :=
  ∃ index raw, raw.WellFormed ∧ ofJson index raw = .ok p

/-- Navigation settings that were read from a value. -/
def Navigation.WasRead (n : Navigation) : Prop :=
  ∃ raw : Json, raw.WellFormed ∧ n = ofJson raw

/-- The records that an edit brings were read or stand in the document. -/
def Edit.Supplied (d : Document) : Edit → Prop
  | .updateComponent c => c.WasRead ∨ c ∈ d.components
  | .reorderComponents cs _ => ∀ c ∈ cs, c.WasRead ∨ c ∈ d.components
  | .updatePage p => p.WasRead ∨ p ∈ d.pages
  | .updateSettings change =>
    ∀ key n, (key, .record n) ∈ change → n.WasRead ∨ n = d.navigation
  | .addComponent _ _ _ | .deleteComponent _ | .moveComponent _ _ _ | .addPage _
  | .deletePage _ => True

/-- The documents that any number of edits leads to, each at its own time. -/
inductive Document.Reached : Document → Prop
  | read {raw : Json} {d : Document} (hraw : raw.WellFormed) (h : ofJson raw = .ok d) : Reached d
  | first (timestamp : Option String) : Reached (initial timestamp)
  | edit {d next : Document} {e : Edit} (clock : Int) (hd : Reached d) (he : e.Supplied d)
      (h : e.apply d clock = .ok next) : Reached next

end PageBuilder
