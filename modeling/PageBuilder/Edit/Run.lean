import PageBuilder.Edit.Basic

/-! # Runs of edits

A run carries out one edit after the other, each at its own time. An edit that is refused leaves the
document as it is, and the run goes on. Two edits put whole lists of components on a page;
`Edit.Separate` is the condition under which these share no id with the rest of the document. -/

namespace PageBuilder

/-- An edit with the time at which it is carried out. -/
structure TimedEdit where
  clock : Int
  edit : Edit
  deriving Repr

namespace Document

/-- The components can stand on the page: their ids differ from each other and from those of the
components on the other pages. -/
structure Admits (d : Document) (page : String) (cs : List Component) : Prop where
  nodup : (cs.map Component.id).Nodup
  elsewhere : ∀ p ∈ d.pages, p.id ≠ page → ∀ c ∈ cs, c.id ∉ p.componentIds

instance (d : Document) (page : String) (cs : List Component) : Decidable (d.Admits page cs) :=
  decidable_of_iff
    ((cs.map Component.id).Nodup ∧
      ∀ p ∈ d.pages, p.id ≠ page → ∀ c ∈ cs, c.id ∉ p.componentIds)
    ⟨fun h => ⟨h.1, h.2⟩, fun h => ⟨h.nodup, h.elsewhere⟩⟩

end Document

/-- The page that the edit puts listed components on, if the document has it, admits them. -/
def Edit.Separate (d : Document) : Edit → Prop
  | .reorderComponents cs page => ∀ p ∈ d.reorderTarget? page, d.Admits p.id cs
  | .updatePage p => d.hasPage p.id = true → d.Admits p.id p.components
  | .addComponent _ _ _ | .updateComponent _ | .deleteComponent _ | .moveComponent _ _ _
  | .addPage _ | .deletePage _ | .updateSettings _ => True

instance (d : Document) : (e : Edit) → Decidable (e.Separate d)
  | .reorderComponents cs page =>
    inferInstanceAs (Decidable (∀ p ∈ d.reorderTarget? page, d.Admits p.id cs))
  | .updatePage p =>
    inferInstanceAs (Decidable (d.hasPage p.id = true → d.Admits p.id p.components))
  | .addComponent _ _ _ | .updateComponent _ | .deleteComponent _ | .moveComponent _ _ _
  | .addPage _ | .deletePage _ | .updateSettings _ => .isTrue trivial

namespace Document

/-- The document after an edit, unchanged if the edit is refused. -/
def perform (d : Document) (e : TimedEdit) : Document :=
  match e.edit.apply d e.clock with
  | .ok next => next
  | .error _ => d

/-- The document after a run. -/
def performAll (d : Document) (es : List TimedEdit) : Document :=
  es.foldl perform d

/-- Every edit of the run is separate in the document that it meets. -/
def SeparateRun : Document → List TimedEdit → Prop
  | _, [] => True
  | d, e :: es => e.edit.Separate d ∧ SeparateRun (d.perform e) es

instance decidableSeparateRun :
    (d : Document) → (es : List TimedEdit) → Decidable (d.SeparateRun es)
  | _, [] => .isTrue trivial
  | d, e :: es =>
    have := decidableSeparateRun (d.perform e) es
    inferInstanceAs (Decidable (_ ∧ _))

end Document

end PageBuilder
