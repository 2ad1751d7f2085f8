import PageBuilder.Edit.Pages
import PageBuilder.Edit.Settings

/-! # Edits as data

The nine edits of a document in one type, with the function that carries them out and the condition
under which there is something to edit. -/

namespace PageBuilder

/-- An edit of a document. Edits that add something bring the stem of the fresh id. -/
inductive Edit where
  | addComponent (page kind stem : String)
  | updateComponent (component : Component)
  | deleteComponent (id : String)
  | reorderComponents (components : List Component) (page : Option String)
  | moveComponent (page : String) (source target : Int)
  | addPage (stem : String)
  | deletePage (id : String)
  | updatePage (page : Page)
  | updateSettings (change : SettingsChange)
  deriving Repr

namespace Edit

/-- The document has what the edit names. -/
def hasTarget (d : Document) : Edit → Bool
  | .addComponent page _ _ => d.hasPage page
  | .updateComponent c => d.hasComponent c.id
  | .deleteComponent id => d.hasComponent id
  | .reorderComponents _ page => (d.reorderTarget? page).isSome
  | .moveComponent page source _ => d.hasPosition page source
  | .addPage _ => true
  | .deletePage id => d.hasPage id
  | .updatePage p => d.hasPage p.id
  | .updateSettings _ => true

/-- Carry out an edit at the given time. -/
def apply (d : Document) (clock : Int) : Edit → Except SettingsError Document
  | .addComponent page kind stem => .ok (d.addComponent page kind stem clock)
  | .updateComponent c => .ok (d.updateComponent c)
  | .deleteComponent id => .ok (d.deleteComponent id)
  | .reorderComponents cs page => .ok (d.reorderComponents cs page)
  | .moveComponent page source target => .ok (d.moveComponent page source target)
  | .addPage stem => .ok (d.addPage stem clock)
  | .deletePage id => .ok (d.deletePage id)
  | .updatePage p => .ok (d.updatePage p)
  | .updateSettings change => d.updateSettings change

end Edit

end PageBuilder
