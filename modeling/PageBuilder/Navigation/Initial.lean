import PageBuilder.Document.Basic
import PageBuilder.Navigation.History

/-! # Where a preview opens

A stored page comes first if the document has it, then the initial page of the navigation settings,
then the first page. -/

namespace PageBuilder

namespace Document

/-- The page that a preview opens on. -/
def openingPage (d : Document) (stored : Option String) : String :=
  let ids := d.pageIds
  let wanted := [stored, d.navigation.initialPageId].filterMap fun page => page
  match wanted.find? fun page => page != "" && ids.contains page with
  | some page => page
  | none => ids.head?.getD Page.welcome.id

end Document

namespace History

/-- The history of a preview that has just been opened: the pages of the document up to the opening
page. -/
def opening (d : Document) (stored : Option String) : History :=
  walkTo (d.openingPage stored) d.pageIds

end History

end PageBuilder
