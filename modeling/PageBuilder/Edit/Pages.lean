import PageBuilder.Edit.Components

/-! # Edits of pages

A document always keeps at least one page: in place of the last page that is deleted stands the
default page. -/

namespace PageBuilder.Document

/-- Add an empty page at the end, under a fresh id. -/
def addPage (d : Document) (stem : String) (clock : Int) : Document :=
  let count := d.pages.length
  let page : Page := {
    id := freshId stem d.pageIds clock
    order := count
    title := "Page " ++ Numeral.text (count + 1) }
  { d with pages := d.pages ++ [page] }

/-- Remove the page with the given id. -/
def deletePage (d : Document) (id : String) : Document :=
  if d.hasPage id then
    let remaining := d.pages.filter fun p => p.id != id
    { d with pages := if remaining.isEmpty then [.welcome] else remaining }
  else d

/-- Put a page in the place of the page with its id. -/
def updatePage (d : Document) (page : Page) : Document :=
  d.mapPage page.id fun _ => page

end PageBuilder.Document
