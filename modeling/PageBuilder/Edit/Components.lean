import PageBuilder.Document.Basic
import PageBuilder.Edit.FreshId

/-! # Edits of components

Edits make a new document and touch only what they name. An edit whose target the document does not
have changes nothing. -/

namespace PageBuilder

namespace Page

/-- The page with other components. -/
def withComponents (p : Page) (cs : List Component) : Page :=
  { p with components := cs }

@[simp] theorem withComponents_id (p : Page) (cs : List Component) :
    (p.withComponents cs).id = p.id := rfl

@[simp] theorem withComponents_components (p : Page) (cs : List Component) :
    (p.withComponents cs).components = cs := rfl

/-- Take the component at `source` out of a list and put it back at `target`, which is moved into
the list. -/
def moved (cs : List Component) (source target : Int) : List Component :=
  match cs[source.toNat]? with
  | none => cs
  | some c =>
    let rest := cs.eraseIdx source.toNat
    rest.insertIdx (max 0 (min target rest.length)).toNat c

end Page

namespace Document

/-- Apply `f` to the pages with the given id. -/
def mapPage (d : Document) (id : String) (f : Page → Page) : Document :=
  { d with pages := d.pages.map fun p => if p.id = id then f p else p }

/-- Apply `f` to the component lists of all pages. -/
def mapComponents (d : Document) (f : List Component → List Component) : Document :=
  { d with pages := d.pages.map fun p => p.withComponents (f p.components) }

/-- A new component of a kind, in a row below `row` others. -/
def newComponent (id kind : String) (row : Nat) : Component where
  id := id
  type := kind
  props := defaultProps kind
  grid := { row := .int row, rowSpan := .int 1 }

/-- Add a component of a kind at the end of a page, under a fresh id. -/
def addComponent (d : Document) (page kind stem : String) (clock : Int) : Document :=
  match d.page? page with
  | none => d
  | some p =>
    let c := newComponent (freshId stem d.componentIds clock) kind p.components.length
    d.mapPage page fun _ => p.withComponents (p.components ++ [c])

/-- Put a component in the place of every component with its id. -/
def updateComponent (d : Document) (c : Component) : Document :=
  d.mapComponents fun cs => cs.map fun old => if old.id = c.id then c else old

/-- Remove every component with the given id. -/
def deleteComponent (d : Document) (id : String) : Document :=
  d.mapComponents fun cs => cs.filter fun c => c.id != id

/-- The page whose components are reordered: the named one, or the first. -/
def reorderTarget? (d : Document) : Option String → Option Page
  | some page => d.page? page
  | none => d.pages.head?

/-- Give a page the listed components. -/
def reorderComponents (d : Document) (cs : List Component) (page : Option String) : Document :=
  match d.reorderTarget? page with
  | none => d
  | some p => d.mapPage p.id fun _ => p.withComponents cs

/-- A position of a component on a page. -/
def hasPosition (d : Document) (page : String) (position : Int) : Bool :=
  (d.page? page).any fun p => 0 ≤ position && position < p.components.length

/-- Move the component at a position of a page to another position. -/
def moveComponent (d : Document) (page : String) (source target : Int) : Document :=
  if d.hasPosition page source then
    match d.page? page with
    | none => d
    | some p => d.reorderComponents (Page.moved p.components source target) (some page)
  else d

end Document

end PageBuilder
