import PageBuilder.Document.Page
import PageBuilder.Json.Agreement

/-! # Documents

A document describes a small application: its pages and the settings around them. `Document.Valid`
is what every edit relies on: no id is blank and no two pages share an id. -/

namespace PageBuilder

/-- Where the application opens. -/
structure Navigation where
  guestPageId : Option String := none
  initialPageId : Option String := none
  extras : Fields := []
  deriving Repr

namespace Navigation

/-- Two records agree if they name the same pages and their other fields agree. -/
def agrees (a b : Navigation) : Bool :=
  a.guestPageId == b.guestPageId && a.initialPageId == b.initialPageId &&
    (Json.obj a.extras).agrees (.obj b.extras)

end Navigation

/-- Who made a document, and how often it was revised; null is no revision. -/
structure Metadata where
  revision : Json := .null
  createdBy : Option String := none
  extras : Fields := []
  deriving Repr

/-- A whole document. The payment settings are null if absent. -/
structure Document where
  id : String
  pages : List Page
  version : String := "1.0"
  name : String := ""
  description : String := ""
  slug : String := ""
  isPublic : Bool := false
  isPublished : Bool := false
  publishedAt : Option String := none
  navigation : Navigation := {}
  metadata : Metadata := {}
  createdAt : Option String := none
  updatedAt : Option String := none
  payment : Json := .null
  permissions : Option (List String) := none
  statuses : Option (List String) := none
  extras : Fields := []
  deriving Repr

namespace Document

/-- The first page with the given id. -/
def page? (d : Document) (id : String) : Option Page :=
  d.pages.find? fun p => p.id == id

/-- The ids of the pages in order. -/
def pageIds (d : Document) : List String :=
  d.pages.map Page.id

/-- The components of all pages in order. -/
def components (d : Document) : List Component :=
  d.pages.flatMap Page.components

/-- The ids of all components in order. -/
def componentIds (d : Document) : List String :=
  d.components.map Component.id

/-- The first component with the given id, on any page. -/
def component? (d : Document) (id : String) : Option Component :=
  d.components.find? fun c => c.id == id

/-- The first page that holds a component with the given id. -/
def pageOf? (d : Document) (id : String) : Option Page :=
  d.pages.find? fun p => p.componentIds.contains id

def hasPage (d : Document) (id : String) : Bool :=
  (d.page? id).isSome

def hasComponent (d : Document) (id : String) : Bool :=
  (d.component? id).isSome

/-- The first element that stands a second time in a list. -/
def firstRepeated? (seen : List String) : List String → Option String
  | [] => none
  | x :: xs => if seen.contains x then some x else firstRepeated? (x :: seen) xs

/-- A document whose own id is not blank and whose pages have different ids. -/
def check (d : Document) : Except DocumentError Document :=
  if Text.blank d.id then .error (.blankId .document)
  else
    match firstRepeated? [] d.pageIds with
    | some id => .error (.repeatedPage id)
    | none => .ok d

/-- A document that is made anew with all its records: components, then pages, then the document
itself. -/
def checkRecords (d : Document) : Except DocumentError Document :=
  if d.components.any fun c => Text.blank c.id then .error (.blankId .component)
  else if d.pages.any fun p => Text.blank p.id then .error (.blankId .page)
  else d.check

/-- A new document of the given pages, whose id must not be blank. -/
def create (id : Json) (pages : List Page) (navigation : Navigation) :
    Except DocumentError Document :=
  match identifier? id with
  | none => .error (.blankId .document)
  | some id => check { id, pages, navigation }

/-- No id is blank, and no two pages share an id. -/
structure Valid (d : Document) : Prop where
  id_not_blank : Text.blank d.id = false
  page_id_not_blank : ∀ p ∈ d.pages, Text.blank p.id = false
  component_id_not_blank : ∀ c ∈ d.components, Text.blank c.id = false
  pageIds_nodup : d.pageIds.Nodup

end Document

end PageBuilder
