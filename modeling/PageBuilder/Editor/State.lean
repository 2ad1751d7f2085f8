import PageBuilder.Config
import PageBuilder.Document.Default
import PageBuilder.Document.Import
import PageBuilder.Edit.Pages
import PageBuilder.Edit.Settings
import PageBuilder.Preview.Execution

/-! # The editor

The state of the editor and how events change it. While a document is being imported, a change of
the navigation settings does not move the author to another page; the move is made when the import
is over. -/

namespace PageBuilder.Editor

inductive Phase where
  | editing
  | importing
  deriving DecidableEq, Repr

def Phase.name : Phase → String
  | .editing => "editing"
  | .importing => "importing"

/-- What the author works on. -/
structure State where
  document : Document
  currentPageId : String
  selected : Option String := none
  phase : Phase := .editing
  /-- The navigation settings that the current page was last chosen by. -/
  lastNavigation : Navigation
  notifications : List Notification := []
  deriving Repr

/-- What the author does. -/
inductive Event where
  | selectComponent (id : Option String)
  | updateComponent (component : Component)
  | deleteComponent (id : String)
  | addComponent (kind : String) (page : Option String)
  | reorderComponents (components : List Component) (page : Option String)
  | selectPage (id : String)
  | updatePage (page : Page)
  | addPage
  | deletePage (id : String)
  | updateSettings (change : SettingsChange)
  | beginImport
  | completeImport (incoming : Incoming)
  | cancelImport
  deriving Repr

/-- Why an event has no effect. -/
inductive Error where
  | settings (error : SettingsError)
  /-- A record of the edited document cannot be made. -/
  | document (error : DocumentError)
  /-- The edited document has no page to stand on. -/
  | noPages
  /-- The document that comes in goes beyond a limit of the reader. -/
  | overrun (limit : Json.Overrun)
  | unknownEvent (name : String)
  deriving DecidableEq, Repr

def Error.message? : Error → Option String
  | .settings e => e.message?
  | .document e => some e.message
  | .noPages | .overrun _ => none
  | .unknownEvent name => some ("unknown editor event: " ++ name)

/-- The page that the navigation settings lead to: the initial page if the document has it, and the
first page otherwise. -/
def landingPage (d : Document) : String :=
  match d.navigation.initialPageId with
  | some page => if page != "" && d.hasPage page then page else d.firstPageId
  | none => d.firstPageId

namespace State

/-- The state in which a document is opened. -/
def initial (d : Document) : State where
  document := d
  currentPageId := landingPage d
  lastNavigation := d.navigation

/-- The current page. -/
def currentPage? (s : State) : Option Page :=
  s.document.page? s.currentPageId

/-- The selected component. -/
def selectedComponent? (s : State) : Option Component :=
  s.selected.bind s.document.component?

/-- Go where the navigation settings lead if they have changed. -/
def syncNavigation (s : State) : State :=
  if s.document.navigation.agrees s.lastNavigation then s
  else { s with
    currentPageId := landingPage s.document
    lastNavigation := s.document.navigation }

/-- The state with an edited document: the current page is one of the document, and the navigation
settings are followed unless a document is being imported. -/
def settled (s : State) (d : Document) (selected : Option String) (current : String) : State :=
  let current := if d.hasPage current then current else d.firstPageId
  let next := { s with document := d, selected, currentPageId := current }
  if next.phase = .editing then next.syncNavigation else next

/-- The state after an edit. The records of the edited document are checked as they are made, and
the document must have a page. -/
def edited (s : State) (d : Document) (selected : Option String) (current : String) :
    Except Error State :=
  match d.checkRecords with
  | .error e => .error (.document e)
  | .ok d => if d.pages.isEmpty then .error .noPages else .ok (s.settled d selected current)

/-- A document is being imported. -/
def importing (s : State) : State :=
  { s with phase := .importing }

/-- The document that was being imported is rejected. -/
def rejectImport (s : State) (e : ImportError) : State :=
  { s with
    phase := .editing
    notifications := s.notifications ++ [⟨.error, "Error importing schema: " ++ e.reason⟩] }

/-- The document that was being imported takes the place of the old one. -/
def acceptImport (s : State) (imported : Imported) : State where
  document := imported.document
  currentPageId := imported.initialPageId
  selected := none
  phase := .editing
  lastNavigation := imported.document.navigation
  notifications := s.notifications ++ [⟨.success, "Schema imported successfully!"⟩]

section

variable [Json.Limits]

/-- Take in a document that was being imported. A limit of the reader is no reason to reject it. -/
def completeImport (s : State) (incoming : Incoming) : Except Json.Overrun State :=
  match incoming.read with
  | .error (.overrun limit) => .error limit
  | .error (.fault e) => .ok (s.rejectImport e)
  | .ok imported => .ok (s.acceptImport imported)

/-- Import a document at once. -/
def importDocument (s : State) (incoming : Incoming) : Except Json.Overrun State :=
  s.importing.completeImport incoming

end

/-- The selection after a page is deleted: lost if it was on that page. -/
def selectionWithout (s : State) (page : String) : Option String :=
  s.selected.filter fun id => !(s.document.page? page).any fun p => (p.component? id).isSome

/-- The state after an event at the given time. -/
def reduce [Json.Limits] (config : Config) (clock : Int) (s : State) : Event → Except Error State
  | .selectComponent id => .ok { s with selected := id }
  | .selectPage id => .ok (if s.document.hasPage id then { s with currentPageId := id } else s)
  | .beginImport => .ok s.importing
  | .cancelImport =>
    .ok (if s.phase = .importing then { s with phase := .editing }.syncNavigation else s)
  | .completeImport incoming =>
    if s.phase = .importing then (s.completeImport incoming).mapError .overrun else .ok s
  | .updateComponent c => s.edited (s.document.updateComponent c) s.selected s.currentPageId
  | .deleteComponent id =>
    s.edited (s.document.deleteComponent id) (s.selected.filter (· != id)) s.currentPageId
  | .addComponent kind page =>
    let page := (page.filter (· != "")).getD s.currentPageId
    s.edited (s.document.addComponent page kind config.componentStem clock) s.selected
      s.currentPageId
  | .reorderComponents cs page =>
    s.edited (s.document.reorderComponents cs page) s.selected s.currentPageId
  | .updatePage p => s.edited (s.document.updatePage p) s.selected s.currentPageId
  | .addPage =>
    let d := s.document.addPage config.pageStem clock
    s.edited d s.selected ((d.pages.getLast?.map Page.id).getD s.currentPageId)
  | .deletePage id =>
    let d := s.document.deletePage id
    let current := if s.currentPageId = id then d.firstPageId else s.currentPageId
    s.edited d (s.selectionWithout id) current
  | .updateSettings change =>
    match s.document.updateSettings change with
    | .error e => .error (.settings e)
    | .ok d => s.edited d s.selected s.currentPageId

/-- The event finds nothing to do in this state. -/
def ignores (s : State) : Event → Bool
  | .selectPage id => !s.document.hasPage id
  | .cancelImport | .completeImport _ => s.phase != .importing
  | _ => false

/-- Take the notifications out of the state. -/
def drain (s : State) : List Notification × State :=
  (s.notifications, { s with notifications := [] })

end State

end PageBuilder.Editor
