import PageBuilder.Document.Component

/-! # Pages

A page of a document is a list of components with a title and a place in the order of pages. -/

namespace PageBuilder

/-- A page of a document. -/
structure Page where
  id : String
  order : Int := 0
  title : String := ""
  components : List Component := []
  extras : Fields := []
  deriving Repr

namespace Page

/-- The keys of the format. -/
def keys : List String := ["id", "order", "title", "components"]

/-- A new page, whose id must not be blank. -/
def create (id : Json) : Except DocumentError Page :=
  match identifier? id with
  | none => .error (.blankId .page)
  | some id => .ok { id }

/-- The first component with the given id. -/
def component? (p : Page) (id : String) : Option Component :=
  p.components.find? fun c => c.id == id

/-- The ids of the components in order. -/
def componentIds (p : Page) : List String :=
  p.components.map Component.id

/-- The place of the page number `index` in messages. -/
def place (index : Int) : String :=
  "pages[" ++ Numeral.text index ++ "]"

/-- The place of the component number `index` of a page in messages. -/
def componentPlace (pagePlace : String) (index : Nat) : String :=
  pagePlace ++ ".components[" ++ Numeral.text index ++ "]"

/-- Read the components from number `index` on. -/
def readComponents [Json.Limits] (pagePlace : String) :
    Nat → List Json → Except (Json.Halt DocumentError) (List Component)
  | _, [] => .ok []
  | index, raw :: rest =>
    match Component.ofJson (componentPlace pagePlace index) raw with
    | .error e => .error e
    | .ok c =>
      match readComponents pagePlace (index + 1) rest with
      | .error e => .error e
      | .ok cs => .ok (c :: cs)

/-- The stored components of a page; null stands for none. -/
def storedComponents? (fs : Fields) : Option (List Json) :=
  match Fields.value fs "components" with
  | .null => some []
  | v => v.items?

/-- The place of the page in the order of pages, its position unless a whole number is stored. -/
def storedOrder (index : Int) (fs : Fields) : Int :=
  match Fields.value fs "order" with
  | .int n => n
  | _ => index

/-- Read the page number `index`. -/
def ofJson [Json.Limits] (index : Int) : Json → Except (Json.Halt DocumentError) Page
  | .obj fs =>
    match identifier? (Fields.value fs "id") with
    | none => .error (.fault (.missingId (place index)))
    | some id =>
      match storedComponents? fs with
      | none => .error (.fault (.componentsNotAList (place index)))
      | some stored =>
        match readComponents (place index) 0 stored with
        | .error e => .error e
        | .ok components => .ok {
            id
            order := storedOrder index fs
            title := (Fields.value fs "title").displayOrEmpty
            components
            extras := Fields.without fs keys }
  | _ => .error (.fault (.notAnObject (place index)))

/-- Write a page. -/
def toFields (p : Page) : Fields :=
  Fields.merge
    [("id", .str p.id), ("order", .int p.order), ("title", .str p.title),
      ("components", .arr (p.components.map Component.toJson))]
    p.extras

def toJson (p : Page) : Json :=
  .obj p.toFields

/-- The page that a document without pages gets. -/
def welcome : Page := { id := "welcome", title := "Welcome" }

end Page

end PageBuilder
