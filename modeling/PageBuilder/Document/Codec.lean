import PageBuilder.Document.Basic

/-! # Reading and writing documents

`Document.ofJson` reads a document leniently: texts may be given as other values, unknown keys are
kept, and a document without pages gets one. `Document.toJson` writes every field, the unknown keys
last. -/

namespace PageBuilder

/-- A field that is written only if it has a value. -/
def textField (key : String) (v : Option String) : Fields :=
  v.elim [] fun s => [(key, .str s)]

namespace Navigation

def keys : List String := ["guestPageId", "initialPageId"]

/-- Read the navigation settings; a value that is no object counts as empty. -/
def ofJson (raw : Json) : Navigation :=
  let fs := raw.fields?.getD []
  { guestPageId := (Fields.value fs "guestPageId").displayUnlessNull?
    initialPageId := (Fields.value fs "initialPageId").displayUnlessNull?
    extras := Fields.without fs keys }

def toFields (n : Navigation) : Fields :=
  Fields.merge (textField "guestPageId" n.guestPageId ++ textField "initialPageId" n.initialPageId)
    n.extras

end Navigation

namespace Metadata

def keys : List String := ["revision", "createdBy"]

/-- Read the metadata; a value that is no object counts as empty. -/
def ofJson (raw : Json) : Metadata :=
  let fs := raw.fields?.getD []
  { revision := Fields.value fs "revision"
    createdBy := (Fields.value fs "createdBy").displayUnlessNull?
    extras := Fields.without fs keys }

def toFields (m : Metadata) : Fields :=
  let revision := if m.revision.isNull then [] else [("revision", m.revision)]
  Fields.merge (revision ++ textField "createdBy" m.createdBy) m.extras

end Metadata

namespace Document

/-- The keys of the format. -/
def keys : List String :=
  ["id", "version", "name", "description", "slug", "is_public", "is_published", "published_at",
    "navigation", "pages", "metadata", "created_at", "updated_at", "payment", "permissions",
    "statuses"]

/-- The id of a document that brings none. -/
def defaultId : String := "builder-app"

/-- Read the pages from number `index` on. -/
def readPages [Json.Limits] : Nat → List Json → Except (Json.Halt DocumentError) (List Page)
  | _, [] => .ok []
  | index, raw :: rest =>
    match Page.ofJson index raw with
    | .error e => .error e
    | .ok p =>
      match readPages (index + 1) rest with
      | .error e => .error e
      | .ok ps => .ok (p :: ps)

/-- The pages of a document that has at least one. -/
def withWelcome (pages : List Page) : List Page :=
  if pages.isEmpty then [.welcome] else pages

/-- Read a list of labels; null is absent and a single text is a list of one. -/
def readLabels : Json → Except DocumentError (Option (List String))
  | .null => .ok none
  | .str s => .ok (some [s])
  | .arr xs => .ok (some (xs.map Json.display))
  | _ => .error .labelsNotAList

/-- The id of a document: the first of its id, its slug and the default that counts as yes. -/
def storedId (fs : Fields) : String :=
  (([Fields.value fs "id", Fields.value fs "slug"].find? Json.truthy).getD (.str defaultId)).display

/-- The document that the fields describe, beside its pages and labels. -/
def ofFields (fs : Fields) (pages : List Page) (permissions statuses : Option (List String)) :
    Document where
  id := storedId fs
  pages := pages
  version := (Fields.value fs "version").displayUnlessNull?.getD "1.0"
  name := (Fields.value fs "name").displayOrEmpty
  description := (Fields.value fs "description").displayOrEmpty
  slug := (Fields.value fs "slug").displayOrEmpty
  isPublic := (Fields.value fs "is_public").truthy
  isPublished := (Fields.value fs "is_published").truthy
  publishedAt := (Fields.value fs "published_at").displayUnlessNull?
  navigation := .ofJson (Fields.value fs "navigation")
  metadata := .ofJson (Fields.value fs "metadata")
  createdAt := (Fields.value fs "created_at").displayUnlessNull?
  updatedAt := (Fields.value fs "updated_at").displayUnlessNull?
  payment := Fields.value fs "payment"
  permissions := permissions
  statuses := statuses
  extras := Fields.without fs keys

/-- Read a document. -/
def ofJson [Json.Limits] : Json → Except (Json.Halt DocumentError) Document
  | .obj fs =>
    match (Fields.value fs "pages").items? with
    | none => .error (.fault .pagesNotAList)
    | some stored =>
      match readPages 0 stored with
      | .error e => .error e
      | .ok pages =>
        match readLabels (Fields.value fs "permissions") with
        | .error e => .error (.fault e)
        | .ok permissions =>
          match readLabels (Fields.value fs "statuses") with
          | .error e => .error (.fault e)
          | .ok statuses =>
            (check (ofFields fs (withWelcome pages) permissions statuses)).mapError .fault
  | _ => .error (.fault .notADocument)

/-- Labels, written if they are present. -/
def labelField (key : String) (labels : Option (List String)) : Fields :=
  labels.elim [] fun ls => [(key, .arr (ls.map Json.str))]

/-- Write a document. -/
def toFields (d : Document) : Fields :=
  let payment := if d.payment.isNull then [] else [("payment", d.payment)]
  let own := [
      ("id", Json.str d.id),
      ("version", .str d.version),
      ("name", .str d.name),
      ("description", .str d.description),
      ("slug", .str d.slug),
      ("is_public", .bool d.isPublic),
      ("is_published", .bool d.isPublished),
      ("published_at", d.publishedAt.elim .null .str),
      ("navigation", .obj d.navigation.toFields),
      ("pages", .arr (d.pages.map Page.toJson)),
      ("metadata", .obj d.metadata.toFields)] ++
    textField "created_at" d.createdAt ++ textField "updated_at" d.updatedAt ++ payment ++
    labelField "permissions" d.permissions ++ labelField "statuses" d.statuses
  Fields.merge own d.extras

def toJson (d : Document) : Json :=
  .obj d.toFields

end Document

end PageBuilder
