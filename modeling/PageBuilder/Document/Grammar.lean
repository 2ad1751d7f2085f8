import PageBuilder.Document.Completion
import PageBuilder.Document.Import

/-! # The grammar of imports

Which values are imported, said of their fields: what a document must hold, where it may stand, and
how it may come in. Fields that are not named here may hold anything. -/

namespace PageBuilder

namespace Json

/-- The value of a field of an object; a field that is absent is null. -/
def field (v : Json) (key : String) : Json :=
  Fields.value (v.fields?.getD []) key

/-- The items of the list in a field; another value there holds none. -/
def itemsAt (v : Json) (key : String) : List Json :=
  (v.field key).items?.getD []

end Json

namespace Document

/-- The pages of a stored document. -/
def storedPages (raw : Json) : List Json :=
  raw.itemsAt "pages"

/-- The components on the pages of a stored document. -/
def storedComponents (raw : Json) : List Json :=
  (storedPages raw).flatMap fun page => page.itemsAt "components"

end Document

/-- The action of a stored component is no text beyond a limit of the reader. -/
def Component.ActionFits [Json.Limits] (raw : Json) : Prop :=
  ∀ s, raw.field "action" = .str s → ∀ limit, Action.decodeText? s ≠ .error limit

/-- The record has an id, a text that is not blank. -/
def Fields.HasId (fs : Fields) : Prop :=
  ∃ id, value fs "id" = .str id ∧ Text.blank id = false

/-- The fields of a page that is read. -/
structure Page.Readable (fs : Fields) : Prop where
  id : fs.HasId
  components : fs.Typed "components" fun v => v = .null ∨ v.ListOf (Json.ObjectWith Fields.HasId)

/-- The values that labels are read from. -/
def Document.LabelsReadable (v : Json) : Prop :=
  v = .null ∨ v.IsText ∨ ∃ items, v = .arr items

/-- The fields of a document that is read. -/
structure Document.Readable (fs : Fields) : Prop where
  pages : ∃ stored : List Fields, Fields.value fs "pages" = .arr (stored.map .obj) ∧
    (∀ p ∈ stored, Page.Readable p) ∧ (stored.map (Fields.value · "id")).Nodup
  id : ∃ v, [Fields.value fs "id", Fields.value fs "slug", .str defaultId].find? Json.truthy =
    some v ∧ Text.blank v.display = false
  labels : ∀ key ∈ ["permissions", "statuses"], fs.Typed key LabelsReadable

/-- An object that reports success wraps the object in `data`, if that has pages. -/
structure Fields.Wraps (fs payload : Fields) : Prop where
  success : (value fs "success").truthy = true
  data : value fs "data" = .obj payload
  pages : has payload "pages" = true

/-- The fields of a document inside an object, in a format. -/
inductive SourceFormat.Places (fs : Fields) : SourceFormat → Fields → Prop
  | wrapped {payload : Fields} (h : fs.Wraps payload) : Places fs .legacy payload
  | plain (h : ∀ payload, ¬ fs.Wraps payload) (hpages : Fields.has fs "pages" = true) :
      Places fs .flattened fs

/-- A value that is imported: an object with the fields of a document inside. -/
def Document.Importable : Json → Prop :=
  Json.ObjectWith fun fs =>
    ∃ format payload, SourceFormat.Places fs format payload ∧ Readable payload

/-- The faults that an import reports. A value that is no object is reported before a document is
looked for in it, so the fault of a document that is no object is not among them. -/
def ImportError.Reported : ImportError → Prop
  | .document fault => fault ≠ .notADocument
  | _ => True

end PageBuilder
