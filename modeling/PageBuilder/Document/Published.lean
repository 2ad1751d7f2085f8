import PageBuilder.Document.Grammar
import PageBuilder.Json.Shape

/-! # The published shape of documents

The shape that well made documents have. Reading is more lenient than the shape; what is written
after reading a document of this shape has it again. -/

namespace PageBuilder

namespace Shape

def anyText : Shape := .text false

def someText : Shape := .text true

end Shape

namespace Navigation

def shape : Shape :=
  .record [] [("guestPageId", .anyText), ("initialPageId", .anyText)]

end Navigation

namespace Metadata

def shape : Shape :=
  .record [] [("revision", .integer true), ("createdBy", .anyText)]

end Metadata

namespace Validation

def shape : Shape :=
  .record [] [("required", .flag), ("minLength", .integer true), ("maxLength", .integer true),
    ("min", .numberOrText), ("max", .numberOrText)]

end Validation

namespace Action

def shape : Shape :=
  .oneOf [.anyText, .record ["type"] [("type", .anyText), ("params", .record [] [])]]

end Action

namespace Component

def shape : Shape :=
  .record ["id", "type", "props"] <|
    [("id", .someText), ("type", .anyText), ("props", .record [] []),
      ("action", Action.shape), ("validation", Validation.shape)] ++
    OptionalKey.grid.map fun k => (k.name, .integer false)

end Component

namespace Page

def shape : Shape :=
  .record ["id", "components"]
    [("id", .someText), ("order", .integer false), ("title", .anyText),
      ("components", .list false Component.shape)]

end Page

namespace Document

/-- The shape of a whole document. -/
def shape : Shape :=
  .record ["id", "pages"]
    [("id", .someText), ("version", .anyText), ("name", .anyText), ("description", .anyText),
      ("slug", .anyText), ("is_public", .flag), ("is_published", .flag),
      ("published_at", .textOrNull), ("navigation", Navigation.shape),
      ("pages", .list true Page.shape), ("metadata", Metadata.shape), ("created_at", .anyText),
      ("updated_at", .anyText), ("payment", .anything), ("permissions", .list false .anyText),
      ("statuses", .list false .anyText)]

/-- The shape as a published JSON Schema. -/
def publishedSchema : Json :=
  .obj <|
    [("$schema", .str "https://json-schema.org/draft/2020-12/schema"),
      ("$id", .str "https://sdui.dev/schemas/sdui.schema.json"),
      ("title", .str "SDUI Mini-App Schema")] ++ shape.keywords

end Document

/-! ### The ids of a stored document -/

namespace Document

/-- No record of a stored document has a blank id, and different pages have different ids. -/
structure WellIdentified (raw : Json) : Prop where
  not_blank : ∀ v ∈ raw :: (storedPages raw ++ storedComponents raw),
    ∀ id, v.field "id" = .str id → Text.blank id = false
  pages_nodup : ((storedPages raw).map fun page => page.field "id").Nodup

end Document

end PageBuilder
