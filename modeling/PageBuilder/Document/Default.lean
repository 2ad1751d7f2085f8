import PageBuilder.Document.Codec
import PageBuilder.Document.Timestamp

/-! # The first document

The document that an editor without one starts with. -/

namespace PageBuilder.Document

/-- The document made at a time with the given written form, if it has one. -/
def initial (timestamp : Option String) : Document where
  id := defaultId
  pages := [.welcome]
  name := "Builder App"
  description := "SDUI Builder Application"
  slug := defaultId
  navigation := { guestPageId := some Page.welcome.id, initialPageId := some Page.welcome.id }
  metadata := { revision := .int 1, createdBy := some "builder" }
  createdAt := timestamp
  updatedAt := timestamp

end PageBuilder.Document
