/-! # Faults of documents

Why a value is no document, or why a record cannot be made. `place` names the part of the document
in which the fault was met. -/

namespace PageBuilder

/-- The records of a document that have an id. -/
inductive Identified where
  | document
  | page
  | component
  deriving DecidableEq, Repr

/-- The word for the record in messages. -/
def Identified.word : Identified → String
  | .document => "schema"
  | .page => "page"
  | .component => "component"

/-- Why a value is no document. -/
inductive DocumentError where
  | notADocument
  | notAnObject (place : String)
  | missingId (place : String)
  | blankId (record : Identified)
  | pagesNotAList
  | componentsNotAList (place : String)
  | repeatedPage (id : String)
  | labelsNotAList
  deriving DecidableEq, Repr

def DocumentError.message : DocumentError → String
  | .notADocument => "schema payload must be an object"
  | .notAnObject place => place ++ " must be an object"
  | .missingId place => place ++ ".id must be a non-empty string"
  | .blankId record => record.word ++ " id must be a non-empty string"
  | .pagesNotAList => "pages must be a list"
  | .componentsNotAList place => place ++ ".components must be a list"
  | .repeatedPage id => "duplicate page id: " ++ id
  | .labelsNotAList => "permissions/statuses must be a list of strings"

end PageBuilder
