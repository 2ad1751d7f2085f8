import PageBuilder.Document.Codec
import PageBuilder.Json.Parser
import PageBuilder.Json.Printer
import PageBuilder.Text.Utf8

/-! # Import and export

Documents come in two formats: flattened, with `pages` at the top, and legacy, wrapped as `data` of
an object that reports `success`. What is exported is flattened. -/

namespace PageBuilder

/-- The outer shape of an imported document. -/
inductive SourceFormat where
  | legacy
  | flattened
  deriving DecidableEq, Repr

def SourceFormat.name : SourceFormat → String
  | .legacy => "legacy"
  | .flattened => "flattened"

/-- Why a document is not imported. -/
inductive ImportError where
  | notUtf8 (fault : Text.Utf8.Fault)
  | notJson (fault : Json.Fault)
  | notAnObject
  | unknownFormat
  | pagesNotAList
  | document (error : DocumentError)
  deriving DecidableEq, Repr

namespace ImportError

/-- The reason given to the author. -/
def reason : ImportError → String
  | .notUtf8 _ | .notJson _ => "Invalid JSON format"
  | .notAnObject => "document must be a JSON object"
  | .unknownFormat =>
    "Invalid SDUI schema format. Use either the legacy format (with success/data wrapper) " ++
      "or the flattened format."
  | .pagesNotAList => "pages must be a list"
  | .document e => e.message

/-- The reason with its detail, for the log. -/
def detail : ImportError → String
  | .notUtf8 fault => "input is not UTF-8 (" ++ fault.message ++ ")"
  | .notJson fault => "invalid JSON (" ++ fault.message ++ ")"
  | e => e.reason

end ImportError

/-- An imported document. -/
structure Imported where
  document : Document
  initialPageId : String
  format : SourceFormat
  deriving Repr

/-- The fields of the document inside a value, with the format that they were found in. -/
def SourceFormat.detect (fs : Fields) : Except ImportError (SourceFormat × Fields) :=
  let data := if (Fields.value fs "success").truthy then Fields.value fs "data" else .null
  match data.fields?.filter fun payload => Fields.has payload "pages" with
  | some payload => .ok (.legacy, payload)
  | none => if Fields.has fs "pages" then .ok (.flattened, fs) else .error .unknownFormat

namespace Document

/-- The page that an imported document opens on. -/
def firstPageId (d : Document) : String :=
  (d.pages.head?.map Page.id).getD Page.welcome.id

section Reading

variable [Json.Limits]

/-- Import a value. -/
def importJson : Json → Except (Json.Halt ImportError) Imported
  | .obj fs =>
    match SourceFormat.detect fs with
    | .error e => .error (.fault e)
    | .ok (format, payload) =>
      if (Fields.value payload "pages").items?.isNone then .error (.fault .pagesNotAList)
      else
        match ofJson (.obj payload) with
        | .error halt => .error (halt.map .document)
        | .ok d => .ok ⟨d, d.firstPageId, format⟩
  | _ => .error (.fault .notAnObject)

/-- Import a text. -/
def importText (s : String) : Except (Json.Halt ImportError) Imported :=
  match Json.parse s with
  | .error halt => .error (halt.map .notJson)
  | .ok v => importJson v

/-- Import the bytes of a file. -/
def importBytes (bytes : List UInt8) : Except (Json.Halt ImportError) Imported :=
  match Text.Utf8.decode bytes with
  | .error fault => .error (.fault (.notUtf8 fault))
  | .ok s => importText s

end Reading

/-- The text of a document, in the flattened format. -/
def exportText (d : Document) : String :=
  d.toJson.prettyText

/-- The name of the file that a document is exported to. -/
def exportFilename (d : Document) (milliseconds : Int) : String :=
  let stem := if d.name != "" then d.name else if d.id != "" then d.id else "sdui-schema"
  stem ++ "-" ++ Numeral.text milliseconds ++ ".json"

end Document

/-- A document on its way in: a value, a text or bytes. -/
inductive Incoming where
  | value (v : Json)
  | text (s : String)
  | bytes (bs : List UInt8)
  deriving Repr

/-- Import what came in. -/
def Incoming.read [Json.Limits] : Incoming → Except (Json.Halt ImportError) Imported
  | .value v => Document.importJson v
  | .text s => Document.importText s
  | .bytes bs => Document.importBytes bs

end PageBuilder
