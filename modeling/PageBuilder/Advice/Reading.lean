import PageBuilder.Advice.Basic

/-! # Advice on reading documents

What is said while a document is read. Reading goes from the first page to the last and stops at the
first fault, and so does the advice. -/

namespace PageBuilder

/-- Advice on a stored action. -/
def Action.advice (raw : Json) : List Advice :=
  if Action.isCoerced raw then [.actionCoerced raw] else []

/-- Advice on a component. -/
def Component.advice (place : String) : Json → List Advice
  | .obj fs =>
    let props := Fields.value fs "props"
    if (identifier? (Fields.value fs "id")).isNone then []
    else (if props.isNull || props.fields?.isSome then [] else [.propsNotAnObject place]) ++
      Action.advice (Fields.value fs "action")
  | _ => []

variable [Json.Limits]

namespace Page

/-- Advice on the components from number `index` on. -/
def componentsAdvice (pagePlace : String) : Nat → List Json → List Advice
  | _, [] => []
  | index, raw :: rest =>
    let place := componentPlace pagePlace index
    Component.advice place raw ++
      (match Component.ofJson place raw with
        | .ok _ => componentsAdvice pagePlace (index + 1) rest
        | .error _ => [])

/-- Advice on the page number `index`. -/
def advice (index : Int) : Json → List Advice
  | .obj fs =>
    if (identifier? (Fields.value fs "id")).isNone then []
    else componentsAdvice (place index) 0 ((storedComponents? fs).getD [])
  | _ => []

end Page

namespace Document

/-- Advice on the pages from number `index` on. -/
def pagesAdvice : Nat → List Json → List Advice
  | _, [] => []
  | index, raw :: rest =>
    Page.advice index raw ++
      (match Page.ofJson index raw with
        | .ok _ => pagesAdvice (index + 1) rest
        | .error _ => [])

/-- Advice on a document. -/
def advice (raw : Json) : List Advice :=
  match raw.fields? with
  | some fs => pagesAdvice 0 ((Fields.value fs "pages").items?.getD [])
  | none => []

/-- The elements of a list that stand before in it. -/
def repeated (seen : List String) : List String → List String
  | [] => []
  | x :: xs => if seen.contains x then x :: repeated seen xs else repeated (x :: seen) xs

end Document

namespace Incoming

/-- The value that comes in, if it can be read at all. -/
def json? : Incoming → Option Json
  | .value v => some v
  | .text s => (Json.parse s).toOption
  | .bytes bs =>
    match Text.Utf8.decode bs with
    | .ok s => (Json.parse s).toOption
    | .error _ => none

/-- The document inside a value that comes in, if it has the outer shape of one. -/
def payload? (i : Incoming) : Option Json :=
  match i.json?.bind Json.fields? with
  | none => none
  | some fs =>
    match SourceFormat.detect fs with
    | .ok (_, payload) => some (.obj payload)
    | .error _ => none

/-- Advice on an import. -/
def advice (i : Incoming) : List Advice :=
  (i.payload?.elim [] Document.advice) ++
    (match i.read with
      | .error (.fault e) => [.importRejected e]
      | .error (.overrun _) => []
      | .ok imported =>
        (Document.repeated [] imported.document.componentIds).map .repeatedComponent)

end Incoming

end PageBuilder
