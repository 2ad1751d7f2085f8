import PageBuilder.Document.Import
import PageBuilder.Preview.Execution

/-! # Advice

Findings about an input that do not stop the work on it. Functions that give advice stand beside
the functions that do the work: `advice` lists what would be said, in order, and the work itself
stays free of it. -/

namespace PageBuilder

/-- Something to tell the author. -/
inductive Advice where
  | propsNotAnObject (place : String)
  | actionCoerced (value : Json)
  | importRejected (error : ImportError)
  | repeatedComponent (id : String)
  | unknownToken (fault : TokenFault)
  | unsupportedComponent (id type : String)
  | missingPage (page document : String)
  | noInput (id page : String)
  | noEffect (id page : String)
  deriving Repr

def Advice.message : Advice → String
  | .propsNotAnObject place => place ++ ".props is not an object; using empty props"
  | .actionCoerced v =>
    "coercing non-string action value " ++ String.ofList v.literal ++ " to a named action"
  | .importRejected e => "schema import rejected: " ++ e.detail
  | .repeatedComponent id => "imported schema reuses component id `" ++ id ++ "`"
  | .unknownToken fault => "could not parse action token: " ++ fault.message
  | .unsupportedComponent id type => "component " ++ id ++ " has unsupported type `" ++ type ++ "`"
  | .missingPage page document => "page `" ++ page ++ "` not found in schema `" ++ document ++ "`"
  | .noInput id page => "--fill: `" ++ id ++ "` is not an input on page " ++ page
  | .noEffect id page => "--click: `" ++ id ++ "` did nothing on page " ++ page

end PageBuilder
