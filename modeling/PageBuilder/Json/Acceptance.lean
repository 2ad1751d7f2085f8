import PageBuilder.Json.Basic

/-! # What a JSON Schema accepts

A JSON Schema is itself a value, and `accepts` checks another value against it. A keyword constrains
the values of one type and accepts all others, and a keyword that is not listed here, such as a
title, only describes. A whole number is one that is written without a point. -/

namespace PageBuilder.Json

/-- The value has the type of the given name. -/
def hasType (v : Json) (name : String) : Bool :=
  match v with
  | .null => name == "null"
  | .bool _ => name == "boolean"
  | .int _ => name == "integer" || name == "number"
  | .float _ => name == "number"
  | .str _ => name == "string"
  | .arr _ => name == "array"
  | .obj _ => name == "object"

/-- The value has the named type, or one of the named types. -/
def hasTypeIn (v : Json) : Json → Bool
  | .str name => v.hasType name
  | .arr names => names.any fun name => name.text?.any v.hasType
  | _ => false

/-- A number is at least the bound. -/
def isAtLeast (bound : Int) : Json → Bool
  | .int n => bound ≤ n
  | .float (.infinite negative) => !negative
  | .float x => x.signedUnits?.any (bound * (Binary64.unitsInOne : Int) ≤ ·)
  | _ => true

/-- A text has at least `n` characters. -/
def hasMinLength (n : Int) : Json → Bool
  | .str s => n ≤ s.length
  | _ => true

/-- A list has at least `n` items. -/
def hasMinItems (n : Int) : Json → Bool
  | .arr xs => n ≤ xs.length
  | _ => true

/-- An object has every one of the named fields. -/
def hasAll (names : List Json) : Json → Bool
  | .obj fs => names.all fun name => name.text?.any (Fields.has fs)
  | _ => true

mutual

/-- The JSON Schema accepts the value. -/
def accepts : Json → Json → Bool
  | .bool answer, _ => answer
  | .obj keywords, v => keywordsAccept keywords v
  | _, _ => false

/-- Every keyword accepts the value. -/
def keywordsAccept : List (String × Json) → Json → Bool
  | [], _ => true
  | (name, argument) :: keywords, v =>
    (match name, argument with
      | "type", types => v.hasTypeIn types
      | "minimum", .int bound => v.isAtLeast bound
      | "minLength", .int n => v.hasMinLength n
      | "minItems", .int n => v.hasMinItems n
      | "required", .arr names => v.hasAll names
      | "items", schema => (v.items?.getD []).all (accepts schema)
      | "properties", .obj properties => propertiesAccept properties (v.fields?.getD [])
      | "oneOf", .arr schemas => acceptCount schemas v == 1
      | _, _ => true) && keywordsAccept keywords v

/-- Every property that is present is accepted by its schema. -/
def propertiesAccept : List (String × Json) → Fields → Bool
  | [], _ => true
  | (key, schema) :: properties, fs =>
    (Fields.get? fs key).all (accepts schema) && propertiesAccept properties fs

/-- The number of schemas that accept the value. -/
def acceptCount : List Json → Json → Nat
  | [], _ => 0
  | schema :: schemas, v => (if accepts schema v then 1 else 0) + acceptCount schemas v

end

end PageBuilder.Json
