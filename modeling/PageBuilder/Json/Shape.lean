import PageBuilder.Json.Basic

/-! # Shapes of values

A shape says what kind of value stands in a place. It has two readings: `toJson` publishes it as a
JSON Schema, and `conforms` checks a value against it. A record may have fields beyond those its
shape names. -/

namespace PageBuilder

/-- The shape of a value. -/
inductive Shape where
  | anything
  | text (nonEmpty : Bool)
  | textOrNull
  | numberOrText
  | flag
  | integer (nonNegative : Bool)
  | list (nonEmpty : Bool) (items : Shape)
  | record (required : List String) (properties : List (String × Shape))
  | oneOf (options : List Shape)

namespace Shape

/-- A JSON Schema keyword that names a type. -/
def typeKeyword (name : String) : String × Json :=
  ("type", .str name)

mutual

/-- The shape as a JSON Schema. -/
def keywords : Shape → Fields
  | .anything => []
  | .text nonEmpty => typeKeyword "string" :: (if nonEmpty then [("minLength", .int 1)] else [])
  | .textOrNull => [("type", .arr [.str "string", .str "null"])]
  | .numberOrText => [("type", .arr [.str "number", .str "string"])]
  | .flag => [typeKeyword "boolean"]
  | .integer nonNegative =>
    typeKeyword "integer" :: (if nonNegative then [("minimum", .int 0)] else [])
  | .list nonEmpty items =>
    typeKeyword "array" :: (if nonEmpty then [("minItems", .int 1)] else []) ++
      [("items", .obj (keywords items))]
  | .record required properties =>
    typeKeyword "object" ::
      (if required.isEmpty then [] else [("required", .arr (required.map .str))]) ++
      (if properties.isEmpty then [] else [("properties", .obj (propertyKeywords properties))])
  | .oneOf options => [("oneOf", .arr (optionKeywords options))]

def propertyKeywords : List (String × Shape) → Fields
  | [] => []
  | p :: ps => (p.1, .obj (keywords p.2)) :: propertyKeywords ps

def optionKeywords : List Shape → List Json
  | [] => []
  | s :: ss => .obj (keywords s) :: optionKeywords ss

end

/-- The shape as a JSON Schema. -/
def toJson (s : Shape) : Json :=
  .obj (keywords s)

mutual

/-- The value has the shape. -/
def conforms : Shape → Json → Bool
  | .anything, _ => true
  | .text nonEmpty, .str s => !nonEmpty || s != ""
  | .textOrNull, .str _ => true
  | .textOrNull, .null => true
  | .numberOrText, .int _ => true
  | .numberOrText, .float _ => true
  | .numberOrText, .str _ => true
  | .flag, .bool _ => true
  | .integer nonNegative, .int n => !nonNegative || 0 ≤ n
  | .list nonEmpty items, .arr xs => (!nonEmpty || !xs.isEmpty) && xs.all (conforms items)
  | .record required properties, .obj fs =>
    required.all (Fields.has fs) && propertiesConform properties fs
  | .oneOf options, v => conformCount options v == 1
  | _, _ => false

/-- Every property that is present has its shape. -/
def propertiesConform : List (String × Shape) → Fields → Bool
  | [], _ => true
  | p :: ps, fs => (Fields.get? fs p.1).all (conforms p.2) && propertiesConform ps fs

/-- The number of shapes that the value has. -/
def conformCount : List Shape → Json → Nat
  | [], _ => 0
  | s :: ss, v => (if conforms s v then 1 else 0) + conformCount ss v

end

end Shape

end PageBuilder
