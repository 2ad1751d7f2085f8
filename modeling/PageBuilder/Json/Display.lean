import PageBuilder.Binary64.Layout
import PageBuilder.Json.Basic
import PageBuilder.Text.Literal

/-! # Values as text

How a value reads when a text is expected in its place: a text is itself, any other value is its
literal. Inside lists and objects texts are quoted. -/

namespace PageBuilder.Json

mutual

/-- The literal of a value. -/
def literal : Json → List Char
  | .null => "None".toList
  | .bool true => "True".toList
  | .bool false => "False".toList
  | .int n => Numeral.ofInt n
  | .float x => Binary64.Layout.plain.write x
  | .str s => Text.literal s
  | .arr xs => '[' :: (literalItems xs ++ [']'])
  | .obj fs => '{' :: (literalFields fs ++ ['}'])

def literalItems : List Json → List Char
  | [] => []
  | [x] => literal x
  | x :: y :: xs => literal x ++ ',' :: ' ' :: literalItems (y :: xs)

def literalFields : List (String × Json) → List Char
  | [] => []
  | [f] => Text.literal f.1 ++ ':' :: ' ' :: literal f.2
  | f :: g :: fs =>
    Text.literal f.1 ++ ':' :: ' ' :: (literal f.2 ++ ',' :: ' ' :: literalFields (g :: fs))

end

/-- The value where a text is expected. -/
def display : Json → String
  | .str s => s
  | v => String.ofList (literal v)

/-- The value as a text, absent for null. -/
def displayUnlessNull? : Json → Option String
  | .null => none
  | v => some v.display

/-- The value as a text, empty for null. -/
def displayOrEmpty (v : Json) : String :=
  v.displayUnlessNull?.getD ""

@[simp] theorem display_str (s : String) : display (.str s) = s := rfl

@[simp] theorem displayUnlessNull?_str (s : String) : displayUnlessNull? (.str s) = some s := rfl

@[simp] theorem displayUnlessNull?_null : displayUnlessNull? .null = none := rfl

end PageBuilder.Json
