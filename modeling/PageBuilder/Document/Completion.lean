import PageBuilder.Document.Codec

/-! # Stored documents and their completion

A stored document may leave out fields, and it is read leniently where a value has another type than
its field. `WellTyped` says that no value has, and a `Completion` says what may then be written for
an object: every field that was there with its value, and the defaults of those that were not. -/

namespace PageBuilder

/-- Read a document and write it again. -/
def Document.normalize [Json.Limits] (raw : Json) : Except (Json.Halt DocumentError) Json :=
  (ofJson raw).map toJson

/-! ### Completions -/

/-- How an object is completed. A field of `inner` holds what is completed in turn, and any other
field keeps its value. -/
structure Completion where
  defaults : Fields := []
  inner : List (String × (Json → Json → Prop)) := []

namespace Completion

/-- How the stored value of a field and the written one are related. -/
def kept (c : Completion) (key : String) : Json → Json → Prop :=
  (c.inner.lookup key).getD (· = ·)

/-- What is written for a field that is stored, or for one that is not. -/
def Fills (c : Completion) (key : String) : Option Json → Option Json → Prop
  | some v, some w => c.kept key v w
  | some _, none => False
  | none, w? => w? = Fields.get? c.defaults key

/-- The fields `gs` complete the fields `fs`. -/
def Completes (c : Completion) (fs gs : Fields) : Prop :=
  ∀ key, c.Fills key (Fields.get? fs key) (Fields.get? gs key)

/-- An object is completed, and any other value stays as it is. -/
def Relates (c : Completion) : Json → Json → Prop
  | .obj fs, .obj gs => c.Completes fs gs
  | v, w => v = w

/-- Items are completed one by one, from number `index` on. -/
def EachItem (c : Nat → Completion) : Nat → List Json → List Json → Prop
  | _, [], [] => True
  | index, v :: vs, w :: ws => (c index).Relates v w ∧ EachItem c (index + 1) vs ws
  | _, _, _ => False

/-- The items of a list are completed. -/
def RelatesItems (c : Nat → Completion) : Json → Json → Prop
  | .arr vs, .arr ws => EachItem c 0 vs ws
  | _, _ => False

end Completion

/-- All fields are kept, perhaps in another order, and none is added. -/
def keepFields : Completion := {}

def Component.completion : Completion where
  defaults := [("type", .str ""), ("props", .obj [])]
  inner := [("validation", keepFields.Relates)]

/-- How the page number `index` is completed. -/
def Page.completion (index : Nat) : Completion where
  defaults := [("order", .int index), ("title", .str ""), ("components", .arr [])]
  inner := [("components", Completion.RelatesItems fun _ => Component.completion)]

/-- The id of a document that has none: its slug if that is not empty. -/
def Document.idOfSlug (slug : Json) : String :=
  (slug.text?.filter (· != "")).getD defaultId

/-- How a document with the given slug is completed. -/
def Document.completion (slug : Json) : Completion where
  defaults := [("id", .str (idOfSlug slug)), ("version", .str "1.0"), ("name", .str ""),
    ("description", .str ""), ("slug", .str ""), ("is_public", .bool false),
    ("is_published", .bool false), ("published_at", .null), ("navigation", .obj []),
    ("metadata", .obj [])]
  inner := [("navigation", keepFields.Relates), ("metadata", keepFields.Relates),
    ("pages", Completion.RelatesItems Page.completion)]

/-! ### Types of stored fields -/

namespace Json

def IsText (v : Json) : Prop := ∃ s, v = .str s

def IsFlag (v : Json) : Prop := ∃ b, v = .bool b

def IsObject (v : Json) : Prop := ∃ fs, v = .obj fs

/-- An object whose fields satisfy `p`. -/
def ObjectWith (p : Fields → Prop) (v : Json) : Prop := ∃ fs, v = .obj fs ∧ p fs

/-- A list whose items satisfy `p`. -/
def ListOf (p : Json → Prop) (v : Json) : Prop := ∃ xs, v = .arr xs ∧ ∀ x ∈ xs, p x

end Json

/-- The field satisfies `p` if it is present. -/
def Fields.Typed (fs : Fields) (key : String) (p : Json → Prop) : Prop :=
  ∀ v, get? fs key = some v → p v

structure Validation.WellTyped (fs : Fields) : Prop where
  required : fs.Typed "required" Json.IsFlag
  rules : ∀ key ∈ ["minLength", "maxLength", "min", "max"], fs.Typed key (· ≠ .null)

structure Component.WellTyped (fs : Fields) : Prop where
  type : fs.Typed "type" Json.IsText
  props : fs.Typed "props" fun v => v = .null ∨ v.IsObject
  action : fs.Typed "action" fun v => v = .null ∨ v.IsText ∨ v.IsObject
  validation : fs.Typed "validation" fun v => v = .null ∨ v.ObjectWith Validation.WellTyped

structure Page.WellTyped (fs : Fields) : Prop where
  order : fs.Typed "order" fun v => ∃ n, v = .int n
  title : fs.Typed "title" Json.IsText
  components : fs.Typed "components" (Json.ListOf (Json.ObjectWith Component.WellTyped))

structure Navigation.WellTyped (fs : Fields) : Prop where
  pages : ∀ key ∈ Navigation.keys, fs.Typed key Json.IsText

structure Metadata.WellTyped (fs : Fields) : Prop where
  revision : fs.Typed "revision" (· ≠ .null)
  createdBy : fs.Typed "createdBy" Json.IsText

/-- Every field of a stored document that is present has the type of the format. -/
structure Document.WellTyped (fs : Fields) : Prop where
  id : fs.Typed "id" fun v => v.IsText ∧ v ≠ .str ""
  texts : ∀ key ∈ ["version", "name", "description", "slug", "created_at", "updated_at"],
    fs.Typed key Json.IsText
  flags : ∀ key ∈ ["is_public", "is_published"], fs.Typed key Json.IsFlag
  publishedAt : fs.Typed "published_at" fun v => v = .null ∨ v.IsText
  navigation : fs.Typed "navigation" (Json.ObjectWith Navigation.WellTyped)
  metadata : fs.Typed "metadata" (Json.ObjectWith Metadata.WellTyped)
  payment : fs.Typed "payment" (· ≠ .null)
  labels : ∀ key ∈ ["permissions", "statuses"], fs.Typed key (Json.ListOf Json.IsText)
  pages : fs.Typed "pages" fun v => v.ListOf (Json.ObjectWith Page.WellTyped) ∧ v ≠ .arr []

end PageBuilder
