import PageBuilder.Json.Display
import PageBuilder.Json.Parser
import PageBuilder.Text.Blank

/-! # Actions

What a component does when it is used. An action is stored as a bare name, as an object with a
`type` and perhaps `params`, or as such an object written out as a text. `toJson?` writes an action
back the way it was stored. A text that looks like an object and is none is a name, but a text that
goes beyond the limits of the reader is no action at all.

## Implementation notes

An action that was read keeps the stored object in `source`. Only that object is written back, so
a missing type or odd parameters survive. -/

namespace PageBuilder

/-- The actions that the preview knows. -/
inductive ActionKind where
  | pushPage
  | popPage
  | submitForm
  | biometricAuth
  | toast
  | register
  deriving DecidableEq, Repr

namespace ActionKind

/-- The name by which documents refer to the action. -/
def name : ActionKind → String
  | .pushPage => "@pushPage"
  | .popPage => "@popPage"
  | .submitForm => "@submitForm"
  | .biometricAuth => "@biometricAuth"
  | .toast => "@toast"
  | .register => "@register"

def all : List ActionKind :=
  [.pushPage, .popPage, .submitForm, .biometricAuth, .toast, .register]

def ofName? (s : String) : Option ActionKind :=
  all.find? fun k => k.name == s

theorem ofName?_name (k : ActionKind) : ofName? k.name = some k := by
  cases k <;> decide

/-- The actions offered to authors. -/
def offered : List ActionKind :=
  [.pushPage, .popPage, .submitForm, .toast, .register]

/-- The token of such an action carries the whole action object. -/
def keepsParams : ActionKind → Bool
  | .submitForm | .biometricAuth | .toast => true
  | .pushPage | .popPage | .register => false

end ActionKind

/-- An action with parameters. `params` is absent if the stored object had no object there; other
keys, such as a `pageId` beside the type, are `extras`. -/
structure StructuredAction where
  type : String
  params : Option Fields
  extras : Fields
  source : Option Fields
  deriving Repr

/-- An action as it is stored on a component. -/
inductive Action where
  | named (name : String)
  | structured (action : StructuredAction)
  | serialized (raw : String) (decoded : StructuredAction)
  deriving Repr

namespace StructuredAction

/-- The action that an object describes. -/
def ofFields (fs : Fields) : StructuredAction where
  type := (Fields.value fs "type").displayOrEmpty
  params := (Fields.value fs "params").fields?
  extras := Fields.without fs ["type", "params"]
  source := some fs

/-- The stored object, or the object that describes an action made from its parts. -/
def toFields (a : StructuredAction) : Fields :=
  match a.source with
  | some fs => fs
  | none =>
    let params := match a.params with
      | some ps => [("params", Json.obj ps)]
      | none => []
    Fields.merge (("type", .str a.type) :: params) a.extras

end StructuredAction

namespace Action

section Reading

variable [Json.Limits]

/-- The action object that a text holds: an object, with white space around it, whose `type` is a
text. -/
def decodeText? (s : String) : Except Json.Overrun (Option Fields) :=
  let trimmed := Text.stripChars s.toList
  if trimmed.head? = some '{' then
    match Json.parseChars trimmed with
    | .ok (.obj fs) => .ok (if (Fields.value fs "type").text?.isSome then some fs else none)
    | .error (.overrun limit) => .error limit
    | _ => .ok none
  else .ok none

/-- The action that a text is, given the action object that it holds. -/
def ofText (s : String) (decoded : Option Fields) : Action :=
  decoded.elim (.named s) fun fs => .serialized s (.ofFields fs)

/-- Read a stored action; null is no action. -/
def ofJson? : Json → Except Json.Overrun (Option Action)
  | .null => .ok none
  | .obj fs => .ok (some (.structured (.ofFields fs)))
  | .str s => (decodeText? s).map fun decoded => some (ofText s decoded)
  | v => .ok (some (.named v.display))

end Reading

/-- A stored value that is no action and is taken for the name that it displays as. -/
def isCoerced : Json → Bool
  | .null | .obj _ | .str _ => false
  | _ => true

/-- The stored form of an action. -/
def toJson : Action → Json
  | .named name => .str name
  | .structured a => .obj a.toFields
  | .serialized raw _ => .str raw

theorem toJson_ofText (s : String) (decoded : Option Fields) :
    (ofText s decoded).toJson = .str s := by
  cases decoded <;> rfl

/-- The stored form of an action that may be absent. -/
def toJson? : Option Action → Json
  | none => .null
  | some a => a.toJson

end Action

end PageBuilder
