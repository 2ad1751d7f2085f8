import PageBuilder.Document.Codec

/-! # Edits of settings

A change of settings names settings and their new values. Texts are taken as they display, a record
with the names of its fields; lists of labels lose white space around labels, blank labels and
repetitions. -/

namespace PageBuilder

/-- The settings that can be changed. -/
inductive Setting where
  | id
  | name
  | version
  | description
  | slug
  | isPublic
  | permissions
  | statuses
  | navigation
  deriving DecidableEq, Repr

namespace Setting

/-- The name of the setting. -/
def key : Setting → String
  | .id => "id"
  | .name => "name"
  | .version => "version"
  | .description => "description"
  | .slug => "slug"
  | .isPublic => "is_public"
  | .permissions => "permissions"
  | .statuses => "statuses"
  | .navigation => "navigation"

def all : List Setting :=
  [.id, .name, .version, .description, .slug, .isPublic, .permissions, .statuses, .navigation]

def ofKey? (key : String) : Option Setting :=
  all.find? fun s => s.key == key

end Setting

/-- The new value of a setting: a plain value or a navigation record. -/
inductive SettingValue where
  | plain (v : Json)
  | record (n : Navigation)
  deriving Repr

/-- Settings with their new values, in order. -/
abbrev SettingsChange := List (String × SettingValue)

/-- Why settings are not changed. -/
inductive SettingsError where
  /-- The name of the whole document, which is no setting. -/
  | reservedName
  | unknownSettings (names : List String)
  | labelsNotIterable
  | navigationNotARecord
  | document (error : DocumentError)
  deriving DecidableEq, Repr

namespace SettingsError

/-- The message of a fault that has one. -/
def message? : SettingsError → Option String
  | .reservedName | .labelsNotIterable => none
  | .unknownSettings names => some ("unknown schema settings: " ++ ", ".intercalate names)
  | .navigationNotARecord => some "navigation must be a Navigation record"
  | .document e => some e.message

end SettingsError

/-- The values in a value: the characters of a text, the keys of an object, the items of a list. -/
def labelValues? : Json → Option (List Json)
  | .str s => some (s.toList.map fun c => .str (String.singleton c))
  | .arr xs => some xs
  | .obj fs => some (fs.map fun f => .str f.1)
  | _ => none

/-- The labels that values stand for: as texts without white space at the ends, blank ones left
out, each once and in the order of first occurrence. -/
def normalLabels (vs : List Json) : List String :=
  let labels := (vs.map fun v => Text.strip v.display).filter (· != "")
  labels.foldl (fun acc l => if acc.contains l then acc else acc ++ [l]) []

/-- The record where a text is expected. -/
def Navigation.display (n : Navigation) : String :=
  let guest := Json.literal (n.guestPageId.elim .null .str)
  let initial := Json.literal (n.initialPageId.elim .null .str)
  String.ofList ("Navigation(guest_page_id=".toList ++ guest ++ ", initial_page_id=".toList ++
    initial ++ ", extras=".toList ++ Json.literal (.obj n.extras) ++ [')'])

namespace SettingsChange

/-- New labels; null removes them. -/
def labels : SettingValue → Except SettingsError (Option (List String))
  | .plain .null => .ok none
  | .plain v =>
    match labelValues? v with
    | some vs => .ok (some (normalLabels vs))
    | none => .error .labelsNotIterable
  | .record _ => .error .labelsNotIterable

/-- A value as it displays. -/
def text : SettingValue → String
  | .plain v => v.display
  | .record n => n.display

/-- A value as a yes or no. -/
def flag : SettingValue → Bool
  | .plain v => v.truthy
  | .record _ => true

/-- Change one setting. -/
def apply (d : Document) : Setting → SettingValue → Except SettingsError Document
  | .id, v => .ok { d with id := text v }
  | .name, v => .ok { d with name := text v }
  | .version, v => .ok { d with version := text v }
  | .description, v => .ok { d with description := text v }
  | .slug, v => .ok { d with slug := text v }
  | .isPublic, v => .ok { d with isPublic := flag v }
  | .permissions, v => (labels v).map fun ls => { d with permissions := ls }
  | .statuses, v => (labels v).map fun ls => { d with statuses := ls }
  | .navigation, .record n => .ok { d with navigation := n }
  | .navigation, .plain _ => .error .navigationNotARecord

/-- Change the settings one after the other. -/
def applyAll (d : Document) : SettingsChange → Except SettingsError Document
  | [] => .ok d
  | (key, v) :: rest =>
    match Setting.ofKey? key with
    | none => .error (.unknownSettings [key])
    | some s =>
      match apply d s v with
      | .error e => .error e
      | .ok d => applyAll d rest

/-- The names that are no settings, in order. -/
def unknownNames (change : SettingsChange) : List String :=
  ((change.map Prod.fst).filter fun key => (Setting.ofKey? key).isNone).mergeSort fun a b => a ≤ b

end SettingsChange

namespace Document

/-- Change settings; the id that results must not be blank. -/
def updateSettings (d : Document) (change : SettingsChange) : Except SettingsError Document :=
  if (change.map Prod.fst).contains "schema" then .error .reservedName
  else if !change.unknownNames.isEmpty then .error (.unknownSettings change.unknownNames)
  else
    match change.applyAll d with
    | .error e => .error e
    | .ok d =>
      match d.check with
      | .error e => .error (.document e)
      | .ok d => .ok d

end Document

end PageBuilder
